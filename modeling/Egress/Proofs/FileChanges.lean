import Mathlib.Data.List.Basic
import Egress.Daemon.Watch
import Egress.Proofs.DaemonSteps

/-!
# Files that come and go

What a name in a directory holds after files were replaced, renamed and removed, and where a path
leads that is no more than a name. Three things can happen to a name: something is put there, what
is there is renamed to another name, or it is removed. A renaming concerns two names, and a renaming
of what is not there concerns none.
-/

namespace Egress

/-! ## The place of a name -/

/-- A name that a file in a directory can have. -/
structure IsFileName (name : String) : Prop where
  ne_empty : name ≠ ""
  slash_not_mem : '/' ∉ name.toList
  ne_dot : name ≠ "."
  ne_dots : name ≠ ".."

namespace IsFileName

variable {name : String}

theorem pathParts_eq (isName : IsFileName name) : pathParts name = [name] := by
  have single : name.toList.splitOn '/' = [name.toList] := by
    have parts : (['/'].intercalate [name.toList]).splitOn '/' = [name.toList] := by
      apply List.splitOn_intercalate
      · intro part mem
        rw [List.mem_singleton.mp mem]
        exact isName.slash_not_mem
      · simp
    simpa using parts
  have nonempty : name.toList ≠ [] := by
    rw [ne_eq, String.toList_eq_nil_iff]
    exact isName.ne_empty
  simp [pathParts, single, nonempty]

theorem relative (isName : IsFileName name) : name.toList.head? ≠ some '/' := by
  intro first
  exact isName.slash_not_mem (List.mem_of_mem_head? first)

theorem spot_eq (isName : IsFileName name) (d : Directory) : d.spot name = .inside [name] := by
  rw [Directory.spot, isName.pathParts_eq, if_neg isName.relative]
  simp [Directory.step, Directory.canLeave, Directory.isDirectory, isName.ne_dot, isName.ne_dots]

theorem place_eq (isName : IsFileName name) (d : Directory) :
    d.place name = d.placeAt (.inside [name]) := by
  have last : name.toList.getLast? ≠ some '/' := by
    intro ends
    exact isName.slash_not_mem (List.mem_of_getLast? ends)
  rw [Directory.place, isName.spot_eq]
  exact if_neg fun h => last h.1

theorem place_of_content {d : Directory} {bytes : List UInt8} (isName : IsFileName name)
    (held : d.content? name = some bytes) : d.place name = .file bytes := by
  have joined : Directory.joined [name] = name := rfl
  rw [isName.place_eq]
  simp only [Directory.placeAt, joined, held]

/-- Only a file can be loaded. -/
theorem snapshot?_place_of_missing {d : Directory} (isName : IsFileName name)
    (missing : d.content? name = none) : Payload.snapshot? (d.place name) = none := by
  have joined : Directory.joined [name] = name := rfl
  rw [isName.place_eq]
  simp only [Directory.placeAt, joined, missing]
  split_ifs <;> rfl

/-- A name alone can always be watched. -/
theorem exists_start (isName : IsFileName name) (d : Directory) :
    ∃ w, Watcher.start d name = .ok w ∧ w.value = ⟨name, name⟩ := by
  have named : fileName? name = some name := by
    have other : ¬ name = ".." := isName.ne_dots
    simp [fileName?, isName.pathParts_eq, isName.ne_dot, other]
  have spot : d.parentSpot name = .inside [] := by
    rw [Directory.parentSpot, isName.pathParts_eq, if_neg isName.relative]
    simp [isName.ne_dot]
  have parent : d.hasParent name = true := by
    rw [Directory.hasParent, spot, Directory.placeAt]
    split <;> rfl
  have started : Watcher.start d name =
      .ok (Traced.report .watching >>= fun _ => pure ⟨name, name⟩) := by
    rw [Watcher.start, named]
    exact if_pos parent
  exact ⟨_, started, rfl⟩

end IsFileName

/-! ## Changes of a name -/

namespace Directory

variable {d : Directory} {name : String}

/-- Taking away a file leaves the others as they are. -/
theorem find?_filter_ne (files : List (String × List UInt8)) (gone name : String) :
    (files.filter (fun f => f.1 != gone)).find? (fun f => f.1 == name) =
      if gone = name then none else files.find? (fun f => f.1 == name) := by
  rw [List.find?_filter]
  by_cases same : gone = name
  · rw [if_pos same, List.find?_eq_none]
    intro f _
    simp [same]
  · rw [if_neg same]
    congr 1
    funext f
    by_cases found : f.1 = name
    · simp [found, Ne.symm same]
    · simp [found]

theorem content?_erase (d : Directory) (gone name : String) :
    (d.erase gone).content? name = if gone = name then none else d.content? name := by
  rw [content?, erase, find?_filter_ne]
  split_ifs <;> rfl

theorem content?_put (d : Directory) (made : String) (bytes : List UInt8) (name : String) :
    (d.put made bytes).content? name = if made = name then some bytes else d.content? name := by
  rw [content?, put, List.find?_append, find?_filter_ne]
  by_cases same : made = name
  · simp [same]
  · simp [same, content?]

/-- Whether a change makes a file of a name, puts another in its place, or renames one to it. -/
def puts (d : Directory) (name : String) : Change → Bool
  | .replace n _ => n == name
  | .rename source target => target == name && source != name && (d.content? source).isSome
  | .remove _ => false

/-- Whether a change renames the file of a name to another name. -/
def movesAway (d : Directory) (name : String) : Change → Bool
  | .rename source target => source == name && target != name && (d.content? name).isSome
  | _ => false

/-- Whether a change makes, replaces or renames a file of a name. Removals are left out. -/
def touches (d : Directory) (name : String) (c : Change) : Bool :=
  d.puts name c || d.movesAway name c

theorem touches_rename_iff {source target : String} :
    d.touches name (.rename source target) = true ↔
      source ≠ target ∧ (d.content? source).isSome = true ∧ (source = name ∨ target = name) := by
  simp only [touches, puts, movesAway, Bool.or_eq_true, Bool.and_eq_true, beq_iff_eq, bne_iff_ne]
  constructor
  · rintro (⟨⟨rfl, differs⟩, held⟩ | ⟨⟨rfl, differs⟩, held⟩)
    · exact ⟨differs, held, Or.inr rfl⟩
    · exact ⟨Ne.symm differs, held, Or.inl rfl⟩
  · rintro ⟨differs, held, rfl | rfl⟩
    · exact Or.inr ⟨⟨rfl, Ne.symm differs⟩, held⟩
    · exact Or.inl ⟨⟨rfl, differs⟩, held⟩

theorem content?_apply_rename {source target : String} {bytes : List UInt8}
    (held : d.content? source = some bytes) (differs : source ≠ target) (name : String) :
    (d.apply (.rename source target)).content? name =
      if target = name then some bytes
      else if source = name then none else d.content? name := by
  simp only [apply, held, if_neg differs]
  rw [content?_put, content?_erase]

theorem apply_rename_of_missing {source : String} (missing : d.content? source = none)
    (target : String) : d.apply (.rename source target) = d := by
  simp only [apply, missing]

theorem apply_rename_self (d : Directory) (name : String) : d.apply (.rename name name) = d := by
  cases held : d.content? name <;> simp [apply, held]

theorem content?_apply_of_movesAway {c : Change} (moves : d.movesAway name c = true) :
    (d.apply c).content? name = none := by
  cases c with
  | replace | remove => cases moves
  | rename source target =>
    simp only [movesAway, Bool.and_eq_true, beq_iff_eq, bne_iff_ne,
      Option.isSome_iff_exists] at moves
    obtain ⟨⟨rfl, differs⟩, bytes, held⟩ := moves
    rw [content?_apply_rename held (Ne.symm differs), if_neg differs, if_pos rfl]

/-- What is at a name after a change that puts nothing there was there before. -/
theorem content?_of_apply {c : Change} (keeps : d.puts name c = false) {bytes : List UInt8}
    (held : (d.apply c).content? name = some bytes) : d.content? name = some bytes := by
  cases c with
  | replace made content =>
    have differs : made ≠ name := by simpa [puts] using keeps
    rwa [apply, content?_put, if_neg differs] at held
  | remove gone =>
    rw [apply, content?_erase] at held
    split at held
    · cases held
    · exact held
  | rename source target =>
    by_cases same : source = target
    · rwa [same, apply_rename_self] at held
    · cases moved : d.content? source with
      | none => rwa [apply_rename_of_missing moved] at held
      | some content =>
        have elsewhere : target ≠ name := by
          rintro rfl
          simp [puts, moved, same] at keeps
        rw [content?_apply_rename moved same, if_neg elsewhere] at held
        split at held
        · cases held
        · exact held

end Directory

end Egress
