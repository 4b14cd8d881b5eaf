import Mathlib
import Egress.Proofs.Directives
import Egress.Settings

/-!
# The log level in force

The log level of the settings is read twice. The check takes it for a filter of its own. For the
running program it is put behind the program's name, twice, in the middle of a longer filter. So
only the part before its first comma is meant for the program, the directives behind it stand in the
longer filter as they are, and a part that cannot stand behind a name is left out without a word.
The two readings agree on a single level. For all other texts that pass the check it is said here
when they agree.
-/

namespace Egress

namespace LogFilter

variable {target : String} {fields : List String} {level text : String}

/-! ## What a filter lets pass -/

/-- The least serious level of events with the given target and fields that passes. -/
def limit (f : LogFilter) (target : String) (fields : List String) : Threshold :=
  (f.decisive target.toList (fields.map String.toList)).bind Directive.threshold

/-- Whether two filters let the same events with the given target and fields pass. -/
def Agree (f g : LogFilter) (target : String) (fields : List String) : Prop :=
  ∀ level, f.admits target fields level = g.admits target fields level

theorem admits_eq_limit_admits (f : LogFilter) (level : Level) :
    f.admits target fields level = (f.limit target fields).admits level := by
  rw [admits, limit]
  cases f.decisive target.toList (fields.map String.toList) <;> rfl

/-- A threshold is known by what it lets pass. -/
theorem Threshold.ext_admits {t u : Threshold} (same : ∀ level, t.admits level = u.admits level) :
    t = u := by
  have least (level : Level) : Threshold.admits (some level) level = true := by
    simp [Threshold.admits]
  rcases t with _ | t <;> rcases u with _ | u
  · rfl
  · have passes := (same u).trans (least u)
    cases passes
  · have passes := (same t).symm.trans (least t)
    cases passes
  · have below : t.rank ≤ u.rank := by simpa [Threshold.admits] using (same t).symm.trans (least t)
    have above : u.rank ≤ t.rank := by simpa [Threshold.admits] using (same u).trans (least u)
    have ranks : t.rank = u.rank := Nat.le_antisymm below above
    cases t <;> cases u <;> first | rfl | cases ranks

theorem agree_iff_limit_eq (f g : LogFilter) :
    f.Agree g target fields ↔ f.limit target fields = g.limit target fields := by
  constructor
  · intro agree
    apply Threshold.ext_admits
    intro level
    rw [← admits_eq_limit_admits, ← admits_eq_limit_admits, agree]
  · intro same level
    rw [admits_eq_limit_admits, admits_eq_limit_admits, same]

/-! ## The directives of a log level -/

/-- The part of a log level before the first comma. -/
def firstPart (text : String) : List Char :=
  (text.toList.splitOn ',').headD []

def laterParts (text : String) : List (List Char) :=
  (text.toList.splitOn ',').tail

theorem splitOn_eq_parts (text : String) :
    text.toList.splitOn ',' = firstPart text :: laterParts text := by
  obtain ⟨first, later, split⟩ := List.exists_cons_of_ne_nil (List.splitOn_ne_nil ',' text.toList)
  rw [firstPart, laterParts, split]
  rfl

/-- A name in front of a text goes to its first part. -/
theorem splitOn_behind_name {name : List Char} (free : ∀ c ∈ name, c ≠ ',') (text : String) :
    (name ++ text.toList).splitOn ',' = (name ++ firstPart text) :: laterParts text := by
  induction name with
  | nil => exact splitOn_eq_parts text
  | cons c name ih =>
    obtain ⟨here, free⟩ := List.forall_mem_cons.mp free
    have inside : ¬ (c == ',') = true := by simpa using here
    rw [List.splitOn] at ih ⊢
    rw [List.cons_append, List.splitOnP_cons_eq_if_modifyHead, if_neg inside, ih free]
    rfl

/-- The directives of the parts between commas; what cannot be read is left out. -/
def readParts (parts : List (List Char)) : List Directive :=
  (parts.filter fun part => !part.isEmpty).filterMap Directive.parse?

theorem readParts_cons {part : List Char} (nonempty : part ≠ []) (parts : List (List Char)) :
    readParts (part :: parts) = (Directive.parse? part).toList ++ readParts parts := by
  have kept : (!part.isEmpty) = true := by simpa using nonempty
  rw [readParts, List.filter_cons_of_pos (by exact kept), List.filterMap_cons, readParts]
  cases Directive.parse? part <;> rfl

theorem readParts_append (parts parts' : List (List Char)) :
    readParts (parts ++ parts') = readParts parts ++ readParts parts' := by
  rw [readParts, List.filter_append, List.filterMap_append, readParts, readParts]

theorem parseLenient_eq (text : String) :
    parseLenient text = ofDirectives (readParts (text.toList.splitOn ',')) :=
  rfl

theorem filterMap_of_mapM {α β : Type} {f : α → Option β} {xs : List α} {ys : List β}
    (mapped : xs.mapM f = some ys) : xs.filterMap f = ys ∧ ∀ x ∈ xs, (f x).isSome = true := by
  induction xs generalizing ys with
  | nil =>
    cases mapped
    exact ⟨rfl, by simp⟩
  | cons x xs ih =>
    rw [List.mapM_cons] at mapped
    cases here : f x with
    | none =>
      rw [here] at mapped
      cases mapped
    | some y =>
      cases rest : xs.mapM f with
      | none =>
        rw [here, rest] at mapped
        cases mapped
      | some zs =>
        rw [here, rest] at mapped
        cases mapped
        obtain ⟨same, all⟩ := ih rest
        have present : (f x).isSome = true := by rw [here, Option.isSome_some]
        refine ⟨?_, List.forall_mem_cons.mpr ⟨present, all⟩⟩
        rw [List.filterMap_cons, here, same]

theorem ofDirectives_of_ne_nil {ds : List Directive} (nonempty : ds ≠ []) :
    ofDirectives ds = ⟨ds⟩ := by
  cases ds with
  | nil => exact absurd rfl nonempty
  | cons d ds => rfl

/-- Read leniently, a text that can be read strictly is the same filter, and nothing is left out. -/
theorem parseLenient_of_parse? {f : LogFilter} (read : parse? text = some f) :
    f = parseLenient text ∧ ∀ part ∈ pieces text, (Directive.parse? part).isSome = true := by
  obtain ⟨ds, strict, rfl⟩ := Option.map_eq_some_iff.mp read
  obtain ⟨same, all⟩ := filterMap_of_mapM strict
  exact ⟨by rw [parseLenient, same], all⟩

theorem mem_pieces_firstPart (nonempty : firstPart text ≠ []) : firstPart text ∈ pieces text := by
  rw [pieces, splitOn_eq_parts, List.mem_filter]
  exact ⟨List.mem_cons_self, by simpa using nonempty⟩

/-- What a part of a log level means behind the name of a target. -/
def assignment? (name part : List Char) : Option Directive :=
  (Directive.assigned? part).map fun t => { target := some name, threshold := t }

theorem readParts_assignment {first : Char} {rest : List Char}
    (isName : Directive.IsPlainName first rest) (part : List Char) (parts : List (List Char)) :
    readParts ((first :: rest ++ '=' :: part) :: parts) =
      (assignment? (first :: rest) part).toList ++ readParts parts := by
  rw [readParts_cons (by simp), Directive.parse?_assignment isName, assignment?]

/-- The targets that the program's events have, or begin with. -/
def programName : String := "proxy_router"

/-- The targets of the tool beside the program. -/
def toolName : String := "proxy_cli"

theorem programIsName : Directive.IsPlainName 'p' "roxy_router".toList where
  begins := by decide +kernel
  unbracketed := by decide
  visible := by decide
  plain := by simp

theorem toolIsName : Directive.IsPlainName 'p' "roxy_cli".toList where
  begins := by decide +kernel
  unbracketed := by decide
  visible := by decide
  plain := by simp

/-- The directive at the end of what is in force, for all other events. -/
def warnings : Directive := { threshold := some .warn }

/-- The directives in force: the first part for the program and for the tool, and after each of them
the later parts as they are. -/
theorem ofLevel_eq (level : String) :
    ofLevel level =
      ⟨(assignment? programName.toList (firstPart level)).toList ++ (readParts (laterParts level) ++
        ((assignment? toolName.toList (firstPart level)).toList ++ (readParts (laterParts level) ++
          [warnings])))⟩ := by
  have whole : ("proxy_router=" ++ level ++ ",proxy_cli=" ++ level ++ ",warn").toList =
      ("proxy_router=".toList ++ level.toList) ++
        ',' :: (("proxy_cli=".toList ++ level.toList) ++ ',' :: "warn".toList) := by
    simp only [String.toList_append, List.append_assoc]
    rfl
  have last : readParts ("warn".toList.splitOn ',') = [warnings] := by decide +kernel
  have free : (∀ c ∈ "proxy_router=".toList, c ≠ ',') ∧
      ∀ c ∈ "proxy_cli=".toList, c ≠ ',' := by
    simp
  have program (parts : List (List Char)) :
      readParts (("proxy_router=".toList ++ firstPart level) :: parts) =
        (assignment? programName.toList (firstPart level)).toList ++ readParts parts :=
    readParts_assignment programIsName (firstPart level) parts
  have tool (parts : List (List Char)) :
      readParts (("proxy_cli=".toList ++ firstPart level) :: parts) =
        (assignment? toolName.toList (firstPart level)).toList ++ readParts parts :=
    readParts_assignment toolIsName (firstPart level) parts
  rw [ofLevel, parseLenient_eq, whole, List.splitOn_append_cons_self, List.splitOn_append_cons_self,
    splitOn_behind_name free.1, splitOn_behind_name free.2, List.cons_append, List.cons_append,
    program, readParts_append, tool, readParts_append, last, ofDirectives_of_ne_nil (by simp)]

/-! ## Which directive decides -/

def deciding (ds : List Directive) (target : String) (fields : List String) : Option Directive :=
  decider (ds.filter fun d => d.covers target.toList (fields.map String.toList))

theorem deciding_append (ds es : List Directive) :
    deciding (ds ++ es) target fields =
      Option.merge Directive.followedBy (deciding ds target fields)
        (deciding es target fields) := by
  rw [deciding, List.filter_append, decider_append, deciding, deciding]

theorem covers_of_deciding {ds : List Directive} {d : Directive}
    (decides : deciding ds target fields = some d) :
    d.covers target.toList (fields.map String.toList) = true :=
  (List.mem_filter.mp (mem_of_decider decides)).2

theorem limit_eq_deciding (f : LogFilter) :
    f.limit target fields = (deciding f.directives target fields).bind Directive.threshold := by
  rw [limit, decisive_eq_decider, deciding]

namespace Directive

def isFor (d : Directive) (name : List Char) : Bool :=
  d.target.any fun other => name.isPrefixOf other

/-- Whether a directive asks for a target or a field. -/
def isSpecific (d : Directive) : Bool :=
  d.target.isSome || d.field.isSome

theorem isPrefix_of_covers {d : Directive} {name : List Char} {target : List Char}
    {fields : List (List Char)} (covers : d.covers target fields = true)
    (named : d.target = some name) : name <+: target := by
  rw [Directive.covers, named] at covers
  simp only [Bool.and_eq_true] at covers
  exact List.isPrefixOf_iff_prefix.mp covers.1.2

/-- Only a directive without target and field gives way to one without them. -/
theorem yieldsTo_general (d : Directive) (t : Threshold) :
    d.yieldsTo { threshold := t } = !d.isSpecific := by
  rcases d with ⟨_ | name, _, _ | field, _⟩ <;> simp [yieldsTo, isSpecific, targetRank, fieldRank]

/-- Every directive is at least as specific as one without target and field. -/
theorem general_yieldsTo (t : Threshold) (d : Directive) :
    Directive.yieldsTo { threshold := t } d = true := by
  rcases d with ⟨_ | name, _, field, _⟩ <;> simp [yieldsTo, targetRank, fieldRank]

/-- A directive for a name gives way to those that are for this name or a longer one. -/
theorem named_yieldsTo {name target : List Char} {fields : List (List Char)} {d : Directive}
    (covers : d.covers target fields = true) (ours : name <+: target) (t : Threshold) :
    Directive.yieldsTo { target := some name, threshold := t } d = d.isFor name := by
  have rank : Directive.yieldsTo { target := some name, threshold := t } d = true ↔
      name.length + 1 ≤ d.targetRank := by
    rw [yieldsTo_iff, Nat.le_iff_lt_or_eq]
    simp [targetRank, fieldRank]
  rw [Bool.eq_iff_iff, rank, isFor]
  cases named : d.target with
  | none => simp [targetRank, named]
  | some other =>
    simp only [targetRank, named, Option.any_some, List.isPrefixOf_iff_prefix]
    constructor
    · intro long
      exact List.prefix_of_prefix_length_le ours (isPrefix_of_covers covers named)
        (Nat.le_of_succ_le_succ long)
    · intro below
      exact Nat.succ_le_succ below.length_le

theorem isSpecific_of_isFor {d : Directive} {name : List Char} (named : d.isFor name = true) :
    d.isSpecific = true := by
  rw [isFor] at named
  rw [isSpecific]
  cases target : d.target with
  | none =>
    rw [target] at named
    cases named
  | some other => rfl

end Directive

theorem deciding_singleton {d : Directive}
    (covers : d.covers target.toList (fields.map String.toList) = true) :
    deciding [d] target fields = some d := by
  rw [deciding, List.filter_cons_of_pos (by exact covers)]
  rfl

theorem deciding_singleton_of_not_covers {d : Directive}
    (uncovered : ¬ d.covers target.toList (fields.map String.toList) = true) :
    deciding [d] target fields = none := by
  rw [deciding, List.filter_cons_of_neg (by exact uncovered)]
  rfl

/-- What a part means behind a name decides on targets that begin with the name. -/
theorem deciding_assignment {name : List Char} (ours : name <+: target.toList) (part : List Char) :
    deciding (assignment? name part).toList target fields = assignment? name part := by
  rw [assignment?]
  cases Directive.assigned? part with
  | none => rfl
  | some t =>
    apply deciding_singleton
    simpa [Directive.covers, Directive.isDynamic] using ours

/-- What a part means behind a name has no say in other targets. -/
theorem deciding_assignment_of_apart {name : List Char} (other : ¬ name <+: target.toList)
    (part : List Char) : deciding (assignment? name part).toList target fields = none := by
  rw [assignment?]
  cases Directive.assigned? part with
  | none => rfl
  | some t =>
    apply deciding_singleton_of_not_covers
    simpa [Directive.covers, Directive.isDynamic] using other

/-- The target of the program and the target of the tool exclude each other. -/
theorem toolName_apart (ours : programName.toList <+: target.toList) :
    ¬ toolName.toList <+: target.toList := by
  intro tools
  have short : toolName.toList <+: programName.toList :=
    List.prefix_of_prefix_length_le tools ours (by decide)
  exact absurd short (by decide)

def laterDirective (level target : String) (fields : List String) : Option Directive :=
  deciding (readParts (laterParts level)) target fields

/-! ## The level in force -/

section

variable (ours : programName.toList <+: target.toList)
include ours

/-- In force for the program are the first part as a level of the program, the later parts as they
are, and the warnings. That the later parts come twice makes no difference. -/
theorem limit_ofLevel (level : String) :
    (ofLevel level).limit target fields =
      (Option.merge Directive.followedBy (assignment? programName.toList (firstPart level))
        (Option.merge Directive.followedBy (laterDirective level target fields)
          (some warnings))).bind
          Directive.threshold := by
  have last : deciding [warnings] target fields = some warnings := rfl
  -- The tool's directive between the two occurrences has no say, so that they meet.
  have once : Option.merge Directive.followedBy (laterDirective level target fields)
      (Option.merge Directive.followedBy (laterDirective level target fields) (some warnings)) =
        Option.merge Directive.followedBy (laterDirective level target fields) (some warnings) := by
    rw [← merge_followedBy_assoc, merge_followedBy_self]
  rw [limit_eq_deciding, ofLevel_eq]
  simp only [deciding_append, deciding_assignment ours,
    deciding_assignment_of_apart (toolName_apart ours), last]
  rw [Option.merge_none_left, ← laterDirective, once]

/-- A first part that can stand behind the program's name is in force, unless a later part that is
for the program decides. -/
theorem limit_ofLevel_of_assigned {t : Threshold}
    (assigned : Directive.assigned? (firstPart level) = some t) :
    (ofLevel level).limit target fields =
      ((laterDirective level target fields).filter (Directive.isFor · programName.toList)).elim t
        Directive.threshold := by
  have general (d : Directive) (specific : d.isSpecific = true) : ¬ d.yieldsTo warnings = true := by
    rw [warnings, Directive.yieldsTo_general, specific]
    exact Bool.false_ne_true
  -- The warnings come last, when it is settled whether the program's directive or a later one
  -- decides.
  rw [limit_ofLevel ours, assignment?, assigned, Option.map_some, ← merge_followedBy_assoc]
  cases decides : laterDirective level target fields with
  | none =>
    rw [Option.merge_none_right, Option.merge, Directive.followedBy_of_not_yieldsTo (general _ rfl)]
    rfl
  | some d =>
    have yields := Directive.named_yieldsTo (covers_of_deciding decides) ours t
    by_cases named : d.isFor programName.toList = true
    · rw [Option.merge, Directive.followedBy_of_yieldsTo (yields.trans named), Option.merge,
        Directive.followedBy_of_not_yieldsTo (general d (Directive.isSpecific_of_isFor named)),
        Option.filter_some, if_pos named]
      rfl
    · rw [Option.merge, Directive.followedBy_of_not_yieldsTo (yields ▸ named), Option.merge,
        Directive.followedBy_of_not_yieldsTo (general _ rfl), Option.filter_some, if_neg named]
      rfl

/-- A first part that cannot stand there is left out: the later parts are in force where they ask
for a target or a field, and else warnings pass. -/
theorem limit_ofLevel_of_unassigned (unassigned : Directive.assigned? (firstPart level) = none) :
    (ofLevel level).limit target fields =
      ((laterDirective level target fields).filter Directive.isSpecific).elim (some .warn)
        Directive.threshold := by
  rw [limit_ofLevel ours, assignment?, unassigned, Option.map_none, Option.merge_none_left]
  cases laterDirective level target fields with
  | none => rfl
  | some d =>
    have yields : d.yieldsTo warnings = !d.isSpecific := Directive.yieldsTo_general d _
    by_cases specific : d.isSpecific = true
    · rw [Option.merge, Directive.followedBy_of_not_yieldsTo (by simp [yields, specific]),
        Option.filter_some, if_pos specific]
      rfl
    · rw [Option.merge, Directive.followedBy_of_yieldsTo (by simp [yields, specific]),
        Option.filter_some, if_neg specific]
      rfl

end

/-! ## The level as it is written -/

section

variable {written : LogFilter} (read : parse? level = some written)
include read

/-- The directives of a text that passes the check: the first part, unless it is empty, and the
later parts. -/
theorem written_eq :
    written = ofDirectives (readParts [firstPart level] ++ readParts (laterParts level)) ∧
      (firstPart level ≠ [] → (Directive.parse? (firstPart level)).isSome = true) := by
  obtain ⟨same, all⟩ := parseLenient_of_parse? read
  refine ⟨?_, fun nonempty => all _ (mem_pieces_firstPart nonempty)⟩
  rw [same, parseLenient_eq, splitOn_eq_parts, ← List.singleton_append, readParts_append]

/-- A first part that is a level is written for all that the later parts say nothing about. -/
theorem limit_written_of_level {t : Threshold} (isLevel : threshold? (firstPart level) = some t)
    (target : String) (fields : List String) :
    written.limit target fields =
      (laterDirective level target fields).elim t Directive.threshold := by
  obtain ⟨rfl, accepted⟩ := written_eq read
  have nonempty : firstPart level ≠ [] := (Directive.isAlphanum_of_threshold? isLevel).1
  have first : readParts [firstPart level] = [{ threshold := t }] := by
    rw [readParts_cons nonempty, Directive.parse?_level isLevel (accepted nonempty)]
    rfl
  have covers :
      Directive.covers { threshold := t } target.toList (fields.map String.toList) = true :=
    rfl
  rw [first, ofDirectives_of_ne_nil (by simp), limit_eq_deciding, deciding_append,
    deciding_singleton covers, ← laterDirective]
  cases laterDirective level target fields with
  | none => rfl
  | some d =>
    rw [Option.merge, Directive.followedBy_of_yieldsTo (Directive.general_yieldsTo t d)]
    rfl

/-- Without a first part, what the later parts say is what is written. If they say nothing, not
everything passes. -/
theorem limit_written_of_nil (missing : firstPart level = []) (target : String)
    (fields : List String) :
    (∀ d, laterDirective level target fields = some d → written.limit target fields = d.threshold) ∧
      (laterDirective level target fields = none → written.limit target fields ≠ some .trace) := by
  obtain ⟨rfl, -⟩ := written_eq read
  have nothing : readParts [[]] = [] := rfl
  rw [missing, nothing, List.nil_append, laterDirective]
  cases readParts (laterParts level) with
  | nil =>
    have errors : (ofDirectives []).limit target fields = some .error := rfl
    refine ⟨fun d decides => ?_, fun _ => ?_⟩
    · cases decides
    · rw [errors]
      decide
  | cons d ds =>
    rw [ofDirectives_of_ne_nil (List.cons_ne_nil d ds), limit_eq_deciding]
    refine ⟨fun e decides => ?_, fun silent => ?_⟩
    · rw [decides]
      rfl
    · rw [silent]
      decide

end

/-- A single level has no comma. -/
theorem parts_of_level {t : Threshold} (isLevel : threshold? text.toList = some t) :
    firstPart text = text.toList ∧ laterParts text = [] := by
  have inside : ∀ c ∈ text.toList, (c == ',') = false := by
    intro c mem
    have alphanumeric := (Directive.isAlphanum_of_threshold? isLevel).2 c mem
    rw [beq_eq_false_iff_ne]
    rintro rfl
    exact absurd alphanumeric (by decide)
  have single : text.toList.splitOn ',' = [text.toList] := List.splitOnP_eq_singleton inside
  rw [firstPart, laterParts, single]
  exact ⟨rfl, rfl⟩

/-! ## Where the two agree -/

section

variable {written : LogFilter} (ours : programName.toList <+: target.toList)
include ours

/-- What is written by a deciding later part is in force if the part is for the program, or agrees
with the first part. -/
theorem agree_iff_of_assigned {t : Threshold} {d : Directive}
    (assigned : Directive.assigned? (firstPart level) = some t)
    (decides : laterDirective level target fields = some d)
    (said : written.limit target fields = d.threshold) :
    (ofLevel level).Agree written target fields ↔
      d.isFor programName.toList = true ∨ d.threshold = t := by
  rw [agree_iff_limit_eq, said, limit_ofLevel_of_assigned ours assigned, decides,
    Option.filter_some]
  by_cases named : d.isFor programName.toList = true
  · rw [if_pos named]
    exact iff_of_true rfl (Or.inl named)
  · rw [if_neg named, or_iff_right named]
    exact eq_comm

variable (read : parse? level = some written)
include read

/-- Behind a level, what is written is in force unless a later part decides that is not for the
program and lets something else pass. -/
theorem agree_iff_of_level {t : Threshold} (isLevel : threshold? (firstPart level) = some t) :
    (ofLevel level).Agree written target fields ↔
      ∀ d, laterDirective level target fields = some d →
        d.isFor programName.toList = true ∨ d.threshold = t := by
  have assigned : Directive.assigned? (firstPart level) = some t := by
    rw [Directive.assigned?, if_neg (Directive.isAlphanum_of_threshold? isLevel).1, isLevel]
  have said := limit_written_of_level read isLevel target fields
  cases decides : laterDirective level target fields with
  | none =>
    rw [agree_iff_limit_eq, said, limit_ofLevel_of_assigned ours assigned, decides]
    exact iff_of_true rfl (by simp)
  | some d =>
    rw [decides] at said
    simpa using agree_iff_of_assigned ours assigned decides said

/-- A single level is in force. -/
theorem agree_of_single_level {t : Threshold} (single : threshold? level.toList = some t) :
    (ofLevel level).Agree written target fields := by
  obtain ⟨first, rest⟩ := parts_of_level single
  apply (agree_iff_of_level ours read (first ▸ single)).mpr
  intro d decides
  rw [laterDirective, rest] at decides
  cases decides

/-- Nothing before the first comma lets everything pass, so that what is written is in force only if
a later part says the same, or is for the program. -/
theorem agree_iff_of_nil (missing : firstPart level = []) :
    (ofLevel level).Agree written target fields ↔
      ∃ d, laterDirective level target fields = some d ∧
        (d.isFor programName.toList = true ∨ d.threshold = some .trace) := by
  have assigned : Directive.assigned? (firstPart level) = some (some .trace) := by
    rw [Directive.assigned?, if_pos missing]
  obtain ⟨said, unsaid⟩ := limit_written_of_nil read missing target fields
  cases decides : laterDirective level target fields with
  | none =>
    rw [agree_iff_limit_eq, limit_ofLevel_of_assigned ours assigned, decides]
    exact iff_of_false (unsaid decides).symm (by simp)
  | some d => simpa using agree_iff_of_assigned ours assigned decides (said d decides)

end

end LogFilter

namespace Settings

open LogFilter

theorem exists_written {s : Settings} {level : String} (isLevel : s.observability.logLevel = level)
    (accepted : .badLogLevel level ∉ s.faults) :
    ∃ written, LogFilter.parse? level = some written := by
  rw [← Option.isSome_iff_exists]
  by_contra bad
  rw [Bool.not_eq_true, Option.isSome_eq_false_iff] at bad
  apply accepted
  simp [faults, isLevel, bad]

/-- The log level of accepted settings, as it is in force and as it is written. For events of the
program, the two agree
- always, if the level is a single one in letters of any case or a number;
- if a level comes before the first comma, exactly if what decides of the later parts, if anything
  does, is for the program or has the same threshold;
- if nothing comes before the first comma, exactly if a later part decides that is for the program
  or lets everything pass, so never for an empty text;
- if something else comes before the first comma, exactly if the written filter lets pass what the
  later parts say on targets and fields, or warnings where they say nothing. -/
theorem logLevel_in_force_iff (s : Settings) (level : String) (target : String)
    (fields : List String) (isLevel : s.observability.logLevel = level)
    (accepted : .badLogLevel level ∉ s.faults)
    (ours : programName.toList <+: target.toList) :
    ∃ written, LogFilter.parse? level = some written ∧
      (∀ t, threshold? level.toList = some t → (ofLevel level).Agree written target fields) ∧
      (∀ t, threshold? (firstPart level) = some t →
        ((ofLevel level).Agree written target fields ↔
          ∀ d, laterDirective level target fields = some d →
            d.isFor programName.toList = true ∨ d.threshold = t)) ∧
      (firstPart level = [] →
        ((ofLevel level).Agree written target fields ↔
          ∃ d, laterDirective level target fields = some d ∧
            (d.isFor programName.toList = true ∨ d.threshold = some .trace))) ∧
      (firstPart level ≠ [] → threshold? (firstPart level) = none →
        ((ofLevel level).Agree written target fields ↔
          written.limit target fields =
            ((laterDirective level target fields).filter Directive.isSpecific).elim (some .warn)
              Directive.threshold)) := by
  obtain ⟨written, read⟩ := exists_written isLevel accepted
  refine ⟨written, read, fun t => agree_of_single_level ours read,
    fun t => agree_iff_of_level ours read, agree_iff_of_nil ours read, ?_⟩
  intro nonempty noLevel
  have unassigned : Directive.assigned? (firstPart level) = none := by
    rw [Directive.assigned?, if_neg nonempty, noLevel]
  rw [agree_iff_limit_eq, limit_ofLevel_of_unassigned ours unassigned, eq_comm]

theorem logLevel_in_force_iff_debug :
    ∃ written, LogFilter.parse? "Debug" = some written ∧
      (ofLevel "Debug").Agree written "proxy_router" ["message"] := by
  obtain ⟨written, read, single, -⟩ := logLevel_in_force_iff
    { observability := { logLevel := "Debug" } } "Debug" "proxy_router" ["message"] rfl
    (by decide +kernel) (List.prefix_refl _)
  exact ⟨written, read, single (some .debug) (by decide +kernel)⟩

/-- Levels that pass the check and are not in force: with the empty one only errors should pass and
everything does, and a filter that names the program is left out. -/
theorem logLevel_not_in_force :
    ({ observability := { logLevel := "" } } : Settings).faults = [] ∧
      (LogFilter.parse? "").map (fun f => f.admits "proxy_router" ["message"] .info) = some false ∧
      (ofLevel "").admits "proxy_router" ["message"] .info = true ∧
      ({ observability := { logLevel := "proxy_router=debug" } } : Settings).faults = [] ∧
      (LogFilter.parse? "proxy_router=debug").map
          (fun f => f.admits "proxy_router" ["message"] .info) = some true ∧
      (ofLevel "proxy_router=debug").admits "proxy_router" ["message"] .info = false := by
  decide +kernel

end Settings

end Egress
