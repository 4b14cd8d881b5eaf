import Mathlib.Data.List.Basic
import Egress.Json.Basic

/-!
# Looking up members after a change

What the keys of an object hold after one member was put in, taken out or given another key. Only
the first member of a key counts when it is looked up, so none of this asks for the keys to be in
order or for each to be there once.
-/

namespace Egress.Json

variable {key other : String}

theorem lookup_cons_self (key : String) (value : Json) (members : List (String × Json)) :
    lookup key ((key, value) :: members) = some value := by
  rw [lookup, List.find?_cons_of_pos (by simp)]
  rfl

theorem lookup_cons_of_ne (differs : other ≠ key) (value : Json) (members : List (String × Json)) :
    lookup key ((other, value) :: members) = lookup key members := by
  rw [lookup, List.find?_cons_of_neg (by simpa using differs)]
  rfl

theorem lookup_insertMember (key : String) (value : Json) (members : List (String × Json)) :
    lookup key (insertMember key value members) = some value := by
  induction members with
  | nil => exact lookup_cons_self key value []
  | cons m members ih =>
    obtain ⟨k, v⟩ := m
    rw [insertMember]
    split
    · exact lookup_cons_self key value _
    · split
      · exact lookup_cons_self key value members
      · next differs =>
        rw [lookup_cons_of_ne (Ne.symm differs), ih]

theorem lookup_insertMember_of_ne (differs : other ≠ key) (value : Json)
    (members : List (String × Json)) :
    lookup key (insertMember other value members) = lookup key members := by
  induction members with
  | nil => exact lookup_cons_of_ne differs value []
  | cons m members ih =>
    obtain ⟨k, v⟩ := m
    rw [insertMember]
    split
    · exact lookup_cons_of_ne differs value _
    · split
      · next same =>
        rw [lookup_cons_of_ne differs, lookup_cons_of_ne (same ▸ differs)]
      · by_cases found : k = key
        · rw [found, lookup_cons_self, lookup_cons_self]
        · rw [lookup_cons_of_ne found, lookup_cons_of_ne found, ih]

/-- Members are left out by their keys: a key that is kept has the value it had. -/
theorem lookup_filter (keep : String → Bool) (key : String) (members : List (String × Json)) :
    lookup key (members.filter fun m => keep m.1) =
      if keep key = true then lookup key members else none := by
  induction members with
  | nil => exact (ite_self none).symm
  | cons m members ih =>
    obtain ⟨k, v⟩ := m
    rw [List.filter_cons]
    by_cases found : k = key
    · subst found
      by_cases kept : keep k = true
      · rw [if_pos kept, if_pos kept, lookup_cons_self, lookup_cons_self]
      · rw [if_neg kept, if_neg kept, ih, if_neg kept]
    · by_cases kept : keep k = true
      · rw [if_pos kept, lookup_cons_of_ne found, lookup_cons_of_ne found, ih]
      · rw [if_neg kept, lookup_cons_of_ne found, ih]

/-- The members without those of a key. -/
def eraseMember (key : String) (members : List (String × Json)) : List (String × Json) :=
  members.filter (fun m => m.1 != key)

theorem lookup_eraseMember (key : String) (members : List (String × Json)) :
    lookup key (eraseMember key members) = none := by
  rw [eraseMember, lookup_filter (· != key), if_neg (by simp)]

theorem lookup_eraseMember_of_ne (differs : other ≠ key) (members : List (String × Json)) :
    lookup key (eraseMember other members) = lookup key members := by
  rw [eraseMember, lookup_filter (· != other), if_pos (by simpa using differs.symm)]

theorem lookup_eraseMember_of_not_mem {keys : List String} (apart : key ∉ keys)
    (members : List (String × Json)) :
    ∀ k ∈ keys, lookup k (eraseMember key members) = lookup k members := by
  intro k mem
  apply lookup_eraseMember_of_ne
  rintro rfl
  exact apart mem

/-- The members with the value of one key under another key, if there is such a value. -/
def renameMember (old new : String) (members : List (String × Json)) : List (String × Json) :=
  match lookup old members with
  | some value => insertMember new value (eraseMember old members)
  | none => members

theorem lookup_renameMember_old {old new : String} (differs : new ≠ old)
    (members : List (String × Json)) : lookup old (renameMember old new members) = none := by
  unfold renameMember
  split
  · rw [lookup_insertMember_of_ne differs, lookup_eraseMember]
  · next absent => exact absent

theorem lookup_renameMember_new {old new : String} {members : List (String × Json)}
    (free : lookup new members = none) :
    lookup new (renameMember old new members) = lookup old members := by
  unfold renameMember
  split
  · next value found => rw [lookup_insertMember, found]
  · next absent => rw [free, absent]

theorem lookup_renameMember_of_ne {old new : String} (apart : old ≠ key) (apart' : new ≠ key)
    (members : List (String × Json)) :
    lookup key (renameMember old new members) = lookup key members := by
  unfold renameMember
  split
  · rw [lookup_insertMember_of_ne apart', lookup_eraseMember_of_ne apart]
  · rfl

def mapMember (key : String) (f : Json → Json) (members : List (String × Json)) :
    List (String × Json) :=
  members.map fun m => (m.1, if m.1 = key then f m.2 else m.2)

theorem lookup_mapMember (key : String) (f : Json → Json) (members : List (String × Json)) :
    lookup key (mapMember key f members) = (lookup key members).map f := by
  induction members with
  | nil => rfl
  | cons m members ih =>
    obtain ⟨k, v⟩ := m
    rw [mapMember, List.map_cons]
    by_cases found : k = key
    · rw [found, lookup_cons_self, lookup_cons_self, if_pos rfl, Option.map_some]
    · rw [lookup_cons_of_ne found, lookup_cons_of_ne found]
      exact ih

theorem lookup_mapMember_of_ne (differs : other ≠ key) (f : Json → Json)
    (members : List (String × Json)) :
    lookup key (mapMember other f members) = lookup key members := by
  induction members with
  | nil => rfl
  | cons m members ih =>
    obtain ⟨k, v⟩ := m
    rw [mapMember, List.map_cons]
    by_cases found : k = key
    · rw [found, lookup_cons_self, lookup_cons_self, if_neg differs.symm]
    · rw [lookup_cons_of_ne found, lookup_cons_of_ne found]
      exact ih

end Egress.Json
