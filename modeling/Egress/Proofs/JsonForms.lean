import Egress.Proofs.JsonTokens

/-!
# The forms of a value

The compact and the pretty form of a value differ only in the spaces between their tokens. Both are
one form here with two layouts, so that what holds of any layout need not be said twice.

The values in question have integers of 64 bits for numbers, since doubles are not always read back
as they were written. Whether the members of objects are in order is a matter of its own: what is
written keeps the order given, and what is read has them in order.
-/

namespace Egress.Json

/-! ## The values in question -/

/-- A value with at most `room` containers around one another, whose numbers are integers of 64
bits. -/
inductive IsPlain : Nat → Json → Prop where
  | null {room : Nat} : IsPlain room .null
  | bool {room : Nat} (b : Bool) : IsPlain room (.bool b)
  | integer {room : Nat} {n : Int} (low : -0x8000000000000000 ≤ n)
      (high : n < 0x10000000000000000) : IsPlain room (.number (.integer n))
  | string {room : Nat} (s : String) : IsPlain room (.string s)
  | array {room : Nat} {items : List Json} (plain : ∀ v ∈ items, IsPlain room v) :
      IsPlain (room + 1) (.array items)
  | object {room : Nat} {members : List (String × Json)}
      (plain : ∀ m ∈ members, IsPlain room m.2) : IsPlain (room + 1) (.object members)

theorem IsPlain.mono {room room' : Nat} {v : Json} (plain : IsPlain room v) (le : room ≤ room') :
    IsPlain room' v := by
  induction plain generalizing room' with
  | null => exact .null
  | bool b => exact .bool b
  | integer low high => exact .integer low high
  | string s => exact .string s
  | @array room items plain ih =>
    obtain ⟨more, rfl⟩ : ∃ more, room' = more + 1 := ⟨room' - 1, by omega⟩
    exact .array fun v mem => ih v mem (by omega)
  | @object room members plain ih =>
    obtain ⟨more, rfl⟩ : ∃ more, room' = more + 1 := ⟨room' - 1, by omega⟩
    exact .object fun m mem => ih m mem (by omega)

/-- A value in which the members of every object have increasing keys. -/
inductive InOrder : Json → Prop where
  | null : InOrder .null
  | bool (b : Bool) : InOrder (.bool b)
  | number (n : Number) : InOrder (.number n)
  | string (s : String) : InOrder (.string s)
  | array {items : List Json} (inOrder : ∀ v ∈ items, InOrder v) : InOrder (.array items)
  | object {members : List (String × Json)} (increasing : members.Pairwise fun m m' => m.1 < m'.1)
      (inOrder : ∀ m ∈ members, InOrder m.2) : InOrder (.object members)

mutual

def ordered : Json → Json
  | null => null
  | bool b => bool b
  | number n => number n
  | string s => string s
  | array items => array (orderedItems items)
  | object members => ofMembers (orderedMembers members)

def orderedItems : List Json → List Json
  | [] => []
  | v :: rest => ordered v :: orderedItems rest

/-- Members as they are given, with those of all objects in their values put in order. -/
def orderedMembers : List (String × Json) → List (String × Json)
  | [] => []
  | (k, v) :: rest => (k, ordered v) :: orderedMembers rest

end

theorem orderedItems_eq_self {items : List Json} (same : ∀ v ∈ items, v.ordered = v) :
    orderedItems items = items := by
  induction items with
  | nil => rfl
  | cons v items ih =>
    rw [orderedItems, same v List.mem_cons_self,
      ih fun v mem => same v (List.mem_cons_of_mem _ mem)]

theorem orderedMembers_eq_self {members : List (String × Json)}
    (same : ∀ m ∈ members, m.2.ordered = m.2) : orderedMembers members = members := by
  induction members with
  | nil => rfl
  | cons m members ih =>
    obtain ⟨k, v⟩ := m
    have first : v.ordered = v := same (k, v) List.mem_cons_self
    rw [orderedMembers, first, ih fun m mem => same m (List.mem_cons_of_mem _ mem)]

/-- A member with the greatest key goes to the end. -/
theorem insertMember_of_greatest {key : String} {value : Json} {members : List (String × Json)}
    (greatest : ∀ m ∈ members, m.1 < key) :
    insertMember key value members = members ++ [(key, value)] := by
  induction members with
  | nil => rfl
  | cons m members ih =>
    obtain ⟨k, v⟩ := m
    have less : k < key := greatest (k, v) List.mem_cons_self
    have differs : key ≠ k := by
      rintro rfl
      exact String.lt_irrefl _ less
    rw [insertMember, if_neg (String.lt_asymm less), if_neg differs,
      ih fun m mem => greatest m (List.mem_cons_of_mem _ mem)]
    rfl

theorem sortMembers_of_increasing {members : List (String × Json)}
    (increasing : members.Pairwise fun m m' => m.1 < m'.1) : sortMembers members = members := by
  have sorts : ∀ front, (front ++ members).Pairwise (fun m m' => m.1 < m'.1) →
      members.foldl (fun sorted m => insertMember m.1 m.2 sorted) front = front ++ members := by
    clear increasing
    induction members with
    | nil => intro front _; simp
    | cons m members ih =>
      intro front increasing
      have greatest : ∀ m' ∈ front, m'.1 < m.1 := fun m' mem =>
        (List.pairwise_append.mp increasing).2.2 m' mem m List.mem_cons_self
      rw [List.append_cons] at increasing
      rw [List.foldl_cons, insertMember_of_greatest greatest, ih _ increasing, ← List.append_cons]
  exact sorts [] increasing

theorem InOrder.ordered_eq {v : Json} (inOrder : InOrder v) : v.ordered = v := by
  induction inOrder with
  | null | bool | number | string => rfl
  | array inOrder ih => rw [ordered, orderedItems_eq_self ih]
  | object increasing inOrder ih =>
    rw [ordered, orderedMembers_eq_self ih, ofMembers, sortMembers_of_increasing increasing]

/-! ## Layouts -/

/-- Where spaces stand between the tokens of a written value. -/
structure Layout where
  /-- What stands in front of an item, or of the end of a container, at a depth. -/
  gap : Nat → List Char
  afterColon : List Char
  isSpace_gap : ∀ depth, ∀ c ∈ gap depth, isSpace c = true
  isSpace_afterColon : ∀ c ∈ afterColon, isSpace c = true

namespace Layout

def compact : Layout where
  gap _ := []
  afterColon := []
  isSpace_gap _ c mem := by cases mem
  isSpace_afterColon c mem := by cases mem

/-- Each item on a line of its own. -/
def pretty : Layout where
  gap := lineBreak
  afterColon := [' ']
  isSpace_gap depth c mem := by
    rcases List.mem_cons.mp mem with rfl | blank
    · rfl
    · rw [List.eq_of_mem_replicate blank]
      rfl
  isSpace_afterColon c mem := by
    rw [List.mem_singleton.mp mem]
    rfl

@[simp] theorem gap_compact (depth : Nat) : compact.gap depth = [] := rfl

@[simp] theorem afterColon_compact : compact.afterColon = [] := rfl

@[simp] theorem gap_pretty (depth : Nat) : pretty.gap depth = lineBreak depth := rfl

@[simp] theorem afterColon_pretty : pretty.afterColon = [' '] := rfl

end Layout

mutual

def written (l : Layout) (depth : Nat) : Json → List Char
  | null => nullChars
  | bool b => boolChars b
  | number n => n.chars
  | string s => stringChars s
  | array [] => ['[', ']']
  | array (v :: rest) =>
    '[' :: (l.gap (depth + 1) ++ written l (depth + 1) v ++ writtenItems l (depth + 1) rest ++
      l.gap depth ++ [']'])
  | object [] => ['\x7b', '\x7d']
  | object ((k, v) :: rest) =>
    '\x7b' :: (l.gap (depth + 1) ++ stringChars k ++ ':' :: l.afterColon ++
      written l (depth + 1) v ++ writtenMembers l (depth + 1) rest ++ l.gap depth ++ ['\x7d'])

def writtenItems (l : Layout) (depth : Nat) : List Json → List Char
  | [] => []
  | v :: rest => ',' :: (l.gap depth ++ written l depth v ++ writtenItems l depth rest)

def writtenMembers (l : Layout) (depth : Nat) : List (String × Json) → List Char
  | [] => []
  | (k, v) :: rest =>
    ',' :: (l.gap depth ++ stringChars k ++ ':' :: l.afterColon ++ written l depth v ++
      writtenMembers l depth rest)

end

mutual

theorem written_compact (depth : Nat) : ∀ v, written .compact depth v = compactChars v
  | null => rfl
  | bool b => rfl
  | number n => rfl
  | string s => rfl
  | array [] => rfl
  | array (v :: rest) => by
    simp [written, compactChars, written_compact (depth + 1) v,
      writtenItems_compact (depth + 1) rest]
  | object [] => rfl
  | object ((k, v) :: rest) => by
    simp [written, compactChars, written_compact (depth + 1) v,
      writtenMembers_compact (depth + 1) rest]

theorem writtenItems_compact (depth : Nat) :
    ∀ items, writtenItems .compact depth items = compactItems items
  | [] => rfl
  | v :: rest => by
    simp [writtenItems, compactItems, written_compact depth v,
      writtenItems_compact depth rest]

theorem writtenMembers_compact (depth : Nat) :
    ∀ members, writtenMembers .compact depth members = compactMembers members
  | [] => rfl
  | (k, v) :: rest => by
    simp [writtenMembers, compactMembers, written_compact depth v,
      writtenMembers_compact depth rest]

end

mutual

theorem written_pretty (depth : Nat) : ∀ v, written .pretty depth v = prettyChars depth v
  | null => rfl
  | bool b => rfl
  | number n => rfl
  | string s => rfl
  | array [] => rfl
  | array (v :: rest) => by
    simp [written, prettyChars, written_pretty (depth + 1) v, writtenItems_pretty (depth + 1) rest]
  | object [] => rfl
  | object ((k, v) :: rest) => by
    simp [written, prettyChars, written_pretty (depth + 1) v,
      writtenMembers_pretty (depth + 1) rest]

theorem writtenItems_pretty (depth : Nat) :
    ∀ items, writtenItems .pretty depth items = prettyItems depth items
  | [] => rfl
  | v :: rest => by
    simp [writtenItems, prettyItems, written_pretty depth v, writtenItems_pretty depth rest]

theorem writtenMembers_pretty (depth : Nat) :
    ∀ members, writtenMembers .pretty depth members = prettyMembers depth members
  | [] => rfl
  | (k, v) :: rest => by
    simp [writtenMembers, prettyMembers, written_pretty depth v, writtenMembers_pretty depth rest]

end

/-! ## One line -/

theorem newline_not_mem_stringChars (s : String) : '\n' ∉ stringChars s := by
  have inside : '\n' ∉ s.toList.flatMap escapeChar := by
    rw [List.mem_flatMap]
    rintro ⟨c, _, mem⟩
    exact (escaped c).newline_not_mem mem
  simpa [stringChars] using inside

theorem newline_not_mem_integerChars (n : Int) : '\n' ∉ Number.integerChars n := by
  have digits : '\n' ∉ Nat.toDigits 10 n.natAbs := by
    intro mem
    have digit := Nat.isDigit_of_mem_toDigits (by decide) (by decide) mem
    exact absurd digit (by decide)
  unfold Number.integerChars
  split
  · simpa using digits
  · exact digits

/-- The compact form of a value is one line, whatever characters are in its strings. -/
theorem IsPlain.newline_not_mem {room : Nat} {v : Json} (plain : IsPlain room v) :
    '\n' ∉ compactChars v := by
  induction plain with
  | null => decide
  | bool b => cases b <;> decide
  | integer low high => exact newline_not_mem_integerChars _
  | string s => exact newline_not_mem_stringChars s
  | @array room items plain ih =>
    have others : ∀ vs : List Json, (∀ v ∈ vs, '\n' ∉ compactChars v) → '\n' ∉ compactItems vs := by
      intro vs clean
      induction vs with
      | nil => simp [compactItems]
      | cons v vs more =>
        have rest := more fun v mem => clean v (List.mem_cons_of_mem _ mem)
        simp [compactItems, clean v List.mem_cons_self, rest]
    cases items with
    | nil => decide
    | cons v items =>
      have rest := others items fun v mem => ih v (List.mem_cons_of_mem _ mem)
      simp [compactChars, ih v List.mem_cons_self, rest]
  | @object room members plain ih =>
    have others : ∀ ms : List (String × Json), (∀ m ∈ ms, '\n' ∉ compactChars m.2) →
        '\n' ∉ compactMembers ms := by
      intro ms clean
      induction ms with
      | nil => simp [compactMembers]
      | cons m ms more =>
        have first := clean m List.mem_cons_self
        have rest := more fun m mem => clean m (List.mem_cons_of_mem _ mem)
        simp [compactMembers, newline_not_mem_stringChars, first, rest]
    cases members with
    | nil => decide
    | cons m members =>
      have first := ih m List.mem_cons_self
      have rest := others members fun m mem => ih m (List.mem_cons_of_mem _ mem)
      simp [compactChars, newline_not_mem_stringChars, first, rest]

end Egress.Json
