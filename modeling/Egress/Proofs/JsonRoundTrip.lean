import Egress.Proofs.JsonForms
import Egress.Proofs.JsonTokens

/-!
# Written values are read back

Either form of a value is read back as the value with the members of its objects in order, as long
as its containers are not nested too deep. A value that has its members in order comes back as it
was.

Reading a value is one induction on the value. What it carries along is that the text begins like a
value, so that it is not taken for the end of a list, and that fuel for twice its length is enough.
-/

namespace Egress.Json

theorem skipSpace_of_head {c : Char} {cs : List Char} (token : isSpace c = false) :
    skipSpace (c :: cs) = c :: cs := by
  rw [skipSpace, List.dropWhile_cons_of_neg (by simp [token])]

theorem skipSpace_append {spaces : List Char} (blank : ∀ c ∈ spaces, isSpace c = true)
    (cs : List Char) : skipSpace (spaces ++ cs) = skipSpace cs := by
  rw [skipSpace, List.dropWhile_append_of_pos blank]
  rfl

theorem isSpace_of_mem_nil : ∀ c ∈ ([] : List Char), isSpace c = true := by
  intro c mem
  cases mem

/-- Spaces in front of a value make no difference. -/
theorem readValue_skip (room fuel : Nat) {spaces : List Char}
    (blank : ∀ c ∈ spaces, isSpace c = true) (cs : List Char) :
    readValue room (fuel + 1) (spaces ++ cs) = readValue room (fuel + 1) cs := by
  rw [readValue, readValue, skipSpace_append blank]

theorem EndsNumber.cons {c : Char} (ends : c.isDigit = false ∧ c ≠ '.' ∧ c ≠ 'e' ∧ c ≠ 'E')
    (cs : List Char) : EndsNumber (c :: cs) := by
  intro d head
  obtain rfl := Option.some.inj head
  exact ends

theorem EndsNumber.append {spaces cs : List Char} (blank : ∀ c ∈ spaces, isSpace c = true)
    (ends : EndsNumber cs) : EndsNumber (spaces ++ cs) := by
  cases spaces with
  | nil => exact ends
  | cons c spaces =>
    have space := blank c List.mem_cons_self
    simp only [isSpace, Bool.or_eq_true, beq_iff_eq] at space
    rw [List.cons_append]
    rcases space with ((rfl | rfl) | rfl) | rfl <;> exact .cons (by decide) _

/-- A text that begins like a value: not with a space, and not with the end of a list. -/
def StartsValue (cs : List Char) : Prop :=
  ∃ c rest, cs = c :: rest ∧ isSpace c = false ∧ c ≠ ']'

/-- What is written for a value inside `depth` containers begins like a value, and is read back with
the members in order, whatever comes behind it that does not go on with a number. Twice the length
of the text is fuel enough. -/
structure ReadsBack (l : Layout) (room depth : Nat) (v : Json) : Prop where
  starts : StartsValue (written l depth v)
  reads : ∀ {fuel : Nat} {rest : List Char}, 2 * (written l depth v).length ≤ fuel →
    EndsNumber rest → readValue room fuel (written l depth v ++ rest) = .ok (v.ordered, rest)

/-- The text of a value is not empty, so that there is fuel for two calls. -/
theorem readsBack_of_starts {l : Layout} {room depth : Nat} {v : Json}
    (starts : StartsValue (written l depth v))
    (reads : ∀ fuel rest, 2 * (written l depth v).length ≤ fuel + 2 → EndsNumber rest →
      readValue room (fuel + 2) (written l depth v ++ rest) = .ok (v.ordered, rest)) :
    ReadsBack l room depth v := by
  refine ⟨starts, ?_⟩
  intro fuel rest enough ends
  obtain ⟨c, inside, begins, _⟩ := starts
  have size := congrArg List.length begins
  rw [List.length_cons] at size
  obtain ⟨less, rfl⟩ : ∃ less, fuel = less + 2 := ⟨fuel - 2, by omega⟩
  exact reads less rest enough ends

/-! ### Lists -/

section Items

variable {l : Layout} {room depth : Nat} {spaces rest : List Char}

theorem nextItem_end (first : Bool) (blank : ∀ c ∈ spaces, isSpace c = true) (rest : List Char) :
    nextItem first (spaces ++ ']' :: rest) = .ok (.done rest) := by
  rw [nextItem, skipSpace_append blank, skipSpace_of_head (by decide)]
  exact if_pos rfl

theorem nextItem_first (blank : ∀ c ∈ spaces, isSpace c = true) {cs : List Char}
    (starts : StartsValue cs) (rest : List Char) :
    nextItem true (spaces ++ (cs ++ rest)) = .ok (.item (cs ++ rest)) := by
  obtain ⟨c, more, rfl, token, noEnd⟩ := starts
  rw [List.cons_append, nextItem, skipSpace_append blank, skipSpace_of_head token]
  simp only [if_neg noEnd, if_true]

theorem nextItem_comma (blank : ∀ c ∈ spaces, isSpace c = true) {cs : List Char}
    (starts : StartsValue cs) (rest : List Char) :
    nextItem false (',' :: (spaces ++ (cs ++ rest))) = .ok (.item (cs ++ rest)) := by
  obtain ⟨c, more, rfl, token, noEnd⟩ := starts
  have after := skipSpace_append blank (c :: (more ++ rest))
  rw [skipSpace_of_head token] at after
  rw [List.cons_append, nextItem, skipSpace_of_head (by decide)]
  simp only [after, if_neg noEnd, if_neg (show ¬ ',' = ']' by decide), Bool.false_eq_true, if_false,
    if_true]

/-- An item is read, and then the others. -/
theorem readItems_item {v : Json} (back : ReadsBack l room depth v) {first : Bool} {fuel : Nat}
    {cs more : List Char} (next : nextItem first cs = .ok (.item (written l depth v ++ more)))
    (enough : 2 * (written l depth v).length ≤ fuel) (ends : EndsNumber more) {vs : List Json}
    (others : readItems room false fuel more = .ok (vs, rest)) :
    readItems room first (fuel + 1) cs = .ok (v.ordered :: vs, rest) := by
  have here := back.reads enough ends
  simp only [readItems, next, here, others, Except.map]

theorem ends_writtenItems (items : List Json) (blank : ∀ c ∈ spaces, isSpace c = true) :
    EndsNumber (writtenItems l depth items ++ (spaces ++ ']' :: rest)) := by
  cases items with
  | nil =>
    rw [writtenItems, List.nil_append]
    exact .append blank (.cons (by decide) _)
  | cons v items => exact .cons (by decide) _

/-- Further items are read back if each of them is. -/
theorem readItems_written {items : List Json} (back : ∀ v ∈ items, ReadsBack l room depth v)
    (blank : ∀ c ∈ spaces, isSpace c = true) {fuel : Nat}
    (enough : 2 * (writtenItems l depth items).length + 2 ≤ fuel) (rest : List Char) :
    readItems room false fuel (writtenItems l depth items ++ (spaces ++ ']' :: rest)) =
      .ok (orderedItems items, rest) := by
  induction items generalizing fuel with
  | nil =>
    obtain ⟨less, rfl⟩ : ∃ less, fuel = less + 1 := ⟨fuel - 1, by omega⟩
    rw [writtenItems, List.nil_append, readItems, nextItem_end false blank]
    rfl
  | cons v items ih =>
    obtain ⟨less, rfl⟩ : ∃ less, fuel = less + 1 := ⟨fuel - 1, by omega⟩
    have here := back v List.mem_cons_self
    simp only [writtenItems, List.length_cons, List.length_append] at enough
    have fewer : 2 * (writtenItems l depth items).length + 2 ≤ less := by omega
    have others := ih (fun v mem => back v (List.mem_cons_of_mem _ mem)) fewer
    simp only [writtenItems, List.cons_append, List.append_assoc]
    exact readItems_item here (nextItem_comma (l.isSpace_gap depth) here.starts _) (by omega)
      (ends_writtenItems items blank) others

theorem readValue_list (fuel : Nat) (cs : List Char) :
    readValue (room + 1) (fuel + 1) ('[' :: cs) =
      (readItems room true fuel cs).map fun (vs, r) => (array vs, r) := by
  rw [readValue, skipSpace_of_head (by decide)]
  rfl

theorem ReadsBack.array {items : List Json} (back : ∀ v ∈ items, ReadsBack l room (depth + 1) v) :
    ReadsBack l (room + 1) depth (.array items) := by
  cases items with
  | nil =>
    refine readsBack_of_starts ⟨'[', [']'], rfl, by decide, by decide⟩ fun fuel rest _ _ => ?_
    have ended : nextItem true ([] ++ ']' :: rest) = .ok (.done rest) :=
      nextItem_end true isSpace_of_mem_nil rest
    rw [List.nil_append] at ended
    rw [written, List.cons_append, List.singleton_append, readValue_list, readItems, ended]
    rfl
  | cons v items =>
    refine readsBack_of_starts ⟨'[', _, rfl, by decide, by decide⟩ fun fuel rest enough _ => ?_
    simp only [written, List.length_cons, List.length_append] at enough
    have here := back v List.mem_cons_self
    have fewer : 2 * (writtenItems l (depth + 1) items).length + 2 ≤ fuel := by omega
    have others := readItems_written (fun v mem => back v (List.mem_cons_of_mem _ mem))
      (l.isSpace_gap depth) fewer rest
    have read := readItems_item here
      (nextItem_first (l.isSpace_gap (depth + 1)) here.starts _) (by omega)
      (ends_writtenItems items (l.isSpace_gap depth)) others
    simp only [written, List.cons_append, List.append_assoc, List.nil_append, readValue_list, read]
    rfl

end Items

/-! ### Objects -/

section Members

variable {l : Layout} {room depth : Nat} {spaces rest : List Char}

theorem nextKey_end (first : Bool) (blank : ∀ c ∈ spaces, isSpace c = true) (rest : List Char) :
    nextKey first (spaces ++ '\x7d' :: rest) = .ok (.done rest) := by
  simp only [nextKey, skipSpace_append blank,
    skipSpace_of_head (show isSpace '\x7d' = false by decide)]
  rfl

theorem nextKey_first (blank : ∀ c ∈ spaces, isSpace c = true) (rest : List Char) :
    nextKey true (spaces ++ '"' :: rest) = .ok (.item rest) := by
  simp only [nextKey, skipSpace_append blank,
    skipSpace_of_head (show isSpace '"' = false by decide)]
  rfl

theorem nextKey_comma (blank : ∀ c ∈ spaces, isSpace c = true) (rest : List Char) :
    nextKey false (',' :: (spaces ++ '"' :: rest)) = .ok (.item rest) := by
  simp only [nextKey, skipSpace_append blank,
    skipSpace_of_head (show isSpace ',' = false by decide),
    skipSpace_of_head (show isSpace '"' = false by decide)]
  rfl

theorem readColon_cons (rest : List Char) : readColon (':' :: rest) = .ok ((), rest) := by
  rw [readColon, skipSpace_of_head (by decide)]
  rfl

/-- A member is read, and then the others. -/
theorem readMembers_member {k : String} {v : Json} (back : ReadsBack l room depth v) {first : Bool}
    {fuel : Nat} {cs more : List Char}
    (next : nextKey first cs = .ok (.item (k.toList.flatMap escapeChar ++
      '"' :: ':' :: (l.afterColon ++ (written l depth v ++ more)))))
    (enough : 2 * (written l depth v).length ≤ fuel) (ends : EndsNumber more)
    {ms : List (String × Json)} (others : readMembers room false fuel more = .ok (ms, rest)) :
    readMembers room first (fuel + 1) cs = .ok ((k, v.ordered) :: ms, rest) := by
  obtain ⟨less, rfl⟩ : ∃ less, fuel = less + 1 := by
    obtain ⟨c, inside, begins, _⟩ := back.starts
    rw [begins, List.length_cons] at enough
    exact ⟨fuel - 1, by omega⟩
  have here := back.reads enough ends
  rw [← readValue_skip room less l.isSpace_afterColon] at here
  rw [readMembers]
  simp only [next, readString_written, readColon_cons, here, others, Except.map]

theorem ends_writtenMembers (members : List (String × Json))
    (blank : ∀ c ∈ spaces, isSpace c = true) :
    EndsNumber (writtenMembers l depth members ++ (spaces ++ '\x7d' :: rest)) := by
  cases members with
  | nil =>
    rw [writtenMembers, List.nil_append]
    exact .append blank (.cons (by decide) _)
  | cons m members => exact .cons (by decide) _

/-- Further members are read back if the value of each of them is. -/
theorem readMembers_written {members : List (String × Json)}
    (back : ∀ m ∈ members, ReadsBack l room depth m.2) (blank : ∀ c ∈ spaces, isSpace c = true)
    {fuel : Nat} (enough : 2 * (writtenMembers l depth members).length + 2 ≤ fuel)
    (rest : List Char) :
    readMembers room false fuel (writtenMembers l depth members ++ (spaces ++ '\x7d' :: rest)) =
      .ok (orderedMembers members, rest) := by
  induction members generalizing fuel with
  | nil =>
    obtain ⟨less, rfl⟩ : ∃ less, fuel = less + 1 := ⟨fuel - 1, by omega⟩
    rw [writtenMembers, List.nil_append, readMembers, nextKey_end false blank]
    rfl
  | cons m members ih =>
    obtain ⟨k, v⟩ := m
    obtain ⟨less, rfl⟩ : ∃ less, fuel = less + 1 := ⟨fuel - 1, by omega⟩
    have here : ReadsBack l room depth v := back (k, v) List.mem_cons_self
    simp only [writtenMembers, List.length_cons, List.length_append] at enough
    have fewer : 2 * (writtenMembers l depth members).length + 2 ≤ less := by omega
    have others := ih (fun m mem => back m (List.mem_cons_of_mem _ mem)) fewer
    simp only [writtenMembers, stringChars, List.cons_append, List.append_assoc, List.nil_append]
    exact readMembers_member here (nextKey_comma (l.isSpace_gap depth) _) (by omega)
      (ends_writtenMembers members blank) others

theorem readValue_object (fuel : Nat) (cs : List Char) :
    readValue (room + 1) (fuel + 1) ('\x7b' :: cs) =
      (readMembers room true fuel cs).map fun (ms, r) => (ofMembers ms, r) := by
  rw [readValue, skipSpace_of_head (by decide)]
  rfl

theorem ReadsBack.object {members : List (String × Json)}
    (back : ∀ m ∈ members, ReadsBack l room (depth + 1) m.2) :
    ReadsBack l (room + 1) depth (.object members) := by
  cases members with
  | nil =>
    refine readsBack_of_starts ⟨'\x7b', ['\x7d'], rfl, by decide, by decide⟩ fun fuel rest _ _ => ?_
    have ended : nextKey true ([] ++ '\x7d' :: rest) = .ok (.done rest) :=
      nextKey_end true isSpace_of_mem_nil rest
    rw [List.nil_append] at ended
    rw [written, List.cons_append, List.singleton_append, readValue_object, readMembers, ended]
    rfl
  | cons m members =>
    obtain ⟨k, v⟩ := m
    refine readsBack_of_starts ⟨'\x7b', _, rfl, by decide, by decide⟩ fun fuel rest enough _ => ?_
    simp only [written, List.length_cons, List.length_append] at enough
    have here : ReadsBack l room (depth + 1) v := back (k, v) List.mem_cons_self
    have fewer : 2 * (writtenMembers l (depth + 1) members).length + 2 ≤ fuel := by omega
    have others := readMembers_written (fun m mem => back m (List.mem_cons_of_mem _ mem))
      (l.isSpace_gap depth) fewer rest
    have read := readMembers_member (k := k) here
      (nextKey_first (l.isSpace_gap (depth + 1)) _) (by omega)
      (ends_writtenMembers members (l.isSpace_gap depth)) others
    simp only [written, stringChars, List.cons_append, List.append_assoc, List.nil_append,
      readValue_object, read]
    rfl

end Members

/-! ### Values -/

section Values

variable {l : Layout} {room depth : Nat}

theorem ReadsBack.null : ReadsBack l room depth .null := by
  refine readsBack_of_starts ⟨'n', _, rfl, by decide, by decide⟩ fun fuel rest _ _ => ?_
  have word : readValue room (fuel + 2) ('n' :: (['u', 'l', 'l'] ++ rest)) = .ok (.null, rest) := by
    rw [readValue, skipSpace_of_head (by decide)]
    simp only [readWord_append]
    rfl
  exact word

theorem ReadsBack.bool (b : Bool) : ReadsBack l room depth (.bool b) := by
  cases b with
  | true =>
    refine readsBack_of_starts ⟨'t', _, rfl, by decide, by decide⟩ fun fuel rest _ _ => ?_
    have word : readValue room (fuel + 2) ('t' :: (['r', 'u', 'e'] ++ rest)) =
        .ok (.bool true, rest) := by
      rw [readValue, skipSpace_of_head (by decide)]
      simp only [readWord_append]
      rfl
    exact word
  | false =>
    refine readsBack_of_starts ⟨'f', _, rfl, by decide, by decide⟩ fun fuel rest _ _ => ?_
    have word : readValue room (fuel + 2) ('f' :: (['a', 'l', 's', 'e'] ++ rest)) =
        .ok (.bool false, rest) := by
      rw [readValue, skipSpace_of_head (by decide)]
      simp only [readWord_append]
      rfl
    exact word

theorem ReadsBack.string (s : String) : ReadsBack l room depth (.string s) := by
  refine readsBack_of_starts ⟨'"', _, rfl, by decide, by decide⟩ fun fuel rest _ _ => ?_
  have read : readValue room (fuel + 2) ('"' :: (s.toList.flatMap escapeChar ++ '"' :: rest)) =
      .ok ((Json.string s).ordered, rest) := by
    rw [readValue, skipSpace_of_head (by decide)]
    simp only [readString_written]
    rfl
  simpa only [written, stringChars, List.cons_append, List.append_assoc, List.nil_append] using read

theorem ne_of_isDigit {d c : Char} (digit : d.isDigit = true) (other : c.isDigit = false) :
    d ≠ c := by
  rintro rfl
  rw [digit] at other
  cases other

theorem isSpace_of_isDigit {d : Char} (digit : d.isDigit = true) : isSpace d = false := by
  simp [isSpace, ne_of_isDigit digit (c := ' ') rfl, ne_of_isDigit digit (c := '\n') rfl,
    ne_of_isDigit digit (c := '\t') rfl, ne_of_isDigit digit (c := '\r') rfl]

theorem readValue_digit {d : Char} (digit : d.isDigit = true) (fuel : Nat) (cs : List Char) :
    readValue room (fuel + 1) (d :: cs) =
      (readNumber false (d :: cs)).map fun (n, r) => (number n, r) := by
  rw [readValue, skipSpace_of_head (isSpace_of_isDigit digit)]
  simp only [if_neg (ne_of_isDigit digit (c := 'n') rfl),
    if_neg (ne_of_isDigit digit (c := 't') rfl), if_neg (ne_of_isDigit digit (c := 'f') rfl),
    if_neg (ne_of_isDigit digit (c := '-') rfl), if_pos digit]

theorem ReadsBack.integer {n : Int} (low : -0x8000000000000000 ≤ n)
    (high : n < 0x10000000000000000) : ReadsBack l room depth (.number (.integer n)) := by
  have fits : n.natAbs < 0x10000000000000000 := by omega
  by_cases negative : n < 0
  · have text : written l depth (.number (.integer n)) = '-' :: Nat.toDigits 10 n.natAbs :=
      if_pos negative
    have value : integerNumber true n.natAbs = .integer n := by
      rw [integerNumber, if_neg (by simp), if_neg (by omega)]
      exact congrArg Number.integer (by omega)
    refine readsBack_of_starts ⟨'-', _, text, by decide, by decide⟩ fun fuel rest _ ends => ?_
    rw [text, List.cons_append, readValue, skipSpace_of_head (by decide)]
    simp only [readNumber_toDigits fits true ends, value]
    rfl
  · have text : written l depth (.number (.integer n)) = Nat.toDigits 10 n.natAbs :=
      if_neg negative
    have value : integerNumber false n.natAbs = .integer n := by
      rw [integerNumber, if_pos (by simp)]
      exact congrArg Number.integer (by omega)
    have some : Nat.toDigits 10 n.natAbs ≠ [] := Nat.toDigits_ne_nil
    obtain ⟨d, ds, digits⟩ := List.exists_cons_of_ne_nil some
    have digit : d.isDigit = true := by
      apply Nat.isDigit_of_mem_toDigits (b := 10) (n := n.natAbs) (by decide) (by decide)
      rw [digits]
      exact List.mem_cons_self
    refine readsBack_of_starts ⟨d, ds, text.trans digits, isSpace_of_isDigit digit,
      ne_of_isDigit digit rfl⟩ fun fuel rest _ ends => ?_
    have read := readNumber_toDigits fits false ends
    rw [digits, List.cons_append] at read
    rw [text, digits, List.cons_append, readValue_digit digit, read, value]
    rfl

theorem IsPlain.readsBack {v : Json} (plain : IsPlain room v) : ReadsBack l room depth v := by
  induction plain generalizing depth with
  | null => exact .null
  | bool b => exact .bool b
  | integer low high => exact .integer low high
  | string s => exact .string s
  | array plain ih => exact .array fun v mem => ih v mem
  | object plain ih => exact .object fun m mem => ih m mem

end Values

/-! ## Whole texts -/

/-- A written value with spaces behind it is read as a whole. -/
theorem readAll_written {l : Layout} {room : Nat} {v : Json} (plain : IsPlain room v)
    {spaces : List Char} (blank : ∀ c ∈ spaces, isSpace c = true) :
    readAll room (written l 0 v ++ spaces) = .ok v.ordered := by
  have ends : EndsNumber spaces := by
    have nothing : EndsNumber [] := by
      intro c head
      cases head
    have ends := nothing.append blank
    rwa [List.append_nil] at ends
  have enough : 2 * (written l 0 v).length ≤ 2 * (written l 0 v ++ spaces).length + 2 := by
    rw [List.length_append]
    omega
  have back : ReadsBack l room 0 v := plain.readsBack
  have read := back.reads enough ends
  have rest : skipSpace spaces = [] := by
    rw [skipSpace, List.dropWhile_eq_nil_iff]
    exact blank
  rw [readAll, read]
  simp only [rest]

/-- The compact form of a value is read back. -/
theorem parse_compact {v : Json} (plain : IsPlain fileRoom v) :
    parse v.compact = .ok v.ordered := by
  have read := readAll_written (l := .compact) plain isSpace_of_mem_nil
  rw [written_compact, List.append_nil] at read
  rw [parse, compact, String.toList_ofList, read]
  rfl

/-- The pretty form of a value with a line end is read back. -/
theorem parse_pretty {v : Json} (plain : IsPlain fileRoom v) :
    parse (v.pretty ++ "\n") = .ok v.ordered := by
  have lineEnd : ∀ c ∈ ['\n'], isSpace c = true := by
    intro c mem
    rw [List.mem_singleton.mp mem]
    rfl
  have read := readAll_written (l := .pretty) plain lineEnd
  rw [written_pretty] at read
  rw [parse, pretty, String.toList_append, String.toList_ofList, show "\n".toList = ['\n'] from rfl,
    read]
  rfl

end Egress.Json
