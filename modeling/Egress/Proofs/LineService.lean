import Mathlib.Data.List.Induction
import Mathlib.Data.List.TakeWhile
import Egress.Proofs.DaemonSteps
import Egress.Proofs.Trimming

/-!
# Every line is answered once

The input is a stream of bytes; cut behind each line end it falls into segments, of which the last
one may lack its line end. However the stream is delivered, however often a read is broken off and
whatever else happens between two reads, the answers of the daemon are those to the segments in
their order, each from the snapshot that is live when the read completes it. Bytes that are read and
not answered wait in the daemon, in front of those that are not read; nothing else is kept.

Bytes that arrive after the daemon has ended stay unread.

A line has no answer exactly if it is blank text. Otherwise it is answered by the verdict of the
live snapshot on the text without the blanks around it, or by the direct way if it is no text at
all. The generation of the snapshot has no part in it.
-/

namespace Egress

namespace Live

theorem answer_of_undecodable (l : Live) {line : List UInt8} {e : Text.Utf8.Fault}
    (undecodable : Text.Utf8.decode line = .error e) :
    (l.answer line).value = some (answerLine .direct) := by
  simp only [answer, undecodable]
  rfl

theorem answer_of_blank (l : Live) {line : List UInt8} {text : String}
    (decodes : Text.Utf8.decode line = .ok text)
    (blank : ∀ c ∈ text.toList, Text.isBlank c = true) : (l.answer line).value = none := by
  simp only [answer, decodes, (Text.isEmpty_trim_iff text).mpr blank, if_true]
  rfl

theorem answer_of_text (l : Live) {line : List UInt8} {text : String}
    (decodes : Text.Utf8.decode line = .ok text)
    (some : ¬ ∀ c ∈ text.toList, Text.isBlank c = true) :
    (l.answer line).value = .some (answerLine (l.current.route (Text.trim text)).value) := by
  rw [← Text.isEmpty_trim_iff] at some
  simp only [answer, decodes, some]
  rfl

end Live

namespace Lines

/-- What is neither answered nor dropped: the line that is being read, and what waits behind it. -/
def rest (l : Lines) : List UInt8 :=
  l.partialLine ++ l.waiting

/-- The pieces of some bytes, cut behind each line end. -/
def segments : List UInt8 → List (List UInt8)
  | [] => []
  | b :: bs =>
    if b = lineEnd then [b] :: segments bs
    else (b :: (segments bs).headD []) :: (segments bs).tail

/-- Bytes that stop behind a line end, or are none. -/
def Terminated (bs : List UInt8) : Prop :=
  bs = [] ∨ ∃ front, bs = front ++ [lineEnd]

theorem segments_ne_nil {bs : List UInt8} (some : bs ≠ []) : segments bs ≠ [] := by
  cases bs with
  | nil => exact absurd rfl some
  | cons b bs =>
    rw [segments]
    split <;> simp

theorem segments_of_clean {bs : List UInt8} (some : bs ≠ []) (clean : lineEnd ∉ bs) :
    segments bs = [bs] := by
  induction bs with
  | nil => exact absurd rfl some
  | cons b bs ih =>
    obtain ⟨other, clean⟩ := not_or.mp (List.mem_cons.not.mp clean)
    rw [segments, if_neg (Ne.symm other)]
    by_cases last : bs = []
    · simp [last, segments]
    · simp [ih last clean]

theorem segments_line {front : List UInt8} (clean : lineEnd ∉ front) :
    segments (front ++ [lineEnd]) = [front ++ [lineEnd]] := by
  induction front with
  | nil => rfl
  | cons b front ih =>
    obtain ⟨other, clean⟩ := not_or.mp (List.mem_cons.not.mp clean)
    rw [List.cons_append, segments, if_neg (Ne.symm other), ih clean]
    rfl

/-- A line end separates: what comes behind it does not change the segments in front. -/
theorem segments_append {front back : List UInt8} (whole : Terminated front) :
    segments (front ++ back) = segments front ++ segments back := by
  induction front with
  | nil => rfl
  | cons b front ih =>
    by_cases last : front = []
    · have ending : b = lineEnd := by
        rcases whole with none | ⟨before, same⟩
        · cases none
        · subst last
          cases before with
          | nil => exact List.head_eq_of_cons_eq same
          | cons c before => simp at same
      simp [last, ending, segments]
    · have whole' : Terminated front := by
        rcases whole with none | ⟨before, same⟩
        · cases none
        · cases before with
          | nil => exact absurd (List.tail_eq_of_cons_eq same) last
          | cons c before => exact Or.inr ⟨before, List.tail_eq_of_cons_eq same⟩
      obtain ⟨s, ss, nonempty⟩ := List.exists_cons_of_ne_nil (segments_ne_nil last)
      rw [List.cons_append, segments, segments, ih whole', nonempty]
      split <;> rfl

/-- What a read does to the bytes. -/
inductive Reading (l : Lines) : Lines → Option Nat → Prop where
  /-- There is no end in sight, and the read waits for more. -/
  | pending (goesOn : l.hasEnded = false) (clean : lineEnd ∉ l.waiting) :
      Reading l ⟨[], l.hasEnded, l.partialLine ++ l.waiting, l.taken + l.waiting.length⟩ none
  /-- The input is read to its end. -/
  | ended (finished : l.hasEnded = true) (clean : lineEnd ∉ l.waiting) :
      Reading l ⟨[], l.hasEnded, l.partialLine ++ l.waiting, 0⟩ (some (l.taken + l.waiting.length))
  /-- A line is read to its end. -/
  | line (front back : List UInt8) (clean : lineEnd ∉ front)
      (split : l.waiting = front ++ lineEnd :: back) :
      Reading l ⟨back, l.hasEnded, l.partialLine ++ front ++ [lineEnd], 0⟩
        (some (l.taken + front.length + 1))

theorem reading (l : Lines) : Reading l l.read.1 l.read.2 := by
  have clean : lineEnd ∉ l.waiting.takeWhile (· != lineEnd) := by
    intro mem
    simpa using List.mem_takeWhile_imp mem
  cases rest : l.waiting.dropWhile (· != lineEnd) with
  | nil =>
    have all : l.waiting.takeWhile (· != lineEnd) = l.waiting := by
      have whole := List.takeWhile_append_dropWhile (p := (· != lineEnd)) (l := l.waiting)
      rwa [rest, List.append_nil] at whole
    rw [all] at clean
    cases finished : l.hasEnded with
    | false =>
      have read : l.read =
          (⟨[], l.hasEnded, l.partialLine ++ l.waiting, l.taken + l.waiting.length⟩, none) := by
        simp only [Lines.read, rest, all, finished, Bool.false_eq_true, if_false]
      rw [read]
      exact .pending finished clean
    | true =>
      have read : l.read =
          (⟨[], l.hasEnded, l.partialLine ++ l.waiting, 0⟩,
            some (l.taken + l.waiting.length)) := by
        simp only [Lines.read, rest, all, finished, if_true]
      rw [read]
      exact .ended finished clean
  | cons e back =>
    obtain rfl : e = lineEnd := by
      have stops := List.head?_dropWhile_not (· != lineEnd) l.waiting
      simpa [rest] using stops
    have split : l.waiting = l.waiting.takeWhile (· != lineEnd) ++ lineEnd :: back := by
      rw [← rest, List.takeWhile_append_dropWhile]
    have read : l.read =
        (⟨back, l.hasEnded,
          l.partialLine ++ l.waiting.takeWhile (· != lineEnd) ++ [lineEnd], 0⟩,
          some (l.taken + (l.waiting.takeWhile (· != lineEnd)).length + 1)) := by
      simp only [Lines.read, rest]
    rw [read]
    exact .line _ _ clean split

end Lines

namespace Daemon

open Lines (lineEnd segments Terminated Reading)

def Step.feeds : Step → Bool
  | .arrive _ => true
  | .close => true
  | _ => false

/-- The bytes that arrive in the course of some steps, up to the end of the input. -/
def input : List Step → List UInt8
  | [] => []
  | .arrive piece :: rest => piece ++ input rest
  | .close :: _ => []
  | _ :: rest => input rest

theorem input_cons_apart {s : Step} (apart : s.feeds = false) (steps : List Step) :
    input (s :: steps) = input steps := by
  cases s with
  | arrive | close => cases apart
  | _ => rfl

theorem input_append_of_open {before : List Step} (goesOn : .close ∉ before) (later : List Step) :
    input (before ++ later) = input before ++ input later := by
  induction before with
  | nil => rfl
  | cons s before ih =>
    rw [List.mem_cons, not_or] at goesOn
    have ih := ih goesOn.2
    by_cases apart : s.feeds = false
    · rw [List.cons_append, input_cons_apart apart, input_cons_apart apart, ih]
    · cases s with
      | arrive piece => simp [input, ih]
      | close => exact absurd rfl goesOn.1
      | _ => exact absurd rfl apart

theorem input_append_of_closed {before : List Step} (closed : .close ∈ before)
    (later : List Step) : input (before ++ later) = input before := by
  induction before with
  | nil => cases closed
  | cons s before ih =>
    by_cases apart : s.feeds = false
    · have inside : .close ∈ before := by
        rcases List.mem_cons.mp closed with rfl | inside
        · cases apart
        · exact inside
      rw [List.cons_append, input_cons_apart apart, input_cons_apart apart, ih inside]
    · cases s with
      | arrive piece => simp [input, ih (by simpa using closed)]
      | close => rfl
      | _ => exact absurd rfl apart

theorem input_concat_apart {s : Step} (apart : s.feeds = false) (before : List Step) :
    input (before ++ [s]) = input before := by
  by_cases closed : .close ∈ before
  · exact input_append_of_closed closed [s]
  · rw [input_append_of_open closed, input_cons_apart apart]
    exact List.append_nil _

/-- What a step makes of the lines, and what it answers. -/
inductive LineEffect (d : Daemon) : Step → Lines → Option String → Prop where
  | kept {s : Step} (apart : s.feeds = false) : LineEffect d s d.lines none
  | interrupted {s : Step} (apart : s.feeds = false) : LineEffect d s d.lines.interrupt none
  | arrived (piece : List UInt8) : LineEffect d (.arrive piece) (d.lines.arrive piece) none
  | closed : LineEffect d .close d.lines.close none
  | pending {lines : Lines} (reading : Reading d.lines lines none) :
      LineEffect d .read lines none
  | finished {lines : Lines} {taken : Nat} (reading : Reading d.lines lines (some taken)) :
      LineEffect d .read lines.clear (d.live.answer lines.partialLine).value

theorem Move.reading {d : Daemon} {lines : Lines} {taken : Option Nat}
    (h : d.lines.read = (lines, taken)) : Reading d.lines lines taken := by
  have reading := d.lines.reading
  rwa [h] at reading

theorem Move.lineEffect {d d' : Daemon} {s : Step} {answer : Option String}
    (move : Move d s d' answer) : LineEffect d s d'.lines answer := by
  cases move with
  | arrived piece => exact .arrived piece
  | closed => exact .closed
  | updated | reloaded => exact .interrupted rfl
  | readOn serving pending => exact .pending (reading pending)
  | answered serving finished => exact .finished (reading finished)
  | idle own =>
    refine .kept ?_
    cases s with
    | arrive | close => cases own
    | _ => rfl
  | _ => exact .kept rfl

/-- The bytes of the input that are dealt with, their segments being answered or dropped as
blank. -/
def dealtWith (content : Place) (steps : List Step) : List UInt8 :=
  (input steps).take ((input steps).length - (history content steps).1.lines.rest.length)

theorem dealtWith_eq {content : Place} {steps : List Step} {dealt : List UInt8}
    (split : input steps = dealt ++ (history content steps).1.lines.rest) :
    dealtWith content steps = dealt := by
  rw [dealtWith, split, List.length_append, Nat.add_sub_cancel, List.take_left']
  rfl

/-- The accounts of a run. Each segment that is dealt with is put down with the steps before the
read that completed it. -/
structure Accounts (content : Place) (steps : List Step)
    (served : List (List Step × List UInt8)) : Prop where
  split : input steps = dealtWith content steps ++ (history content steps).1.lines.rest
  ended : (history content steps).1.lines.hasEnded = true ↔ .close ∈ steps
  clean : lineEnd ∉ (history content steps).1.lines.partialLine
  whole : Terminated (dealtWith content steps) ∨
    ((history content steps).1.lines.hasEnded = true ∧
      (history content steps).1.lines.rest = [])
  covered : served.map Prod.snd = segments (dealtWith content steps)
  answers : (history content steps).2 =
    served.filterMap fun a => ((history content a.1).1.live.answer a.2).value
  moments : ∀ i before segment, served[i]? = some (before, segment) →
    before ++ [.read] <+: steps ∧
      (segments (dealtWith content before)).length = i ∧
      (segments (dealtWith content (before ++ [.read]))).length = i + 1

namespace Accounts

variable {content : Place} {steps : List Step} {served : List (List Step × List UInt8)} {s : Step}

theorem length_served (h : Accounts content steps served) :
    served.length = (segments (dealtWith content steps)).length := by
  rw [← h.covered, List.length_map]

/-- A step that answers nothing, perhaps with bytes that come to the rest. -/
theorem stay (h : Accounts content steps served) (piece : List UInt8)
    (silent : (history content (steps ++ [s])).2 = (history content steps).2)
    (arrived : input (steps ++ [s]) = input steps ++ piece)
    (rest : (history content (steps ++ [s])).1.lines.rest =
      (history content steps).1.lines.rest ++ piece)
    (finished : (history content steps).1.lines.hasEnded = true →
      (history content (steps ++ [s])).1.lines.hasEnded = true ∧ piece = [])
    (ended : (history content (steps ++ [s])).1.lines.hasEnded = true ↔ .close ∈ steps ++ [s])
    (clean : lineEnd ∉ (history content (steps ++ [s])).1.lines.partialLine) :
    Accounts content (steps ++ [s]) served := by
  have split : input (steps ++ [s]) =
      dealtWith content steps ++ (history content (steps ++ [s])).1.lines.rest := by
    rw [arrived, rest, ← List.append_assoc, ← h.split]
  have same := dealtWith_eq split
  refine ⟨by rw [same]; exact split, ended, clean, ?_, ?_, ?_, ?_⟩
  · rw [same]
    rcases h.whole with whole | ⟨closed, empty⟩
    · exact Or.inl whole
    · obtain ⟨closed', rfl⟩ := finished closed
      exact Or.inr ⟨closed', by rw [rest, empty]; rfl⟩
  · rw [same]
    exact h.covered
  · rw [silent]
    exact h.answers
  · intro i before segment found
    obtain ⟨earlier, count⟩ := h.moments i before segment found
    exact ⟨earlier.trans (List.prefix_append _ _), count⟩

/-- A read that completes a segment. -/
theorem serve (h : Accounts content steps served) {segment : List UInt8}
    (answer : (history content (steps ++ [.read])).2 = (history content steps).2 ++
      ((history content steps).1.live.answer segment).value.toList)
    (rest : (history content steps).1.lines.rest =
      segment ++ (history content (steps ++ [.read])).1.lines.rest)
    (one : segments segment = [segment])
    (ended : (history content (steps ++ [.read])).1.lines.hasEnded = true ↔ .close ∈ steps)
    (clean : lineEnd ∉ (history content (steps ++ [.read])).1.lines.partialLine)
    (whole : (∃ front, segment = front ++ [lineEnd]) ∨
      ((history content (steps ++ [.read])).1.lines.hasEnded = true ∧
        (history content (steps ++ [.read])).1.lines.rest = [])) :
    Accounts content (steps ++ [.read]) (served ++ [(steps, segment)]) := by
  have split : input (steps ++ [.read]) = (dealtWith content steps ++ segment) ++
      (history content (steps ++ [.read])).1.lines.rest := by
    rw [input_concat_apart rfl, h.split, rest, List.append_assoc]
  have more := dealtWith_eq split
  have terminated : Terminated (dealtWith content steps) := by
    rcases h.whole with whole | ⟨_, empty⟩
    · exact whole
    · rw [empty] at rest
      obtain ⟨rfl, _⟩ := List.append_eq_nil_iff.mp rest.symm
      cases one
  have count : segments (dealtWith content (steps ++ [.read])) =
      segments (dealtWith content steps) ++ [segment] := by
    rw [more, Lines.segments_append terminated, one]
  refine ⟨by rw [more]; exact split, by simpa using ended, clean, ?_, ?_, ?_, ?_⟩
  · rcases whole with ⟨front, rfl⟩ | last
    · exact Or.inl (Or.inr ⟨dealtWith content steps ++ front, by rw [more, List.append_assoc]⟩)
    · exact Or.inr last
  · rw [List.map_append, h.covered, count]
    rfl
  · rw [answer, h.answers, List.filterMap_append]
    simp only [List.filterMap_cons, List.filterMap_nil]
    cases ((history content steps).1.live.answer segment).value <;> rfl
  · intro i before piece found
    by_cases old : i < served.length
    · rw [List.getElem?_append_left old] at found
      obtain ⟨earlier, counts⟩ := h.moments i before piece found
      exact ⟨earlier.trans (List.prefix_append _ _), counts⟩
    · rw [List.getElem?_append_right (by omega), List.getElem?_singleton] at found
      obtain ⟨last, same⟩ := Option.ite_none_right_eq_some.mp found
      cases same
      have length := h.length_served
      refine ⟨List.prefix_refl _, by omega, ?_⟩
      rw [count, List.length_append, List.length_singleton]
      omega

/-- A step that leaves the bytes as they are. -/
theorem wait (h : Accounts content steps served) (apart : s.feeds = false)
    (silent : (history content (steps ++ [s])).2 = (history content steps).2)
    (rest : (history content (steps ++ [s])).1.lines.rest =
      (history content steps).1.lines.rest)
    (ended : (history content (steps ++ [s])).1.lines.hasEnded =
      (history content steps).1.lines.hasEnded)
    (clean : lineEnd ∉ (history content (steps ++ [s])).1.lines.partialLine) :
    Accounts content (steps ++ [s]) served := by
  have other : .close ≠ s := by
    rintro rfl
    cases apart
  refine h.stay [] silent ?_ ?_ ?_ ?_ clean
  · rw [input_concat_apart apart, List.append_nil]
  · rw [rest, List.append_nil]
  · intro closed
    exact ⟨ended.trans closed, rfl⟩
  · rw [ended, h.ended]
    simp [other]

/-- A piece that arrives after the end of the input is not part of it. -/
theorem arrive (h : Accounts content steps served) {piece : List UInt8}
    (silent : (history content (steps ++ [.arrive piece])).2 = (history content steps).2)
    (after : (history content (steps ++ [.arrive piece])).1.lines =
      (history content steps).1.lines.arrive piece) :
    Accounts content (steps ++ [.arrive piece]) served := by
  have mem : .close ∈ steps ++ [.arrive piece] ↔ .close ∈ steps := by simp
  cases finished : (history content steps).1.lines.hasEnded with
  | true =>
    rw [Lines.arrive, if_pos finished] at after
    refine h.stay [] silent ?_ ?_ ?_ ?_ ?_
    · rw [input_append_of_closed (h.ended.mp finished), List.append_nil]
    · rw [after, List.append_nil]
    · intro _
      exact ⟨by rw [after]; exact finished, rfl⟩
    · rw [after, mem]
      exact h.ended
    · rw [after]
      exact h.clean
  | false =>
    have goesOn : .close ∉ steps := by
      rw [← h.ended, finished]
      exact Bool.false_ne_true
    rw [Lines.arrive, finished, if_neg Bool.false_ne_true] at after
    refine h.stay piece silent ?_ ?_ ?_ ?_ ?_
    · rw [input_append_of_open goesOn]
      simp [input]
    · rw [after, Lines.rest, Lines.rest, List.append_assoc]
    · intro closed
      rw [finished] at closed
      cases closed
    · rw [after, mem]
      exact finished ▸ h.ended
    · rw [after]
      exact h.clean

theorem close (h : Accounts content steps served)
    (silent : (history content (steps ++ [.close])).2 = (history content steps).2)
    (after : (history content (steps ++ [.close])).1.lines =
      (history content steps).1.lines.close) :
    Accounts content (steps ++ [.close]) served := by
  refine h.stay [] silent ?_ ?_ ?_ ?_ ?_
  · by_cases closed : .close ∈ steps
    · rw [input_append_of_closed closed, List.append_nil]
    · rw [input_append_of_open closed]
      rfl
  · rw [after, List.append_nil]
    rfl
  · intro _
    exact ⟨by rw [after]; rfl, rfl⟩
  · rw [after]
    simp [Lines.close]
  · rw [after]
    exact h.clean

/-- A read that is over has completed a segment, or there is nothing left of the input. -/
theorem read (h : Accounts content steps served) {lines : Lines} {taken : Nat}
    (reading : Reading (history content steps).1.lines lines (some taken))
    (after : (history content (steps ++ [.read])).1.lines = lines.clear)
    (answer : (history content (steps ++ [.read])).2 = (history content steps).2 ++
      ((history content steps).1.live.answer lines.partialLine).value.toList) :
    ∃ served, Accounts content (steps ++ [.read]) served := by
  have clean : lineEnd ∉ (history content (steps ++ [.read])).1.lines.partialLine := by
    rw [after]
    exact List.not_mem_nil
  cases reading with
  | ended finished waiting =>
    have all : lineEnd ∉ (history content steps).1.lines.rest := by
      rw [Lines.rest, List.mem_append, not_or]
      exact ⟨h.clean, waiting⟩
    have done : (history content (steps ++ [.read])).1.lines.rest = [] := by
      rw [after]
      rfl
    by_cases nothing : (history content steps).1.lines.rest = []
    · refine ⟨served, h.wait rfl ?_ (done.trans nothing.symm) (by rw [after]; rfl) clean⟩
      rw [Lines.rest] at nothing
      rw [answer]
      simp only [nothing]
      have blank : Text.Utf8.decode [] = .ok "" := rfl
      rw [Live.answer_of_blank _ blank (by simp)]
      exact List.append_nil _
    · refine ⟨_, h.serve answer ?_ (Lines.segments_of_clean nothing all) ?_ clean ?_⟩
      · rw [done, List.append_nil]
        rfl
      · rw [after]
        exact h.ended
      · refine Or.inr ⟨?_, done⟩
        rw [after]
        exact finished
  | line front back cleanFront split =>
    have whole : lineEnd ∉ (history content steps).1.lines.partialLine ++ front := by
      rw [List.mem_append, not_or]
      exact ⟨h.clean, cleanFront⟩
    refine ⟨_, h.serve answer ?_ (Lines.segments_line whole) ?_ clean (Or.inl ⟨_, rfl⟩)⟩
    · rw [after, Lines.rest, split]
      simp [Lines.rest, Lines.clear]
    · rw [after]
      exact h.ended

/-- Whatever the next step is, the accounts go on. -/
theorem step (h : Accounts content steps served) {lines : Lines} {answer : Option String}
    (effect : LineEffect (history content steps).1 s lines answer)
    (after : (history content (steps ++ [s])).1.lines = lines)
    (answers : (history content (steps ++ [s])).2 =
      (history content steps).2 ++ answer.toList) :
    ∃ served, Accounts content (steps ++ [s]) served := by
  cases effect with
  | kept apart =>
    rw [Option.toList_none, List.append_nil] at answers
    exact ⟨served, h.wait apart answers (by rw [after]) (by rw [after])
      (by rw [after]; exact h.clean)⟩
  | interrupted apart =>
    rw [Option.toList_none, List.append_nil] at answers
    exact ⟨served, h.wait apart answers (by rw [after]; rfl) (by rw [after]; rfl)
      (by rw [after]; exact h.clean)⟩
  | arrived piece =>
    rw [Option.toList_none, List.append_nil] at answers
    exact ⟨served, h.arrive answers after⟩
  | closed =>
    rw [Option.toList_none, List.append_nil] at answers
    exact ⟨served, h.close answers after⟩
  | pending reading =>
    rw [Option.toList_none, List.append_nil] at answers
    cases reading with
    | pending goesOn waiting =>
      refine ⟨served, h.wait rfl answers ?_ (by rw [after]) ?_⟩
      · rw [after]
        exact List.append_nil _
      · rw [after]
        rw [List.mem_append, not_or]
        exact ⟨h.clean, waiting⟩
  | finished reading => exact h.read reading after answers

end Accounts

/-- Every run has its accounts. -/
theorem exists_accounts (content : Place) (steps : List Step) :
    ∃ served, Accounts content steps served := by
  induction steps using List.reverseRecOn with
  | nil =>
    have none : dealtWith content [] = [] := rfl
    exact ⟨[], rfl, by simp [history, run, Traced.run_nil], List.not_mem_nil,
      Or.inl (Or.inl none), rfl, rfl, by simp⟩
  | append_singleton steps s ih =>
    obtain ⟨served, h⟩ := ih
    have next := history_concat content steps s
    exact h.step (move_step _ s).lineEffect (by rw [next]) (by rw [next])

theorem Accounts.prefix {content : Place} {steps : List Step}
    {served : List (List Step × List UInt8)} (h : Accounts content steps served) :
    segments (dealtWith content steps) <+: segments (input steps) := by
  rcases h.whole with whole | ⟨_, empty⟩
  · rw [h.split, Lines.segments_append whole]
    exact List.prefix_append _ _
  · have all := h.split
    rw [empty, List.append_nil] at all
    exact congrArg segments all ▸ List.prefix_refl _

/-- Once the input has ended and nothing of it is left, that stays so. -/
theorem LineEffect.exhausted {d : Daemon} {s : Step} {lines : Lines} {answer : Option String}
    (effect : LineEffect d s lines answer) (finished : d.lines.hasEnded = true)
    (nothing : d.lines.rest = []) : lines.hasEnded = true ∧ lines.rest = [] := by
  cases effect with
  | kept => exact ⟨finished, nothing⟩
  | interrupted => exact ⟨finished, nothing⟩
  | arrived piece =>
    rw [Lines.arrive, if_pos finished]
    exact ⟨finished, nothing⟩
  | closed => exact ⟨rfl, nothing⟩
  | pending reading =>
    cases reading with
    | pending goesOn => rw [finished] at goesOn; cases goesOn
  | finished reading =>
    cases reading with
    | ended => exact ⟨finished, rfl⟩
    | line front back clean split =>
      rw [Lines.rest, split] at nothing
      simp at nothing

theorem exhausted_run {d : Daemon} (finished : d.lines.hasEnded = true)
    (nothing : d.lines.rest = []) (steps : List Step) : (d.run steps).value.1.lines.rest = [] := by
  have kept : (d.run steps).value.1.lines.hasEnded = true ∧
      (d.run steps).value.1.lines.rest = [] :=
    Traced.run_invariant _ _ (P := fun d' => d'.lines.hasEnded = true ∧ d'.lines.rest = [])
      (fun s _ d' before => (move_step d' s).lineEffect.exhausted before.1 before.2)
      ⟨finished, nothing⟩
  exact kept.2

/-- Only at the end of the input a read is over without a byte. -/
theorem hasEnded_of_nothing_taken {l lines : Lines} (reading : Reading l lines (some 0)) :
    lines.hasEnded = true ∧ lines.waiting = [] := by
  generalize zero : some 0 = taken at reading
  cases reading with
  | pending => cases zero
  | ended finished => exact ⟨finished, rfl⟩
  | line =>
    injection zero with zero
    omega

/-- A read that ends the daemon finds the end of the input and leaves nothing. -/
theorem Move.exhausts {d d' : Daemon} {answer : Option String} (move : Move d .read d' answer)
    (serving : d.stage = .serving) (ended : d'.stage = .ended) :
    d'.lines.hasEnded = true ∧ d'.lines.rest = [] := by
  cases move with
  | readOn | idle =>
    rw [serving] at ended
    cases ended
  | @answered lines taken _ finished =>
    by_cases nothing : taken = 0
    · subst nothing
      have atEnd := hasEnded_of_nothing_taken (Move.reading finished)
      exact atEnd
    · rw [if_neg nothing, serving] at ended
      cases ended

theorem dealtWith_of_exhausted {content : Place} {steps : List Step}
    (nothing : (history content steps).1.lines.rest = []) :
    dealtWith content steps = input steps := by
  rw [dealtWith, nothing, List.length_nil, Nat.sub_zero, List.take_length]

theorem dealtWith_of_ended_by_read {content : Place} {before steps : List Step}
    (inside : before ++ [.read] <+: steps) (serving : (history content before).1.stage = .serving)
    (ended : (history content (before ++ [.read])).1.stage = .ended) :
    dealtWith content steps = input steps := by
  have next := history_concat content before .read
  rw [next] at ended
  obtain ⟨finished, nothing⟩ := (move_step _ .read).exhausts serving ended
  obtain ⟨later, rfl⟩ := inside
  apply dealtWith_of_exhausted
  rw [history, run_append_value, ← history, next]
  exact exhausted_run finished nothing later

theorem run_read_pending {d : Daemon} (serving : d.stage = .serving) {lines : Lines}
    (pending : d.lines.read = (lines, none)) :
    (d.run [.read]).value.1 = { d with lines := lines } := by
  rw [run_cons_value, step_of_serving serving rfl (by simp)]
  simp only [serviceStep, read_value_pending pending]
  rfl

theorem run_read_over {d : Daemon} (serving : d.stage = .serving) {lines : Lines} {taken : Nat}
    (finished : d.lines.read = (lines, some taken)) (rest : List Step) :
    (d.run (.read :: rest)).value.1 =
      (run { d with
        stage := if taken = 0 then .ended else d.stage
        lines := lines.clear } rest).value.1 := by
  rw [run_cons_value, step_of_serving serving rfl (by simp)]
  simp only [serviceStep, read_value_over finished]

/-- Reading often enough leaves no line end unread, and ends the daemon if the input has ended. -/
theorem exists_reads {d : Daemon} (serving : d.stage = .serving) :
    ∃ n, lineEnd ∉ (d.run (List.replicate n .read)).value.1.lines.waiting ∧
      (d.lines.hasEnded = true →
        (d.run (List.replicate n .read)).value.1.stage = .ended ∧
          (d.run (List.replicate n .read)).value.1.lines.rest = []) := by
  induction size : d.lines.waiting.length using Nat.strong_induction_on generalizing d with
  | h size ih =>
    have reading := d.lines.reading
    generalize result : d.lines.read = outcome at reading
    obtain ⟨lines, taken⟩ := outcome
    cases reading with
    | pending goesOn clean =>
      refine ⟨1, ?_⟩
      rw [List.replicate_one, run_read_pending serving result, goesOn]
      exact ⟨List.not_mem_nil, fun finished => by cases finished⟩
    | ended finished clean =>
      by_cases nothing : d.lines.taken + d.lines.waiting.length = 0
      · refine ⟨1, ?_⟩
        rw [List.replicate_one, run_read_over serving result, if_pos nothing]
        exact ⟨List.not_mem_nil, fun _ => ⟨rfl, rfl⟩⟩
      · refine ⟨2, ?_⟩
        have last : Lines.read (Lines.clear
            ⟨[], d.lines.hasEnded, d.lines.partialLine ++ d.lines.waiting, 0⟩) =
            (⟨[], true, [], 0⟩, some 0) := by
          rw [finished]
          rfl
        have ends := run_read_over (d := { d with
          lines := Lines.clear
            ⟨[], d.lines.hasEnded, d.lines.partialLine ++ d.lines.waiting, 0⟩ })
          serving last []
        rw [List.replicate_succ, List.replicate_one, run_read_over serving result,
          if_neg nothing, ends]
        exact ⟨List.not_mem_nil, fun _ => ⟨rfl, rfl⟩⟩
    | line front back clean split =>
      obtain ⟨n, unread, ends⟩ := ih back.length (by rw [← size, split]; simp; omega)
        (d := { d with
          lines := ⟨back, d.lines.hasEnded, [], 0⟩ }) serving rfl
      refine ⟨n + 1, ?_⟩
      rw [List.replicate_succ, run_read_over serving result, if_neg (by omega)]
      exact ⟨unread, ends⟩

theorem input_reads (steps : List Step) (n : Nat) :
    input (steps ++ List.replicate n .read) = input steps := by
  induction n with
  | zero => rw [List.replicate_zero, List.append_nil]
  | succ n ih => rw [List.replicate_succ', ← List.append_assoc, input_concat_apart rfl, ih]

/-- A serving daemon gets through its input by reading. -/
theorem exists_reads_history {content : Place} {steps : List Step}
    (serving : (history content steps).1.stage = .serving) :
    ∃ n, lineEnd ∉ (history content (steps ++ List.replicate n .read)).1.lines.rest ∧
      (.close ∈ steps →
        (history content (steps ++ List.replicate n .read)).1.stage = .ended ∧
          dealtWith content (steps ++ List.replicate n .read) = input steps) := by
  obtain ⟨n, unread, ends⟩ := exists_reads serving
  have later : (history content (steps ++ List.replicate n .read)).1 =
      ((history content steps).1.run (List.replicate n .read)).value.1 := by
    rw [history, run_append_value, ← history]
  refine ⟨n, ?_, ?_⟩
  · obtain ⟨_, h⟩ := exists_accounts content (steps ++ List.replicate n .read)
    rw [Lines.rest, List.mem_append, not_or]
    refine ⟨h.clean, ?_⟩
    rw [later]
    exact unread
  · intro closed
    obtain ⟨_, h⟩ := exists_accounts content steps
    obtain ⟨ended, nothing⟩ := ends (h.ended.mpr closed)
    rw [← later] at ended nothing
    refine ⟨ended, ?_⟩
    rw [dealtWith_of_exhausted nothing, input_reads]

/-- Whatever steps a run takes, and in whatever order: the answers are those to the first segments
of the input, in their order, each one answered once and from the snapshot that was live before the
read that completed it. What is not dealt with is kept in order, and is at most one unfinished line
and what is not read; a run that ends by reading has dealt with the whole input, and reading often
enough comes to that end. A segment has no answer exactly if it is blank text; one that is no text
is answered by the direct way. -/
theorem history_answers_segments (content : Place) (steps : List Step) :
    (∃ served : List (List Step × List UInt8),
      served.map Prod.snd = segments (dealtWith content steps) ∧
      (history content steps).2 =
        served.filterMap (fun a => ((history content a.1).1.live.answer a.2).value) ∧
      ∀ i before segment, served[i]? = some (before, segment) →
        before ++ [.read] <+: steps ∧
          (segments (dealtWith content before)).length = i ∧
          (segments (dealtWith content (before ++ [.read]))).length = i + 1) ∧
    input steps = dealtWith content steps ++
      ((history content steps).1.lines.partialLine ++
        (history content steps).1.lines.waiting) ∧
    lineEnd ∉ (history content steps).1.lines.partialLine ∧
    segments (dealtWith content steps) <+: segments (input steps) ∧
    (∀ before, before ++ [.read] <+: steps → (history content before).1.stage = .serving →
      (history content (before ++ [.read])).1.stage = .ended →
        dealtWith content steps = input steps) ∧
    ((history content steps).1.stage = .serving →
      ∃ n, lineEnd ∉ (history content (steps ++ List.replicate n .read)).1.lines.rest ∧
        (.close ∈ steps →
          (history content (steps ++ List.replicate n .read)).1.stage = .ended ∧
            dealtWith content (steps ++ List.replicate n .read) = input steps)) ∧
    (∀ (live : Live) (segment : List UInt8),
      (∀ e, Text.Utf8.decode segment = .error e →
        (live.answer segment).value = some (Live.answerLine .direct)) ∧
      (∀ text, Text.Utf8.decode segment = .ok text → (∀ c ∈ text.toList, Text.isBlank c = true) →
        (live.answer segment).value = none) ∧
      (∀ text, Text.Utf8.decode segment = .ok text → (∃ c ∈ text.toList, Text.isBlank c = false) →
        (live.answer segment).value =
          some (Live.answerLine (live.current.route (Text.trim text)).value))) := by
  obtain ⟨served, h⟩ := exists_accounts content steps
  refine ⟨⟨served, h.covered, h.answers, h.moments⟩, h.split, h.clean, h.prefix, ?_,
    exists_reads_history, ?_⟩
  · intro before inside serving ended
    exact dealtWith_of_ended_by_read inside serving ended
  · intro live segment
    refine ⟨fun e => live.answer_of_undecodable, fun text => live.answer_of_blank, ?_⟩
    rintro text decodes ⟨c, mem, some⟩
    apply live.answer_of_text decodes
    intro blank
    rw [blank c mem] at some
    cases some

end Daemon

end Egress
