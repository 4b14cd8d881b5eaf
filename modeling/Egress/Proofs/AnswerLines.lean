import Mathlib.Data.List.Basic
import Egress.Proofs.DecodedBytes
import Egress.Proofs.Decision
import Egress.Proofs.JsonRoundTrip
import Egress.Proofs.LineService
import Egress.Proofs.Members

/-!
# Reading answers back

Whoever reads the answers has nothing but their bytes. These are one line for each answer, since all
characters that could be taken for the end of a line are escaped, and each line is read back as the
hops that were meant, whatever characters the host of a proxy has. Cut at its line ends, the stream
of answers is the list of verdicts.

Nothing is assumed about the snapshot, so all this holds of every one that can become live.
-/

namespace Egress

/-! ## From an answer to a verdict -/

def portNumber? : Json → Option UInt16
  | .number (.integer n) => Payload.portOfInt? n
  | _ => none

def Hop.ofJson? (v : Json) : Option Hop :=
  match (v.get? "type").bind Json.string? with
  | some "direct" => some .direct
  | some "http" => do
    let host ← (v.get? "host").bind Json.string?
    let port ← (v.get? "port").bind portNumber?
    return .http ⟨host, port⟩
  | _ => none

def hopsOf? (bytes : List UInt8) : Option (List Hop) :=
  match Text.Utf8.decode bytes with
  | .ok text =>
    match Json.parse text with
    | .ok (.array items) => items.mapM Hop.ofJson?
    | _ => none
  | .error _ => none

def Verdict.ofHops? : List Hop → Option Verdict
  | [.direct] => some .direct
  | [.http e, .direct] => some (.proxy [e])
  | _ => none

theorem portNumber?_ofNat (port : UInt16) : portNumber? (Json.ofNat port.toNat) = some port := by
  have small : port.toNat < 65536 := port.toNat_lt
  have nonneg : ¬ ((port.toNat : Int) < 0) := by omega
  rw [Json.ofNat, portNumber?, Payload.portOfInt?, if_neg nonneg, Int.toNat_natCast,
    Payload.portOfNat?, if_pos small, UInt16.ofNat_toNat]

theorem Hop.ofJson?_ordered (h : Hop) : Hop.ofJson? h.json.ordered = some h := by
  cases h with
  | direct => rfl
  | http e =>
    have members : (Hop.http e).json.ordered.members? =
        some (Json.insertMember "port" (Json.ofNat e.port.toNat)
          (Json.insertMember "host" (.string e.host)
            (Json.insertMember "type" (.string "http") []))) := by
      simp only [Hop.json, Json.ofNat, Json.ordered, Json.orderedMembers, Json.ofMembers,
        Json.sortMembers, List.foldl_cons, List.foldl_nil, Json.members?]
    have kind : (Hop.http e).json.ordered.get? "type" = some (.string "http") := by
      rw [Json.get?, members, Option.bind_some, Json.lookup_insertMember_of_ne (by decide),
        Json.lookup_insertMember_of_ne (by decide), Json.lookup_insertMember]
    have host : (Hop.http e).json.ordered.get? "host" = some (.string e.host) := by
      rw [Json.get?, members, Option.bind_some, Json.lookup_insertMember_of_ne (by decide),
        Json.lookup_insertMember]
    have port : (Hop.http e).json.ordered.get? "port" = some (Json.ofNat e.port.toNat) := by
      rw [Json.get?, members, Option.bind_some, Json.lookup_insertMember]
    simp [Hop.ofJson?, kind, host, port, Json.string?, portNumber?_ofNat]

theorem mapM_ofJson?_ordered (hops : List Hop) :
    (Json.orderedItems (hops.map Hop.json)).mapM Hop.ofJson? = some hops := by
  induction hops with
  | nil => rfl
  | cons h hops ih =>
    rw [List.map_cons, Json.orderedItems, List.mapM_cons, h.ofJson?_ordered, ih]
    rfl

theorem Hop.isPlain_json (h : Hop) : Json.IsPlain 1 h.json := by
  cases h with
  | direct =>
    refine .object fun m mem => ?_
    rw [List.mem_singleton.mp mem]
    exact .string _
  | http e =>
    have small : e.port.toNat < 65536 := e.port.toNat_lt
    refine .object fun m mem => ?_
    simp only [List.mem_cons, List.not_mem_nil, or_false] at mem
    rcases mem with rfl | rfl | rfl
    · exact .string _
    · exact .string _
    · exact .integer (by omega) (by omega)

theorem Verdict.isPlain_json (v : Verdict) : Json.IsPlain 2 v.json := by
  refine .array fun item mem => ?_
  obtain ⟨h, _, rfl⟩ := List.mem_map.mp mem
  exact h.isPlain_json

/-- What is read back from the written form of a verdict. -/
theorem hopsOf?_encode (v : Verdict) : hopsOf? (Text.Utf8.encode v.json.compact) = some v.hops := by
  have plain : Json.IsPlain Json.fileRoom v.json := v.isPlain_json.mono (by decide)
  have value : Json.parse v.json.compact = .ok (.array (Json.orderedItems (v.hops.map Hop.json))) :=
    Json.parse_compact plain
  simp only [hopsOf?, Text.Utf8.decode_encode, value]
  exact mapM_ofJson?_ordered v.hops

/-! ## One line for each answer -/

namespace Live

open Lines (lineEnd segments Terminated)

/-- Bytes that are one line, in which the hops of a verdict are written. -/
def Frames (bytes : List UInt8) (v : Verdict) : Prop :=
  ∃ front, bytes = front ++ [lineEnd] ∧ lineEnd ∉ front ∧ hopsOf? front = some v.hops

theorem frames_answerLine (v : Verdict) : Frames (Text.Utf8.encode (answerLine v)) v := by
  refine ⟨Text.Utf8.encode v.json.compact, ?_, ?_, hopsOf?_encode v⟩
  · rw [answerLine, Text.Utf8.encode_append]
    rfl
  · have clean : '\n' ∉ v.json.compact.toList := by
      rw [Json.compact, String.toList_ofList]
      exact v.isPlain_json.newline_not_mem
    exact fun mem => clean ((Text.Utf8.ten_mem_encode_iff _).mp mem)

/-- The verdict that a line of input asks for, if it asks for any. -/
def verdictOn? (l : Live) (line : List UInt8) : Option Verdict :=
  match Text.Utf8.decode line with
  | .ok text =>
    if Text.allBlank text then none else some (l.route (Text.trim text)).value
  | .error _ => some .direct

theorem answer_value (l : Live) (line : List UInt8) :
    (l.answer line).value = (l.verdictOn? line).map answerLine := by
  cases decodes : Text.Utf8.decode line with
  | error e =>
    rw [answer_of_undecodable l decodes]
    simp only [verdictOn?, decodes]
    rfl
  | ok text =>
    have blank_iff : Text.allBlank text = true ↔ ∀ c ∈ text.toList, Text.isBlank c = true :=
      List.all_eq_true
    by_cases blank : Text.allBlank text = true
    · rw [answer_of_blank l decodes (blank_iff.mp blank)]
      simp only [verdictOn?, decodes, blank, if_true]
      rfl
    · rw [answer_of_text l decodes (blank_iff.not.mp blank)]
      simp only [verdictOn?, decodes, blank]
      rfl

theorem verdictOn?_eq_none_iff (l : Live) (line : List UInt8) :
    l.verdictOn? line = none ↔
      ∃ text, line = Text.Utf8.encode text ∧ ∀ c ∈ text.toList, Text.isBlank c = true := by
  constructor
  · intro unasked
    unfold verdictOn? at unasked
    split at unasked
    · next text decodes =>
      split at unasked
      · next blank =>
        exact ⟨text, (Text.Utf8.decode_eq_ok_iff line text).mp decodes, List.all_eq_true.mp blank⟩
      · cases unasked
    · cases unasked
  · rintro ⟨text, rfl, blank⟩
    have allBlank : Text.allBlank text = true := List.all_eq_true.mpr blank
    simp only [verdictOn?, Text.Utf8.decode_encode, allBlank, if_true]

/-- A verdict is direct or names one proxy, so that its hops tell which it is. -/
theorem ofHops?_hops {l : Live} {line : List UInt8} {v : Verdict}
    (asked : l.verdictOn? line = some v) : Verdict.ofHops? v.hops = some v := by
  have routed : ∀ url, Verdict.ofHops? (l.current.route url).value.hops =
      some (l.current.route url).value := by
    intro url
    have exit := l.current.route_exit url
    cases value : (l.current.route url).value with
    | direct => rfl
    | proxy targets =>
      rw [value] at exit
      obtain ⟨e, rfl, _⟩ := exit.proxiedThrough
      rfl
  unfold verdictOn? at asked
  split at asked
  · split at asked
    · cases asked
    · obtain rfl := Option.some.inj asked
      exact routed _
  · obtain rfl := Option.some.inj asked
    rfl

/-- The bytes of the answers to some lines, each given with what is live when it is answered. -/
def answerStream (lines : List (Live × List UInt8)) : List UInt8 :=
  (lines.filterMap fun (l, line) => (l.answer line).value).flatMap Text.Utf8.encode

def verdictTold? (line : List UInt8) : Option Verdict :=
  (hopsOf? line.dropLast).bind Verdict.ofHops?

theorem Frames.segments_append {bytes : List UInt8} {v : Verdict} (frames : Frames bytes v)
    (rest : List UInt8) : segments (bytes ++ rest) = bytes :: segments rest := by
  obtain ⟨front, rfl, clean, _⟩ := frames
  rw [Lines.segments_append (Or.inr ⟨front, rfl⟩), Lines.segments_line clean]
  rfl

theorem Frames.verdictTold? {bytes : List UInt8} {v : Verdict} (frames : Frames bytes v) :
    Live.verdictTold? bytes = Verdict.ofHops? v.hops := by
  obtain ⟨front, rfl, _, hops⟩ := frames
  rw [Live.verdictTold?, List.dropLast_concat, hops]
  rfl

/-- Cut at its line ends, the stream of answers is the list of verdicts asked for. -/
theorem segments_answerStream (lines : List (Live × List UInt8)) :
    (segments (answerStream lines)).map verdictTold? =
      (lines.filterMap fun (l, line) => l.verdictOn? line).map some := by
  induction lines with
  | nil => rfl
  | cons next lines ih =>
    obtain ⟨l, line⟩ := next
    have value := l.answer_value line
    cases asked : l.verdictOn? line with
    | none =>
      rw [asked, Option.map_none] at value
      have same : answerStream ((l, line) :: lines) = answerStream lines := by
        simp only [answerStream, List.filterMap_cons, value]
      rw [same, ih]
      simp only [List.filterMap_cons, asked]
    | some v =>
      rw [asked, Option.map_some] at value
      have split : answerStream ((l, line) :: lines) =
          Text.Utf8.encode (answerLine v) ++ answerStream lines := by
        simp only [answerStream, List.filterMap_cons, value, List.flatMap_cons]
      have told : verdictTold? (Text.Utf8.encode (answerLine v)) = some v := by
        rw [(frames_answerLine v).verdictTold?, ofHops?_hops asked]
      rw [split, (frames_answerLine v).segments_append, List.map_cons, told, ih]
      simp only [List.filterMap_cons, asked, List.map_cons]

/-- A line has no answer exactly if it is a text of blanks. Otherwise its answer is one line, read
back as the hops of the live snapshot's verdict on the text without the blanks around it, or as the
direct hop if the line is no text. A stream of answers is read back as the verdicts asked for. -/
theorem answers_told_apart :
    (∀ (l : Live) (line : List UInt8), (l.answer line).value = none ↔
      ∃ text, line = Text.Utf8.encode text ∧ ∀ c ∈ text.toList, Text.isBlank c = true) ∧
    (∀ (l : Live) (text : String), (∃ c ∈ text.toList, Text.isBlank c = false) →
      ∃ answer, (l.answer (Text.Utf8.encode text)).value = some answer ∧
        Frames (Text.Utf8.encode answer) (l.route (Text.trim text)).value) ∧
    (∀ (l : Live) (line : List UInt8), (∀ text, line ≠ Text.Utf8.encode text) →
      ∃ answer, (l.answer line).value = some answer ∧
        Frames (Text.Utf8.encode answer) .direct) ∧
    ∀ lines : List (Live × List UInt8), (segments (answerStream lines)).map verdictTold? =
      (lines.filterMap fun (l, line) => l.verdictOn? line).map some := by
  have answered : ∀ (l : Live) (line : List UInt8) (v : Verdict), l.verdictOn? line = some v →
      ∃ answer, (l.answer line).value = some answer ∧ Frames (Text.Utf8.encode answer) v := by
    intro l line v asked
    refine ⟨answerLine v, ?_, frames_answerLine v⟩
    rw [l.answer_value, asked]
    rfl
  refine ⟨?_, ?_, ?_, segments_answerStream⟩
  · intro l line
    rw [l.answer_value, Option.map_eq_none_iff, verdictOn?_eq_none_iff]
  · intro l text visible
    apply answered
    simp only [verdictOn?, Text.Utf8.decode_encode]
    rw [if_neg]
    intro blank
    obtain ⟨c, mem, other⟩ := visible
    have isBlank : Text.isBlank c = true := List.all_eq_true.mp blank c mem
    exact Bool.false_ne_true (other.symm.trans isBlank)
  · intro l line noText
    apply answered
    cases decodes : Text.Utf8.decode line with
    | ok text => exact absurd ((Text.Utf8.decode_eq_ok_iff line text).mp decodes) (noText text)
    | error e => simp only [verdictOn?, decodes]

end Live

end Egress
