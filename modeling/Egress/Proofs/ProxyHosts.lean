import Egress.Proofs.CanonicalTexts
import Egress.Proofs.Snapshots

/-!
# The hosts of endpoints

The host of every endpoint in a snapshot is the normal form of a text or a number that its payload
gives: in lower case, and without a blank in front. At its end a blank is left by exactly those
texts that, trimmed, end in a blank and a dot, for blanks are taken off before the dot and not after
it. The canonical form of a rule, which is trimmed once more, has no blank there.
-/

namespace Egress

namespace Text

/-- After trimming, the text ends in a blank and a dot. -/
def EndsInBlankDot (text : String) : Prop :=
  ∃ front blank, trimChars text.toList = front ++ [blank, '.'] ∧ isBlank blank = true

theorem toList_normalName (text : String) :
    (normalName text).toList = lowercaseChars (withoutDot (trimChars text.toList)) :=
  String.toList_ofList

theorem lowercase_normalName (text : String) : lowercase (normalName text) = normalName text := by
  rw [lowercase, toList_normalName, lowercaseChars_lowercaseChars]
  rfl

theorem head?_normalName_iff (text : String) {c : Char} (caseless : IsCaseless c) :
    (normalName text).toList.head? = some c ↔
      (withoutDot (trimChars text.toList)).head? = some c := by
  rw [toList_normalName]
  exact head?_lowercaseAfter_eq_some_iff caseless

theorem getLast?_normalName_iff (text : String) {c : Char} (caseless : IsCaseless c) :
    (normalName text).toList.getLast? = some c ↔
      (withoutDot (trimChars text.toList)).getLast? = some c := by
  have ends : ∀ cs : List Char, cs.getLast? = some c ↔ [c] <:+ cs := by
    intro cs
    rw [List.getLast?_eq_some_iff]
    exact exists_congr fun front => eq_comm
  rw [toList_normalName, ends, ends]
  exact suffix_lowercaseAfter_iff (by simpa using caseless)

/-- A normal name begins with no blank, as the dot that is taken off is the last character. -/
theorem not_isBlank_head?_normalName {text : String} {c : Char}
    (first : (normalName text).toList.head? = some c) : isBlank c = false := by
  by_contra blank
  rw [Bool.not_eq_false] at blank
  rw [head?_normalName_iff text (isCaseless_of_isBlank blank)] at first
  rw [not_isBlank_head?_trimChars (head?_of_withoutDot first)] at blank
  cases blank

/-- A normal name ends in a blank exactly if the dot that is taken off has one before it. -/
theorem exists_getLast?_normalName_iff (text : String) :
    (∃ c, (normalName text).toList.getLast? = some c ∧ isBlank c = true) ↔ EndsInBlankDot text := by
  constructor
  · rintro ⟨c, last, blank⟩
    rw [getLast?_normalName_iff text (isCaseless_of_isBlank blank)] at last
    rcases withoutDot_cases (trimChars text.toList) with dotted | ⟨same, _⟩
    · obtain ⟨front, inner⟩ := List.getLast?_eq_some_iff.mp last
      refine ⟨front, c, ?_, blank⟩
      rw [dotted, inner, List.append_assoc]
      rfl
    · rw [same] at last
      rw [not_isBlank_getLast?_trimChars last] at blank
      cases blank
  · rintro ⟨front, c, trimmed, blank⟩
    refine ⟨c, ?_, blank⟩
    have split : front ++ [c, '.'] = (front ++ [c]) ++ ['.'] := by
      rw [List.append_assoc]
      rfl
    rw [getLast?_normalName_iff text (isCaseless_of_isBlank blank), trimmed, split,
      withoutDot_concat, List.getLast?_concat]

end Text

theorem Endpoint.host_of_ofParts? {host : String} {port : UInt16} {e : Endpoint}
    (made : Endpoint.ofParts? host port = some e) : e.host = host := by
  unfold Endpoint.ofParts? at made
  split at made
  · cases made
  · rw [← Option.some.inj made]

namespace Payload

open Json (lookup)

def hostText? : Json → Option String
  | .string s => some s
  | .number n => some n.text
  | _ => none

/-- The value that a payload gives for the host of its endpoint for `http`: that of the nested
object if this counts, or else that of the first flat field. -/
def httpHost? : Json → Option Json
  | .object fields =>
    (activeRules? fields).elim (firstPresent? fields httpHostKeys) fun rules =>
      ((lookup "singleProxy" rules).bind Json.members?).bind (lookup "host")
  | _ => none

def httpsHost? : Json → Option Json
  | .object fields => firstPresent? fields httpsHostKeys
  | _ => none

/-- What a host has in common with the text it was read from. -/
structure IsHostOf (text host : String) : Prop where
  eq_normalName : host = Text.normalName text
  lower : Text.lowercase host = host
  first : ∀ c, host.toList.head? = some c → Text.isBlank c = false
  last_iff : (∃ c, host.toList.getLast? = some c ∧ Text.isBlank c = true) ↔
    Text.EndsInBlankDot text

theorem isHostOf_normalName (text : String) : IsHostOf text (Text.normalName text) where
  eq_normalName := rfl
  lower := Text.lowercase_normalName text
  first := fun _ => Text.not_isBlank_head?_normalName
  last_iff := Text.exists_getLast?_normalName_iff text

/-- A value that is no text and no number gives no host. -/
theorem exists_text_of_readHost {field : String} {given : Option Json}
    (nonempty : (readHost field given).value ≠ "") :
    ∃ text, given.bind hostText? = some text ∧
      (readHost field given).value = Text.normalName text := by
  cases given with
  | none => exact absurd rfl nonempty
  | some v =>
    cases v with
    | string s => exact ⟨s, rfl, rfl⟩
    | number n => exact ⟨n.text, rfl, rfl⟩
    | null | bool | array | object => exact absurd rfl nonempty

theorem isHostOf_readEndpoint {hostField portField : String} {host port : Option Json}
    {e : Endpoint} (made : (readEndpoint hostField portField host port).value = some e) :
    ∃ text, host.bind hostText? = some text ∧ IsHostOf text e.host := by
  have usable := isUsable_readEndpoint made
  have same : e.host = (readHost hostField host).value := Endpoint.host_of_ofParts? made
  obtain ⟨text, given, normal⟩ := exists_text_of_readHost (same ▸ usable.host_ne_empty)
  refine ⟨text, given, ?_⟩
  rw [same, normal]
  exact isHostOf_normalName text

theorem isHostOf_readSingleProxy {rules : Fields} {e : Endpoint}
    (made : (readSingleProxy rules).value = some e) :
    ∃ text,
      (((lookup "singleProxy" rules).bind Json.members?).bind (lookup "host")).bind hostText? =
        some text ∧ IsHostOf text e.host := by
  unfold readSingleProxy at made
  cases single : (lookup "singleProxy" rules).bind Json.members? with
  | none =>
    rw [single] at made
    cases made
  | some proxy =>
    rw [single] at made
    exact isHostOf_readEndpoint made

theorem isHostOf_http {fields : Fields} {shared : Bool} {e : Endpoint}
    (made : (readEndpoints fields shared).value.http = some e) :
    ∃ text, (httpHost? (.object fields)).bind hostText? = some text ∧ IsHostOf text e.host := by
  unfold readEndpoints at made
  rw [httpHost?]
  cases active : activeRules? fields with
  | some rules =>
    rw [active] at made
    exact isHostOf_readSingleProxy made
  | none =>
    rw [active] at made
    exact isHostOf_readEndpoint made

theorem isHostOf_https {fields : Fields} {shared : Bool} {e : Endpoint}
    (made : (readEndpoints fields shared).value.https = some e) :
    ∃ text, (httpsHost? (.object fields)).bind hostText? = some text ∧ IsHostOf text e.host := by
  unfold readEndpoints at made
  cases active : activeRules? fields with
  | some rules =>
    rw [active] at made
    cases made
  | none =>
    rw [active] at made
    cases shared with
    | true => cases made
    | false => exact isHostOf_readEndpoint made

/-- The host of every endpoint of every payload is the normal form of the text that is given for it.
It is in lower case, begins with no blank, and ends with one exactly if that text, trimmed, ends in
a blank and a dot. -/
theorem endpoint_hosts_normal (payload : Json) :
    (∀ e, (hydrate payload).value.http = some e →
      ∃ text, (httpHost? payload).bind hostText? = some text ∧ IsHostOf text e.host) ∧
    (∀ e, (hydrate payload).value.https = some e →
      ∃ text, (httpsHost? payload).bind hostText? = some text ∧ IsHostOf text e.host) := by
  cases payload with
  | object fields => exact ⟨fun _ made => isHostOf_http made, fun _ made => isHostOf_https made⟩
  | null | bool | number | string | array =>
    constructor
    · intro e made
      cases made
    · intro e made
      cases made

/-- A blank before the dot stays at the end of a host. -/
theorem endpoint_host_ends_in_blank :
    (hydrate
      (.object [("httpPort", Json.ofNat 8080), ("httpProxy", .string "proxy .")])).value.http =
        some ⟨"proxy ", 8080⟩ ∧
      "proxy ".toList.getLast? = some ' ' ∧ Text.isBlank ' ' = true := by
  decide +kernel

end Payload

end Egress
