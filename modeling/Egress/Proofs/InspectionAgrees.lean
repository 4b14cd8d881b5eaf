import Egress.CommandLine.Inspect
import Egress.CommandLine.Launch
import Egress.Proofs.AnswerLines
import Egress.Proofs.Convergence
import Egress.Proofs.SpacedUrls

/-!
# The tool prints what the daemon answers

As long as nobody changes the payload, the daemon answers every line from the snapshot that the
payload gives: whatever is reloaded meanwhile is that snapshot again. The tool prints the verdicts
of the same snapshot. So the two agree on a URL, up to one difference: the daemon takes the blanks
around a line off, and the tool leaves its argument as it is. They agree if these blanks have no
part in the URL, which is so for all blanks of ASCII, and after the blanks have been taken off in
any case.
-/

namespace Egress

open Lines (lineEnd segments)

/-! ## A payload that stays as it is -/

namespace Daemon

section

variable {place : Place} {c : Config}

theorem steady_history (loaded : Payload.snapshot? place = some c) {steps : List Step}
    (unchanged : ∀ s ∈ steps, s.isChange = false) : Steady place c (history place steps).1 := by
  have start : Steady place c { content := place } := by
    refine ⟨rfl, ?_, Or.inl rfl⟩
    intro u mem
    cases mem
  exact start.run loaded unchanged

/-- A daemon that has not loaded its payload does not read. -/
theorem dealtWith_of_fresh {content : Place} {before : List Step}
    (fresh : (history content before).1.stage = .fresh) :
    dealtWith content (before ++ [.read]) = dealtWith content before := by
  have idle : ((history content before).1.step .read).value.1 = (history content before).1 := by
    simp only [step, fresh]
    rfl
  rw [dealtWith, dealtWith, input_concat_apart rfl, history_concat, idle]

/-- What was dealt with was answered from the snapshot of the payload, whatever happened
meanwhile. -/
theorem history_unchanged (loaded : Payload.snapshot? place = some c) {steps : List Step}
    (unchanged : ∀ s ∈ steps, s.isChange = false) :
    (history place steps).2 =
      (segments (dealtWith place steps)).filterMap fun line =>
        ((⟨c, 0⟩ : Live).answer line).value := by
  obtain ⟨served, accounts⟩ := exists_accounts place steps
  rw [accounts.answers, ← accounts.covered, List.filterMap_map]
  refine List.filterMap_congr fun a mem => ?_
  obtain ⟨i, found⟩ := List.mem_iff_getElem?.mp mem
  obtain ⟨inside, count, count'⟩ := accounts.moments i a.1 a.2 found
  have begun : (history place a.1).1.stage ≠ .fresh := by
    intro fresh
    rw [dealtWith_of_fresh fresh] at count'
    omega
  have early : a.1 <+: steps := (List.prefix_append _ _).trans inside
  have steady : Steady place c (history place a.1).1 :=
    steady_history loaded fun s mem => unchanged s (early.subset mem)
  obtain ⟨g, current⟩ := steady.holds begun
  exact Live.answer_stamped current 0 a.2

end

/-! ## An input that is there at once -/

/-- Reads for all line ends and one more leave nothing, once the input has ended. -/
theorem rest_run_reads {d : Daemon} (serving : d.stage = .serving)
    (finished : d.lines.hasEnded = true) {n : Nat} (enough : d.lines.waiting.count lineEnd < n) :
    (d.run (List.replicate n .read)).value.1.lines.rest = [] := by
  induction n generalizing d with
  | zero => omega
  | succ n ih =>
    have reading := d.lines.reading
    generalize result : d.lines.read = outcome at reading
    obtain ⟨lines, taken⟩ := outcome
    cases reading with
    | pending goesOn =>
      rw [finished] at goesOn
      cases goesOn
    | ended =>
      rw [List.replicate_succ, run_read_over serving result]
      apply exhausted_run
      · exact finished
      · rfl
    | line front back clean split =>
      have fewer : back.count lineEnd < n := by
        rw [split, List.count_append, List.count_cons_self,
          List.count_eq_zero_of_not_mem clean] at enough
        omega
      rw [List.replicate_succ, run_read_over serving result, if_neg (by omega)]
      exact ih serving finished fewer

/-- A daemon that has been started and given its whole input. -/
theorem history_fed (content : Place) {begin : Step}
    (begins : begin = .skipWatch ∨ ∃ result, begin = .watch result) (bytes : List UInt8) :
    (history content [.load, begin, .arrive bytes, .close]).1.stage = .serving ∧
      (history content [.load, begin, .arrive bytes, .close]).1.lines = ⟨bytes, true, [], 0⟩ := by
  rw [history, run_cons_value, step_load_value]
  rcases begins with rfl | ⟨result, rfl⟩
  · exact ⟨rfl, rfl⟩
  · cases result <;> exact ⟨rfl, rfl⟩

end Daemon

namespace Settings

open Daemon

theorem watchStep_begins (s : Settings) (d : Directory) :
    s.watchStep d = .skipWatch ∨ ∃ result, s.watchStep d = .watch result := by
  unfold watchStep
  split
  · split
    · exact Or.inr ⟨_, rfl⟩
    · exact Or.inr ⟨_, rfl⟩
  · exact Or.inl rfl

theorem answers_value (s : Settings) (d : Directory) (bytes : List UInt8) :
    (s.answers d bytes).value = (history (d.place s.payload.path) (s.steps d bytes)).2 := rfl

theorem steps_unchanged (s : Settings) (d : Directory) (bytes : List UInt8) :
    ∀ step ∈ s.steps d bytes, step.isChange = false := by
  intro step mem
  rcases List.mem_append.mp mem with start | read
  · simp only [List.mem_cons, List.not_mem_nil, or_false] at start
    rcases start with rfl | rfl | rfl | rfl
    · rfl
    · rcases s.watchStep_begins d with skip | ⟨result, watch⟩
      · rw [skip]
        rfl
      · rw [watch]
        rfl
    · rfl
    · rfl
  · rw [List.eq_of_mem_replicate read]
    rfl

/-- A daemon that is left alone deals with its whole input. -/
theorem dealtWith_steps (s : Settings) (d : Directory) (bytes : List UInt8) :
    dealtWith (d.place s.payload.path) (s.steps d bytes) = bytes := by
  have begins := s.watchStep_begins d
  obtain ⟨serving, lines⟩ := history_fed (d.place s.payload.path) begins bytes
  have given : input [.load, s.watchStep d, .arrive bytes, .close] = bytes := by
    have apart : (s.watchStep d).feeds = false := by
      rcases begins with skip | ⟨result, watch⟩
      · rw [skip]
        rfl
      · rw [watch]
        rfl
    rw [input_cons_apart rfl, input_cons_apart apart]
    exact List.append_nil bytes
  have nothing : (history (d.place s.payload.path) (s.steps d bytes)).1.lines.rest = [] := by
    rw [Settings.steps, history, run_append_value, ← history]
    apply rest_run_reads serving
    · rw [lines]
    · rw [lines]
      exact Nat.lt_add_of_pos_right Nat.zero_lt_two
  rw [dealtWith_of_exhausted nothing, Settings.steps, input_reads, given]

end Settings

/-! ## Lines that are URLs -/

def Lines.ofTexts (texts : List String) : List UInt8 :=
  texts.flatMap fun text => Text.Utf8.encode (text ++ "\n")

/-- A text that can be one line of input and is not blank. -/
structure Text.FillsLine (text : String) : Prop where
  single : '\n' ∉ text.toList
  visible : ∃ c ∈ text.toList, isBlank c = false

theorem Lines.segments_ofTexts {texts : List String}
    (single : ∀ text ∈ texts, '\n' ∉ text.toList) :
    segments (Lines.ofTexts texts) = texts.map fun text => Text.Utf8.encode (text ++ "\n") := by
  induction texts with
  | nil => rfl
  | cons text texts ih =>
    have clean : lineEnd ∉ Text.Utf8.encode text := by
      intro mem
      exact single text (by simp) ((Text.Utf8.ten_mem_encode_iff text).mp mem)
    have line : Text.Utf8.encode (text ++ "\n") = Text.Utf8.encode text ++ [lineEnd] := by
      rw [Text.Utf8.encode_append]
      rfl
    have later := ih fun text' mem => single text' (by simp [mem])
    rw [ofTexts, List.flatMap_cons, ← ofTexts, List.map_cons, line,
      segments_append (Or.inr ⟨_, rfl⟩), segments_line clean, later]
    rfl

theorem Live.answer_fillsLine (l : Live) {text : String} (fills : Text.FillsLine text) :
    (l.answer (Text.Utf8.encode (text ++ "\n"))).value =
      some (answerLine (l.current.route (Text.trim text)).value) := by
  rw [l.answer_of_text (Text.Utf8.decode_encode _), Text.trim_line]
  intro blank
  obtain ⟨c, mem, visible⟩ := fills.visible
  have gone : Text.isBlank c = true := blank c (by simp [mem])
  rw [visible] at gone
  cases gone

def Config.answersOn (c : Config) (texts : List String) : List String :=
  texts.map fun text => Live.answerLine (c.route (Text.trim text)).value

theorem Daemon.history_ofTexts {place : Place} {c : Config}
    (loaded : Payload.snapshot? place = some c) {texts : List String}
    (fill : ∀ text ∈ texts, Text.FillsLine text) {steps : List Step}
    (unchanged : ∀ s ∈ steps, s.isChange = false)
    (whole : dealtWith place steps = Lines.ofTexts texts) :
    (history place steps).2 = c.answersOn texts := by
  rw [history_unchanged loaded unchanged, whole,
    Lines.segments_ofTexts fun text mem => (fill text mem).single, List.filterMap_map,
    Config.answersOn, ← List.filterMap_eq_map]
  exact List.filterMap_congr fun text mem => Live.answer_fillsLine _ (fill text mem)

/-! ## The tool -/

namespace Inspection

/-- What the tool prints for a URL, given the line with which the URL is answered. -/
def reported (url answer : String) : String :=
  url ++ "\t" ++ answer

theorem routeLine_eq (url : String) (v : Verdict) :
    routeLine url v = reported url (Live.answerLine v) :=
  String.append_assoc

theorem routeLines_value (c : Config) (urls : List String) :
    (routeLines c urls).value =
      String.join (urls.map fun url => routeLine url (c.route url).value) := by
  induction urls with
  | nil => rfl
  | cons url urls ih =>
    rw [List.map_cons, String.join_cons, ← ih]
    rfl

theorem run_route_value {place : Place} {c : Config} (loaded : Payload.snapshot? place = some c)
    (path : String) (urls : List String) :
    (run (.route path urls) place).value = .printed (routeLines c urls).value := by
  rw [Payload.snapshot?] at loaded
  show (withPayload place fun c => routeLines c urls).value = _
  cases load : Payload.load place with
  | error e =>
    rw [load] at loaded
    cases loaded
  | ok config =>
    rw [load] at loaded
    obtain rfl : config.value = c := Option.some.inj loaded
    simp only [withPayload, load]
    rfl

/-- On URLs that are read without the blanks around them the tool prints the answers to their
lines. -/
theorem run_route_ignored {place : Place} {c : Config}
    (loaded : Payload.snapshot? place = some c) {urls : List String}
    (ignored : ∀ url ∈ urls, Url.IgnoresBlanks url) (path : String) :
    (run (.route path urls) place).value =
      .printed (String.join (List.zipWith reported urls (c.answersOn urls))) := by
  have same : ∀ url ∈ urls, routeLine url (c.route url).value =
      reported url (Live.answerLine (c.route (Text.trim url)).value) := by
    intro url mem
    rw [routeLine_eq, c.route_trim (ignored url mem)]
  rw [run_route_value loaded, routeLines_value, List.map_congr_left same, Config.answersOn,
    List.zipWith_map_right, List.zipWith_self]

theorem answersOn_trim (c : Config) (urls : List String) :
    c.answersOn (urls.map Text.trim) = c.answersOn urls := by
  rw [Config.answersOn, Config.answersOn, List.map_map]
  refine List.map_congr_left fun url _ => ?_
  rw [Function.comp_apply, Text.trim_trim]

/-- For a payload that can be loaded and any URLs, each of which can be a line of input: whatever
the daemon and those around it do, as long as nobody changes the payload, and however the lines
arrive, its answers to them are what the tool prints behind the URLs, provided that the blanks
around them have no part in these. That is so for all blanks of ASCII, and with the blanks taken off
the tool prints the answers in any case. A daemon that is launched on the payload with this input
prints just the answers. -/
theorem route_agrees_with_daemon {place : Place} {c : Config}
    (loaded : Payload.snapshot? place = some c) {urls : List String}
    (fill : ∀ url ∈ urls, Text.FillsLine url) :
    (∀ steps : List Daemon.Step, (∀ s ∈ steps, s.isChange = false) →
      Daemon.dealtWith place steps = Lines.ofTexts urls →
        (Daemon.history place steps).2 = c.answersOn urls) ∧
    (∀ (s : Settings) (d : Directory), d.place s.payload.path = place →
      (s.run d (Lines.ofTexts urls)).outcome = .printed (String.join (c.answersOn urls))) ∧
    ((∀ url ∈ urls, Url.IgnoresBlanks url) → ∀ path,
      (run (.route path urls) place).value =
        .printed (String.join (List.zipWith reported urls (c.answersOn urls)))) ∧
    (∀ url : String, Text.HasPlainEnds url.toList → Url.IgnoresBlanks url) ∧
    ∀ path, (run (.route path (urls.map Text.trim)) place).value =
      .printed (String.join (List.zipWith reported (urls.map Text.trim) (c.answersOn urls))) := by
  refine ⟨?_, ?_, ?_, ?_, ?_⟩
  · intro steps unchanged whole
    exact Daemon.history_ofTexts loaded fill unchanged whole
  · rintro s d rfl
    have answers := Daemon.history_ofTexts loaded fill (s.steps_unchanged d _)
      (s.dealtWith_steps d (Lines.ofTexts urls))
    rw [← answers, ← s.answers_value]
    rfl
  · intro ignored path
    exact run_route_ignored loaded ignored path
  · intro url plain
    exact Url.ignoresBlanks_of_plain plain
  · intro path
    have ignored : ∀ url ∈ urls.map Text.trim, Url.IgnoresBlanks url := by
      intro url mem
      obtain ⟨text, _, rfl⟩ := List.mem_map.mp mem
      exact Url.ignoresBlanks_trim text
    rw [run_route_ignored loaded ignored path, answersOn_trim]

def proxiedPlace : Place :=
  .file (Payload.fileBytes Daemon.proxiedPayload)

theorem snapshot?_proxiedPlace : Payload.snapshot? proxiedPlace =
    some (Payload.hydrate Daemon.proxiedPayload).value := by
  decide +kernel

/-- A URL with a tab in front and a space behind, asked after a reload that a signal has asked
for. -/
theorem route_agrees_with_daemon_spaced :
    Payload.snapshot? proxiedPlace = some (Payload.hydrate Daemon.proxiedPayload).value ∧
      Text.FillsLine "\thttp://a.example/ " ∧
      Text.HasPlainEnds "\thttp://a.example/ ".toList ∧
      (Daemon.history proxiedPlace
        [.load, .watch none, .signal .hangup, .arrive (Lines.ofTexts ["\thttp://a.example/ "]),
          .handle .hangup, .reload, .read]).2 =
        [Live.answerLine (.proxy [⟨"proxy.example", 8080⟩])] ∧
      (Settings.run {}
        ⟨[("proxy-payload.json", Payload.fileBytes Daemon.proxiedPayload)]⟩
        (Lines.ofTexts ["\thttp://a.example/ "])).outcome =
        .printed (Live.answerLine (.proxy [⟨"proxy.example", 8080⟩])) ∧
      (run (.route "p.json" ["\thttp://a.example/ "]) proxiedPlace).value =
        .printed (reported "\thttp://a.example/ "
          (Live.answerLine (.proxy [⟨"proxy.example", 8080⟩]))) := by
  have fills : Text.FillsLine "\thttp://a.example/ " := ⟨by decide, 'h', by decide, rfl⟩
  have plain : Text.HasPlainEnds "\thttp://a.example/ ".toList := by decide +kernel
  have answers : (Payload.hydrate Daemon.proxiedPayload).value.answersOn ["\thttp://a.example/ "] =
      [Live.answerLine (.proxy [⟨"proxy.example", 8080⟩])] := by
    decide +kernel
  have agrees := @route_agrees_with_daemon _ _ snapshot?_proxiedPlace ["\thttp://a.example/ "]
    (by simpa using fills)
  rw [answers] at agrees
  obtain ⟨daemon, launched, tool, ignored, _⟩ := agrees
  refine ⟨snapshot?_proxiedPlace, fills, plain, ?_, ?_, ?_⟩
  · exact daemon _ (by decide) (by decide +kernel)
  · exact launched {} _ (by decide +kernel)
  · exact tool (by simpa using ignored _ plain) "p.json"

/-- With a wide space in front, the tool finds no URL in what the daemon proxies. -/
theorem route_unlike_daemon_wide :
    Payload.snapshot? proxiedPlace = some (Payload.hydrate Daemon.proxiedPayload).value ∧
      Text.FillsLine "\u3000http://a.example/" ∧
      (run (.route "p.json" ["\u3000http://a.example/"]) proxiedPlace).value =
        .printed (routeLine "\u3000http://a.example/" .direct) ∧
      (Daemon.history proxiedPlace
        [.load, .skipWatch, .arrive (Lines.ofTexts ["\u3000http://a.example/"]), .read]).2 =
        [Live.answerLine (.proxy [⟨"proxy.example", 8080⟩])] ∧
      Verdict.direct.json.compact ≠ (Verdict.proxy [⟨"proxy.example", 8080⟩]).json.compact := by
  have printed : (routeLines (Payload.hydrate Daemon.proxiedPayload).value
      ["\u3000http://a.example/"]).value = routeLine "\u3000http://a.example/" .direct := by
    decide +kernel
  refine ⟨snapshot?_proxiedPlace, ⟨by decide, 'h', by decide, rfl⟩, ?_, ?_, ?_⟩
  · rw [run_route_value snapshot?_proxiedPlace, printed]
  · decide +kernel
  · decide +kernel

end Inspection

end Egress
