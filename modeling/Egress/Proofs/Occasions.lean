import Egress.Proofs.LineService

/-!
# Occasions

What happens to the daemon from outside is a line of input, a new payload file or a hangup signal.
Which payloads the daemon tries to load because of it is said here without the daemon, and so is
which of them comes last among those that can be loaded. With a watch that is the last good content
that the file ever had, without one the last good content at a hangup; a load that fails leaves no
trace.
-/

namespace Egress

namespace Live

/-- The generation of the live snapshot has no part in an answer. -/
theorem answer_stamped {l : Live} {c : Config} {g : UInt64} (current : l.current = c.stamped g)
    (n : UInt64) (line : List UInt8) :
    (l.answer line).value = ((⟨c, n⟩ : Live).answer line).value := by
  have verdict : ∀ url, (l.current.route url).value = (c.route url).value := by
    intro url
    rw [current]
    rfl
  cases decodes : Text.Utf8.decode line with
  | error e => rw [answer_of_undecodable _ decodes, answer_of_undecodable _ decodes]
  | ok text =>
    by_cases blank : ∀ c ∈ text.toList, Text.isBlank c = true
    · rw [answer_of_blank _ decodes blank, answer_of_blank _ decodes blank]
    · rw [answer_of_text _ decodes blank, answer_of_text _ decodes blank, verdict]

end Live

def Config.answersTo (c : Config) (line? : Option (List UInt8)) : List String :=
  (line?.bind fun line => ((⟨c, 0⟩ : Live).answer line).value).toList

/-- Something that happens to the daemon from outside. -/
inductive Occasion where
  /-- A line of input comes, given without its end. -/
  | line (bytes : List UInt8) (single : Lines.lineEnd ∉ bytes)
  /-- A new file takes the place of the payload; the system tells of it once or more often. -/
  | replace (bytes : List UInt8) (more : Nat)
  | hangup

namespace Occasion

def step : Occasion → Daemon.Step
  | line bytes _ => .arrive (bytes ++ [Lines.lineEnd])
  | replace bytes more => .replace (.file bytes) more
  | hangup => .signal .hangup

def contentAfter (content : Place) : Occasion → Place
  | replace bytes _ => .file bytes
  | _ => content

/-- What a daemon tries to load because of the occasion. -/
def attempt? (content : Place) (watches : Bool) : Occasion → Option Place
  | line _ _ => none
  | replace bytes _ => if watches then some (.file bytes) else none
  | hangup => some content

def line? : Occasion → Option (List UInt8)
  | line bytes _ => some (bytes ++ [Lines.lineEnd])
  | _ => none

/-- All that was tried to be loaded, in order, when some occasions were dealt with. -/
def attempts (watches : Bool) (content : Place) : List Occasion → List Place
  | [] => []
  | o :: rest =>
    (o.attempt? content watches).toList ++ attempts watches (o.contentAfter content) rest

def replacements : List Occasion → List Place
  | [] => []
  | replace bytes _ :: rest => .file bytes :: replacements rest
  | _ :: rest => replacements rest

/-- What was at the path of the payload at the hangups, in order. -/
def atHangups (content : Place) : List Occasion → List Place
  | [] => []
  | hangup :: rest => content :: atHangups content rest
  | o :: rest => atHangups (o.contentAfter content) rest

def contentAfterAll (content : Place) (os : List Occasion) : Place :=
  os.foldl contentAfter content

def lastLoadable (places : List Place) : Option Config :=
  places.reverse.findSome? Payload.snapshot?

/-- The snapshot of the last payload that was loaded since the start. -/
def inForce (watches : Bool) (content : Place) (os : List Occasion) : Option Config :=
  lastLoadable (content :: attempts watches content os)

theorem lastLoadable_append (xs ys : List Place) :
    lastLoadable (xs ++ ys) = (lastLoadable ys).or (lastLoadable xs) := by
  simp [lastLoadable, List.findSome?_append]

theorem lastLoadable_cons (p : Place) (ps : List Place) :
    lastLoadable (p :: ps) = (lastLoadable ps).or (Payload.snapshot? p) := by
  rw [← List.singleton_append, lastLoadable_append]
  simp [lastLoadable]

theorem replacements_append (before later : List Occasion) :
    replacements (before ++ later) = replacements before ++ replacements later := by
  induction before with
  | nil => rfl
  | cons o before ih => cases o <;> simp [replacements, ih]

theorem attempts_append (watches : Bool) (content : Place) (before later : List Occasion) :
    attempts watches content (before ++ later) = attempts watches content before ++
      attempts watches (contentAfterAll content before) later := by
  induction before generalizing content with
  | nil => rfl
  | cons o before ih =>
    simp only [List.cons_append, attempts, ih, List.append_assoc]
    rfl

/-- Without a watch, only a hangup has the payload loaded again. -/
theorem attempts_unwatched (content : Place) (os : List Occasion) :
    attempts false content os = atHangups content os := by
  induction os generalizing content with
  | nil => rfl
  | cons o os ih =>
    cases o <;> simp [attempts, atHangups, attempt?, contentAfter, ih]

theorem inForce_unwatched (content : Place) (os : List Occasion) :
    inForce false content os = lastLoadable (content :: atHangups content os) := by
  rw [inForce, attempts_unwatched]

/-- With a watch, a hangup loads again what is in force already, or nothing. -/
theorem inForce_watched (content : Place) (os : List Occasion) :
    inForce true content os = lastLoadable (content :: replacements os) := by
  rw [inForce]
  induction os generalizing content with
  | nil => rfl
  | cons o os ih =>
    cases o with
    | line bytes single => exact ih content
    | replace bytes more =>
      have attempted : attempts true content (replace bytes more :: os) =
          .file bytes :: attempts true (.file bytes) os := rfl
      have contents : replacements (replace bytes more :: os) =
          .file bytes :: replacements os := rfl
      rw [attempted, contents, lastLoadable_cons, ih, ← lastLoadable_cons]
    | hangup =>
      have attempted : attempts true content (hangup :: os) =
          content :: attempts true content os := rfl
      have contents : replacements (hangup :: os) = replacements os := rfl
      rw [attempted, contents, lastLoadable_cons, ih, lastLoadable_cons, Option.or_assoc,
        Option.or_self]

theorem inForce_nil (watches : Bool) (content : Place) :
    inForce watches content [] = Payload.snapshot? content := by
  simp [inForce, attempts, lastLoadable]

theorem inForce_concat (watches : Bool) (content : Place) (os : List Occasion) (o : Occasion) :
    inForce watches content (os ++ [o]) =
      ((o.attempt? (contentAfterAll content os) watches).bind Payload.snapshot?).or
        (inForce watches content os) := by
  have last : attempts watches (contentAfterAll content os) [o] =
      (o.attempt? (contentAfterAll content os) watches).toList := List.append_nil _
  rw [inForce, attempts_append, ← List.cons_append, lastLoadable_append, last, inForce]
  cases o.attempt? (contentAfterAll content os) watches <;> simp [lastLoadable]

/-- A load that fails leaves no trace, whatever comes later. -/
theorem inForce_of_failed {watches : Bool} {content : Place} {before : List Occasion}
    {o : Occasion} {place : Place}
    (attempted : o.attempt? (contentAfterAll content before) watches = some place)
    (failed : Payload.snapshot? place = none) (later : List Occasion) :
    inForce watches content (before ++ o :: later) = inForce watches content (before ++ later) := by
  cases o with
  | line => cases attempted
  | hangup =>
    cases attempted
    have here : attempts watches (contentAfterAll content before) (hangup :: later) =
        contentAfterAll content before ::
          attempts watches (contentAfterAll content before) later := rfl
    simp only [inForce, attempts_append, here, ← List.cons_append, lastLoadable_append,
      lastLoadable_cons, failed, Option.or_none]
  | replace bytes more =>
    cases watches with
    | false => cases attempted
    | true =>
      cases attempted
      have here : replacements (replace bytes more :: later) =
          .file bytes :: replacements later := rfl
      simp only [inForce_watched, replacements_append, here, ← List.cons_append,
        lastLoadable_append, lastLoadable_cons, failed, Option.or_none]

end Occasion

end Egress
