import Egress.Directory

/-!
# Watching the payload file

The directory of the payload is watched, not the file itself, since the file is usually replaced by
another one of its name. Every notice that a file of this name may have changed leads to a reload of
what is there by then. A removal is no such notice; a renaming is one for both names. A payload that
loads is passed on as a snapshot, one that does not is reported.
-/

namespace Egress

inductive WatchError where
  | noFileName
  | noDirectory
  deriving Repr, DecidableEq

/-- The wording of an error, as far as it is fixed. -/
def WatchError.message : WatchError → Option String
  | noFileName => some "payload path has no file name"
  | noDirectory => none

inductive Change where
  /-- A new file takes the place of a name. -/
  | replace (name : String) (bytes : List UInt8)
  | rename (source target : String)
  | remove (name : String)
  deriving Repr, DecidableEq

/-- What the system tells of a change. -/
inductive Notice where
  /-- Files of these names were made, changed or renamed. -/
  | touched (names : List String)
  | removed (name : String)
  deriving Repr, DecidableEq

namespace Directory

/-- The directory after a change. What concerns a file that is not there changes nothing, and so
does renaming a file to its own name. -/
def apply (d : Directory) : Change → Directory
  | .replace name bytes => d.put name bytes
  | .rename source target =>
    match d.content? source with
    | none => d
    | some bytes => if source = target then d else (d.erase source).put target bytes
  | .remove name => d.erase name

def notices (d : Directory) : Change → List Notice
  | .replace name _ => [.touched [name]]
  | .rename source target =>
    if (d.content? source).isNone ∨ source = target then []
    else [.touched [source], .touched [target], .touched [source, target]]
  | .remove name => if (d.content? name).isNone then [] else [.removed name]

end Directory

/-- Whether a notice may mean that the content behind a name has changed. -/
def Notice.concerns (n : Notice) (name : String) : Bool :=
  match n with
  | touched names => names.contains name
  | removed _ => false

structure Watcher where
  path : String
  name : String
  deriving Repr, DecidableEq

namespace Watcher

/-- Starts to watch, if the path has a file name and its directory is there. -/
def start (d : Directory) (path : String) : Except WatchError (Traced Watcher) :=
  match fileName? path with
  | none => .error .noFileName
  | some name =>
    if d.hasParent path then
      .ok do
        Traced.report .watching
        return ⟨path, name⟩
    else .error .noDirectory

/-- Reloads what is at a place, and counts the reload. -/
def reload (place : Place) : Traced (Option Config) := do
  Traced.report .changeDetected
  match Payload.load place with
  | .ok load =>
    let config ← load
    Traced.record (.reload true)
    return some config
  | .error _ =>
    Traced.record (.reload false)
    Traced.report .changeRejected
    return none

def observe (w : Watcher) (d : Directory) (n : Notice) : Traced (Option Config) :=
  if n.concerns w.name then reload (d.place w.path) else pure none

/-- What the watcher passes on after notices that are all handled when the directory has come to
rest, in order. -/
def observeAll (w : Watcher) (d : Directory) : List Notice → Traced (List Config)
  | [] => pure []
  | n :: rest => do
    let config ← w.observe d n
    let configs ← w.observeAll d rest
    return config.toList ++ configs

/-- The directory after a change, and what the watcher passes on because of what it is told of
it. -/
def followTold (w : Watcher) (d : Directory) (c : Change) (ns : List Notice) :
    Traced (Directory × List Config) :=
  (fun configs => (d.apply c, configs)) <$> w.observeAll (d.apply c) ns

/-- The same for the notices that the system is known to give. -/
def follow (w : Watcher) (d : Directory) (c : Change) : Traced (Directory × List Config) :=
  w.followTold d c (d.notices c)

end Watcher

end Egress
