import Egress.CommandLine.Inspect
import Egress.CommandLine.Launch

/-!
# The programs

The outer layer of both programs: files, streams and exit codes. The first argument names the
program, `proxy-cli` for the inspection tool or `proxy-router` for the daemon, and the rest is its
command line.

The daemon works here in one thread. It looks at the payload file whenever a line has arrived, and
leaves signals to the system.
-/

namespace Egress.Main

/-- What a path leads to. What is there and cannot be read as a file counts as a directory, and a
place whose directory is missing as vacant. -/
def placeOf (path : String) : IO Place := do
  try
    return .file (← IO.FS.readBinFile path).toList
  catch
    | .noFileOrDirectory .. => return .vacant
    | _ => return .directory

def parentPath (path : String) : String :=
  let start := if path.toList.head? = some '/' then "/" else ""
  match (pathParts path).dropLast with
  | [] => if start.isEmpty then "." else start
  | parts => start ++ Directory.joined parts

def watchError? (path : String) : IO (Option WatchError) := do
  if (fileName? path).isNone then return some .noFileName
  else if (← placeOf (parentPath path)).exists then return none
  else return some .noDirectory

def log (events : List Event) : IO Unit := do
  let output ← IO.getStderr
  for e in events do
    output.putStrLn (e.level.name ++ " " ++ e.target ++ ": " ++ e.message)

def failureText : Failure → String
  | .load e => e.message
  | .settings e => e.message.getD "Settings parse error"
  | .write => "IO error"
  | .occupied path => path ++ " already exists (use --force to overwrite)"

def finish (o : Outcome) : IO UInt32 := do
  IO.print o.output
  match o.failure with
  | some f => IO.eprintln ("Error: " ++ failureText f)
  | none => if o.status ≠ 0 then IO.eprintln "Error: the command line is not understood"
  return UInt32.ofNat o.status

def inspect (args : List String) : IO UInt32 := do
  match Inspection.ofArgs args with
  | .error e => finish (.refused e)
  | .ok (level, i) =>
    let place ← placeOf i.path
    let t := i.run place
    log (t.events.filter (LogFilter.ofLevel level).passes)
    match i.writes place with
    | none => finish t.value
    | some bytes =>
      try
        IO.FS.writeBinFile i.path (ByteArray.mk bytes.toArray)
        finish t.value
      catch _ => finish (.failed .write)

/-- Takes a step of the daemon, with its log and its answer. -/
def perform (s : Settings) (d : Daemon) (step : Daemon.Step) : IO Daemon := do
  let t := d.step step
  log (s.logged t.events)
  let (d, answer) := t.value
  if let some answer := answer then
    let output ← IO.getStdout
    output.putStr answer
    output.flush
  return d

def performAll (s : Settings) (d : Daemon) (steps : List Daemon.Step) : IO Daemon :=
  steps.foldlM (perform s) d

def refresh (s : Settings) (d : Daemon) : IO Daemon := do
  if d.watching then
    let place ← placeOf s.payload.path
    if place = d.content then return d
    else performAll s d [.replace place 0, .look, .update]
  else return d

/-- Reads the bytes of a line with its end; at the end of input there may be no end of line. -/
partial def readLine (input : IO.FS.Stream) (line : ByteArray) : IO ByteArray := do
  let piece ← input.read 1
  let line := line ++ piece
  if piece.isEmpty || piece[0]? = some Lines.lineEnd then return line
  else readLine input line

/-- Serves the input up to its end. -/
partial def serve (s : Settings) (input : IO.FS.Stream) (d : Daemon) : IO Unit := do
  let line ← readLine input ByteArray.empty
  let d ← refresh s d
  if line.toList.getLast? = some Lines.lineEnd then
    serve s input (← performAll s d [.arrive line.toList, .read])
  else discard (performAll s d [.arrive line.toList, .close, .read, .read])

def runDaemon (s : Settings) : IO Unit := do
  log (s.logged s.opening.events)
  let start : Daemon.Step ←
    if s.payload.watch then (fun e => .watch e) <$> watchError? s.payload.path
    else pure .skipWatch
  let d ← performAll s { content := ← placeOf s.payload.path } [.load, start]
  serve s (← IO.getStdin) d

def daemon (args : List String) : IO UInt32 := do
  match Launch.ofArgs args with
  | .error e => finish (.refused e)
  | .ok l =>
    let place ←
      match l.settingsPath with
      | none => pure .nowhere
      | some path => placeOf path
    match l.settings (fun _ => place) with
    | .error e => finish (.failed (.settings e))
    | .ok s =>
      runDaemon s
      return 0

end Egress.Main

/-- Runs the program that the first argument names. -/
def main (args : List String) : IO UInt32 :=
  match args with
  | "proxy-cli" :: rest => Egress.Main.inspect rest
  | "proxy-router" :: rest => Egress.Main.daemon rest
  | _ => Egress.Main.finish (.refused .usage)
