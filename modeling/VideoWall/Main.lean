import Std.Time.DateTime.Timestamp
import VideoWall.Command.Run
import VideoWall.Url.Query

/-!
# The program

The outer layer: it looks at files, shows notices, writes the wall and waits. Feeds are read from the
directory `pages`, where each stands in a file under its escaped address; a feed without a file cannot
be reached.
-/

namespace VideoWall.Main

def unixStart : Int := 719162 * 86400000000

def now : IO Stamp := do
  let time ← Std.Time.Timestamp.now
  return (Stamp.ofInstant? (unixStart + time.toNanosecondsSinceUnixEpoch.val / 1000)).getD default

def lookUp (place : List String) : IO (Option Path.Entry) := do
  let path := (← IO.currentDir) / Path.toText place
  if ← path.isDir then return some .directory
  else if ← path.pathExists then return some (.file (← IO.FS.readBinFile path).toList)
  else return none

/-- What stands at some places and in the directories that they lie in. -/
def survey (places : List (List String)) : IO (List (List String × Path.Entry)) := do
  let all := places.flatMap fun p => (List.range (p.length + 1)).map p.take
  all.eraseDups.filterMapM fun p => return (← lookUp p).map (p, ·)

/-- The answers that the directory `pages` gives. -/
def session : IO Session := do
  let pages := (← IO.currentDir) / "pages"
  if !(← pages.isDir) then return fun url => .failure (.unreachable url)
  let table ← (← pages.readDir).toList.mapM fun e => do
    return (e.fileName, (← IO.FS.readBinFile e.path).toList)
  return fun url =>
    match table.lookup (String.ofList (Url.escape url.toList)) with
    | some bytes => .page 200 "" (.bytes bytes)
    | none => .failure (.unreachable url)

def report (file : Option IO.FS.Handle) (notices : List Notice) : IO Unit := do
  for n in notices do
    let line := (← now).isoText ++ " " ++ n.severity.word ++ " " ++ n.topic.word ++ ": " ++ n.text
    IO.eprintln line
    if let some handle := file then handle.putStrLn line

def finish (e : Command.Ending) : IO UInt32 := do
  if let some message := e.usageMessage? then IO.eprintln ("error: " ++ message)
  return UInt32.ofNat (e.code?.getD 1)

def openLog (log : Command.Log) : IO (Option IO.FS.Handle) := do
  match log.file with
  | none => return none
  | some place =>
    let path := (← IO.currentDir) / Path.toText place
    if let some directory := path.parent then IO.FS.createDirAll directory
    return some (← IO.FS.Handle.mk path .append)

def takeTurns (p : Command.Plan) (file : Option IO.FS.Handle) : IO UInt32 := do
  let mut state := Widget.State.initial
  repeat
    let present ← now
    let done := Command.turn present p state (Command.updateOf present (← session) p state)
    report file (Command.shownAt p.log.level done)
    match done.value with
    | .ends e => return (← finish e)
    | .last output =>
      IO.print output
      return 0
    | .next output next =>
      IO.print output
      IO.sleep (UInt32.ofNat (next.refresh / 1000).toNat)
      state := next
  return 0

def surroundings (directory : List String) (places : List (List String)) :
    IO Command.Surroundings := do
  let table ← survey places
  let unreachable : Session := fun url => .failure (.unreachable url)
  return ⟨directory, (List.lookup · table), fun _ => unreachable, fun _ => default⟩

def runWith (o : Command.Options) : IO UInt32 := do
  let directory := Path.segments (← IO.currentDir).toString
  let settingsPlace := Path.resolve directory o.config
  let around ← surroundings directory [settingsPlace]
  let settings := (Settings.load around.holds directory o.config).value
  let logPath := match settings with
    | .ok s => Command.logPath o s
    | .error _ => none
  let places := settingsPlace :: logPath.toList.map (Path.resolve directory)
  let started := Command.start (← surroundings directory places) o
  match started.plan with
  | .error e =>
    report none started.shown
    finish e
  | .ok p =>
    let file ← openLog p.log
    report file started.shown
    takeTurns p file

def run (words : List String) : IO UInt32 := do
  match Command.Options.read words with
  | .error .help =>
    IO.print Command.Options.help
    return 0
  | .error (.fault f) => finish (.usage f.message)
  | .ok o => runWith o

end VideoWall.Main

/-- The program; with `VIDEO_WALL_DEBUG` in the environment it logs everything unless the command line
names a log level. -/
def main (arguments : List String) : IO UInt32 := do
  let isFull := (← IO.getEnv "VIDEO_WALL_DEBUG").isSome
  VideoWall.Main.run (if isFull then VideoWall.Command.Options.withFullLog arguments else arguments)
