import VideoWall.Notice
import VideoWall.Path

/-!
# The log

Which notices are shown, and where. A level is known by its name; a log file is made where it can be
made.
-/

namespace VideoWall.Command

structure LogLevel where
  name : String
  rank : Nat
deriving DecidableEq, Repr

namespace LogLevel

def all : List LogLevel :=
  [⟨"CRITICAL", 50⟩, ⟨"FATAL", 50⟩, ⟨"ERROR", 40⟩, ⟨"WARNING", 30⟩, ⟨"WARN", 30⟩, ⟨"INFO", 20⟩,
    ⟨"DEBUG", 10⟩, ⟨"NOTSET", 0⟩]

def initial : LogLevel := ⟨"WARNING", 30⟩

/-- The upper-case form of a letter that may stand in the name of a level, any other character
itself. Two letters beyond ASCII have an ASCII letter for their upper-case form. -/
def upper (c : Char) : Char :=
  if 0x61 ≤ c.toNat && c.toNat ≤ 0x7A then Char.ofNat (c.toNat - 0x20)
  else if c == 'ı' then 'I'
  else if c == 'ſ' then 'S'
  else c

/-- The level of a name in letters of any case. -/
def ofText? (s : String) : Option LogLevel :=
  let name := String.ofList (s.toList.map upper)
  all.find? (·.name == name)

def shows (l : LogLevel) (n : Notice) : Bool :=
  l.rank ≤ n.severity.rank

end LogLevel

inductive LogFault where
  | unknownLevel (text : String)
  /-- A directory stands at the path of the log file. -/
  | directory (path : String)
  /-- A path leads through a file as if it were a directory. -/
  | notDirectory (path : String)
deriving DecidableEq, Repr

def LogFault.message : LogFault → String
  | unknownLevel text => "Unsupported log level: " ++ text
  | directory path => "[Errno 21] Is a directory: " ++ Text.quoted path
  | notDirectory path => "[Errno 20] Not a directory: " ++ Text.quoted path

/-- Where notices go and which of them. -/
structure Log where
  level : LogLevel
  /-- The log file, from the root on. -/
  file : Option (List String)
deriving DecidableEq, Repr

namespace Log

def isFile (holds : List String → Option Path.Entry) (place : List String) : Bool :=
  match holds place with
  | some (.file _) => true
  | _ => false

/-- Makes sure that there can be a log file at a path that is seen from a directory. The directory that
it lies in is made first where there is none. -/
def checkFile (holds : List String → Option Path.Entry) (directory : List String) (path : String) :
    Except LogFault Unit :=
  let place := Path.toText (Path.resolve directory path)
  let passed := Path.placesBefore directory path
  if passed.dropLast.any (isFile holds) then .error (.notDirectory (Path.parent path))
  else if passed.any (isFile holds) then .error (.notDirectory place)
  else match holds (Path.resolve directory path) with
    | some .directory => .error (.directory place)
    | _ => .ok ()

/-- Opens a log of a level, with a file if a path is given, which is seen from a directory. The level
is chosen before the file is looked at, so that a fault of the file is shown at that level. -/
def start (holds : List String → Option Path.Entry) (directory : List String) (level : LogLevel)
    (path : Option String) : Logged (Except LogFault Log) := do
  match path.filter (!·.isEmpty) with
  | none =>
    Logged.say (.loggingToConsole level.name)
    return .ok ⟨level, none⟩
  | some path =>
    match checkFile holds directory path with
    | .error f => return .error f
    | .ok () =>
      Logged.say (.loggingToFile level.name (Path.normal path))
      return .ok ⟨level, some (Path.resolve directory path)⟩

end Log

end VideoWall.Command
