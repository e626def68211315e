import VideoWall.Notice
import VideoWall.Number.Literal
import VideoWall.Path
import VideoWall.Settings.Basic
import VideoWall.Text.Blank
import VideoWall.Xml.Tree

/-!
# Reading settings

Settings are read from the elements below the root of an XML document. An element that is missing or
blank leaves its setting unset; blanks around a text do not count, but for the log level and the log
file, which are taken as they stand.
-/

namespace VideoWall.Settings

inductive Fault where
  | missing (path : String)
  | directory (path : String)
  | notXml (at_ : Xml.Located)
  | encodingName (fault : Xml.Encoding.NameFault)
  | notInteger (tag text : String)
  | notNumber (text : String)
deriving DecidableEq, Repr

namespace Fault

def encodingText : Xml.Encoding.NameFault → String
  | .unknown name => "unknown encoding: " ++ name
  | .notText name =>
    Text.quoted name ++ " is not a text encoding; use codecs.decode() to handle arbitrary codecs"
  | .multiByte => "multi-byte encodings are not supported"
  | .strict name =>
    "decoding with '" ++ name ++ "' codec failed (UnicodeError: Unsupported error handling replace)"
  | .refusing name => "decoding with '" ++ name ++ "' codec failed (UnicodeError: undefined encoding)"
  | .asciiOnly => "'ascii' codec can't decode byte 0x80 in position 82: ordinal not in range(128)"
  | .foreign => Xml.Fault.unknownEncoding.message
  | .conflicting => Xml.Fault.incorrectEncoding.message

def locatedText (l : Xml.Located) : String :=
  l.fault.message ++ ": line " ++ Text.ofNat l.position.line ++ ", column " ++
    Text.ofNat l.position.column

def message : Fault → String
  | missing path => "Config file not found: " ++ path
  | directory path => "[Errno 21] Is a directory: " ++ Text.quoted path
  | notXml l => "Config file is not valid XML: " ++ locatedText l
  | encodingName fault => encodingText fault
  | notInteger tag text => "<" ++ tag ++ "> must be an integer, got " ++ Text.quoted text
  | notNumber text => "<timeout> must be a number, got " ++ Text.quoted text

def ofRead : Xml.ReadFault → Fault
  | .notWellFormed l => notXml l
  | .encodingName fault => encodingName fault

end Fault

/-! ## 1. Elements -/

/-- The text of an element without blanks at its ends; empty if the element is missing. -/
def trimmedText (root : Xml.Element) (tag : String) : String :=
  Text.trim ((root.findText? tag).getD "")

/-- The entries of a list: the texts of its children that are not blank. -/
def listOf (root : Xml.Element) (tag : String) : List String :=
  match root.find? tag with
  | none => []
  | some node =>
    (node.children.filterMap fun c => c.text.map Text.trim).filter fun s => !s.isEmpty

/-- The integer in an element, or a default where it is missing or blank. -/
def integerOf (root : Xml.Element) (tag : String) (default : Int) : Except Fault Int :=
  let text := trimmedText root tag
  if text.isEmpty then .ok default
  else match Number.integer? text with
    | some n => .ok n
    | none => .error (.notInteger tag text)

def timeoutOf (root : Xml.Element) : Except Fault Binary64 :=
  let text := trimmedText root "timeout"
  if text.isEmpty then .ok defaultTimeout
  else match Number.decimal? text with
    | some x => .ok x
    | none => .error (.notNumber text)

/-- The title: the default where it is missing or empty. -/
def titleOf (root : Xml.Element) : String :=
  Text.trim (Text.orElse (root.findText? "title") defaultTitle)

def flagOf (root : Xml.Element) (tag : String) : Bool :=
  (trimmedText root tag).toList.map Text.asciiLower == ['t', 'r', 'u', 'e']

/-- The path of the log file: as it stands if it is absolute, and otherwise seen from the directory
of the settings. -/
def logFilePath (directory : List String) (path : String) : String :=
  if Path.isAbsolute path then Path.normal path else Path.toText (Path.resolve directory path)

def loggingOf (directory : List String) (root : Xml.Element) : LoggingSettings :=
  match root.find? "logging" with
  | none => ⟨defaultLevel, none⟩
  | some node =>
    let file := (node.findText? "file").getD ""
    ⟨(node.findText? "level").getD defaultLevel,
      if file.isEmpty then none else some (logFilePath directory file)⟩

/-! ## 2. Settings -/

/-- The settings in a tree, in a file of a directory. Of several faults, that of the timeout is
reported first. -/
def ofTree (directory : List String) (root : Xml.Element) : Except Fault Settings := do
  let timeout ← timeoutOf root
  let limit ← integerOf root "limit" 0
  let collapseAfter ← integerOf root "collapse-after" 0
  let collapseAfterRows ← integerOf root "collapse-after-rows" 0
  let concurrency ← integerOf root "concurrency" defaultConcurrency
  return {
    title := titleOf root
    channels := listOf root "channels"
    rumbleChannels := listOf root "rumble-channels"
    playlists := listOf root "playlists"
    videoUrlTemplate := trimmedText root "video-url-template"
    style := trimmedText root "style"
    limit := some limit
    includeShorts := flagOf root "include-shorts"
    collapseAfter, collapseAfterRows, concurrency, timeout
    logging := loggingOf directory root }

def ofBytes (directory : List String) (bytes : List UInt8) : Except Fault Settings :=
  match Xml.readTree bytes with
  | .error f => .error (.ofRead f)
  | .ok root => ofTree directory root

def load (holds : List String → Option Path.Entry) (directory : List String) (path : String) :
    Logged (Except Fault Settings) := do
  let resolved := Path.resolve directory path
  match holds resolved with
  | none => return .error (.missing path)
  | some entry =>
    Logged.say (.settingsFile (Path.toText resolved))
    match entry with
    | .directory => return .error (.directory (Path.toText resolved))
    | .file bytes =>
      match ofBytes resolved.dropLast bytes with
      | .error f => return .error f
      | .ok s =>
        Logged.say (.settingsLoaded s.channels.length s.playlists.length s.rumbleChannels.length)
        return .ok s

end VideoWall.Settings
