import VideoWall.Number.Literal
import VideoWall.Text.Quoted

/-!
# Options

The options of the command line. A word is an option, an argument, or the mark behind which there are
arguments only; an option may be shortened as long as it can be told from the others. Reading words one
after the other gives the options, or the first thing that is wrong with them.
-/

namespace VideoWall.Command

inductive OutputFormat where
  | html
  | json
deriving DecidableEq, Repr

def OutputFormat.word : OutputFormat → String
  | html => "html"
  | json => "json"

def OutputFormat.ofWord? (s : String) : Option OutputFormat :=
  [html, json].find? (·.word == s)

structure Options where
  config : String := "configs/videos.xml"
  /-- The log level, if it is not to be that of the settings. -/
  logLevel : Option String := none
  logFile : Option String := none
  format : OutputFormat := .html
  /-- After how many seconds an update is given up. -/
  timeout : Option Binary64 := none
  watch : Bool := false
deriving DecidableEq, Repr

inductive OptionName where
  | help
  | config
  | logLevel
  | logFile
  | format
  | timeout
  | watch
deriving DecidableEq, Repr

namespace OptionName

def all : List OptionName := [help, config, logLevel, logFile, format, timeout, watch]

def flag : OptionName → String
  | help => "--help"
  | config => "--config"
  | logLevel => "--log-level"
  | logFile => "--log-file"
  | format => "--format"
  | timeout => "--timeout"
  | watch => "--watch"

def shown : OptionName → String
  | help => "-h/--help"
  | o => o.flag

def takesArgument : OptionName → Bool
  | help | watch => false
  | config | logLevel | logFile | format | timeout => true

def ofFlag? (s : List Char) : Option OptionName :=
  all.find? (·.flag.toList == s)

def startingWith (s : List Char) : List OptionName :=
  all.filter fun o => s.isPrefixOf o.flag.toList

end OptionName

inductive UsageFault where
  | ambiguous (word : String) (candidates : List OptionName)
  | expectsArgument (option : OptionName)
  | ignoresArgument (option : OptionName) (text : String)
  | badFormat (text : String)
  | badNumber (text : String)
  | unrecognised (words : List String)
deriving DecidableEq, Repr

def UsageFault.message : UsageFault → String
  | ambiguous word candidates =>
    "ambiguous option: " ++ word ++ " could match " ++
      String.intercalate ", " (candidates.map OptionName.flag)
  | expectsArgument o => "argument " ++ o.shown ++ ": expected one argument"
  | ignoresArgument o text =>
    "argument " ++ o.shown ++ ": ignored explicit argument " ++ Text.quoted text
  | badFormat text =>
    "argument " ++ OptionName.format.shown ++ ": invalid choice: " ++ Text.quoted text ++
      " (choose from 'html', 'json')"
  | badNumber text =>
    "argument " ++ OptionName.timeout.shown ++ ": invalid float value: " ++ Text.quoted text
  | unrecognised words => "unrecognized arguments: " ++ String.intercalate " " words

inductive UsageStop where
  | help
  | fault (f : UsageFault)
deriving DecidableEq, Repr

/-! ## 1. Words -/

inductive WordKind where
  | argument
  /-- The mark behind which there are arguments only. -/
  | separator
  | option (name : OptionName) (joined : Option String)
  /-- A cluster of short options of which the first is that for help; the flag says whether what
  follows it stands behind an equals sign. -/
  | helpCluster (isAssigned : Bool) (rest : List Char)
  /-- A word that looks like an option and is none. -/
  | unknown
deriving DecidableEq, Repr

/-- Whether a word is a negative number: digits with at most one point in front of the last ones. A
line break may follow. -/
def isNegativeNumber (cs : List Char) : Bool :=
  match cs with
  | '-' :: rest =>
    let rest := if rest.getLast? == some '\n' then rest.dropLast else rest
    match rest.dropWhile Text.isDigit with
    | [] => !rest.isEmpty
    | '.' :: digits => !digits.isEmpty && digits.all Text.isDigit
    | _ => false
  | _ => false

/-- A word that is no option, though it begins like one: a number and a text with a space in it are
arguments. -/
def otherKind (cs : List Char) : WordKind :=
  if isNegativeNumber cs || cs.contains ' ' then .argument else .unknown

/-- A word with two dashes: an option or the start of exactly one, to which an argument may be
joined. -/
def longKind (cs : List Char) : Except UsageFault WordKind :=
  let name := cs.takeWhile (· != '=')
  let joined := match cs.drop name.length with
    | _ :: text => some (String.ofList text)
    | [] => none
  match OptionName.ofFlag? name, OptionName.startingWith name with
  | some o, _ => .ok (.option o joined)
  | none, [o] => .ok (.option o joined)
  | none, [] => .ok (otherKind cs)
  | none, candidates => .error (.ambiguous (String.ofList cs) candidates)

def wordKind (word : String) : Except UsageFault WordKind :=
  match word.toList with
  | ['-', '-'] => .ok .separator
  | '-' :: '-' :: cs => longKind ('-' :: '-' :: cs)
  | ['-', 'h'] => .ok (.option .help none)
  | '-' :: 'h' :: '=' :: rest => .ok (.helpCluster true rest)
  | '-' :: 'h' :: rest => .ok (.helpCluster false rest)
  | ['-'] => .ok .argument
  | '-' :: cs => .ok (otherKind ('-' :: cs))
  | _ => .ok .argument

/-- What the words of a command line are. All words behind the first mark are arguments. -/
def wordKinds : List String → Except UsageFault (List (String × WordKind))
  | [] => .ok []
  | word :: words => do
    match ← wordKind word with
    | .separator => return (word, .separator) :: words.map (·, .argument)
    | kind => return (word, kind) :: (← wordKinds words)

/-! ## 2. Options -/

def readHelpCluster : (isAssigned : Bool) → List Char → UsageStop
  | _, [] => .fault (.ignoresArgument .help "")
  | isAssigned, c :: cs =>
    if isAssigned || c == '-' then .fault (.ignoresArgument .help (String.ofList (c :: cs)))
    else if c != 'h' then .help
    else match cs with
      | [] => .help
      | '=' :: rest => readHelpCluster true rest
      | rest => readHelpCluster false rest

namespace Options

def set (o : Options) (name : OptionName) (text : String) : Except UsageFault Options :=
  match name with
  | .config => .ok { o with config := text }
  | .logLevel => .ok { o with logLevel := some text }
  | .logFile => .ok { o with logFile := some text }
  | .format =>
    match OutputFormat.ofWord? text with
    | some format => .ok { o with format }
    | none => .error (.badFormat text)
  | .timeout =>
    match Number.decimal? text with
    | some seconds => .ok { o with timeout := some seconds }
    | none => .error (.badNumber text)
  | .help => .ok o
  | .watch => .ok { o with watch := true }

def setFlag (o : Options) (name : OptionName) : Except UsageStop Options :=
  match name with
  | .help => .error .help
  | .watch => .ok { o with watch := true }
  | _ => .error (.fault (.expectsArgument name))

def setWith (o : Options) (name : OptionName) (text : String) : Except UsageStop Options :=
  if name.takesArgument then (o.set name text).mapError .fault
  else .error (.fault (.ignoresArgument name text))

/-- Reads the words of a command line in order. Gives the options and the words left over. -/
def readWords (o : Options) : List (String × WordKind) → Except UsageStop (Options × List String)
  | [] => .ok (o, [])
  | (word, .argument) :: rest | (word, .separator) :: rest | (word, .unknown) :: rest =>
    (readWords o rest).map fun (o, others) => (o, word :: others)
  | (_, .helpCluster isAssigned cs) :: _ => .error (readHelpCluster isAssigned cs)
  | (_, .option name (some text)) :: rest => do readWords (← o.setWith name text) rest
  | (_, .option name none) :: (text, .argument) :: rest =>
    if name.takesArgument then do readWords (← o.setWith name text) rest
    else do
      let (o, others) ← readWords (← o.setFlag name) rest
      return (o, text :: others)
  | (_, .option name none) :: rest => do readWords (← o.setFlag name) rest

def read (words : List String) : Except UsageStop Options := do
  let kinds ← (wordKinds words).mapError .fault
  match ← readWords {} kinds with
  | (o, []) => return o
  | (_, others) => .error (.fault (.unrecognised others))

def help : String :=
  "Fetch the newest videos from configured YouTube and Rumble channels.\n\n" ++
    "  -h, --help             show this help and exit\n" ++
    "  --config PATH          the settings, an XML file\n" ++
    "  --log-level LEVEL      the log level, in place of that of the settings\n" ++
    "  --log-file PATH        the log file, in place of that of the settings\n" ++
    "  --format html|json     how the wall is written\n" ++
    "  --timeout SECONDS      when to give up an update\n" ++
    "  --watch                go on refreshing\n"

/-- The words of a command line that logs everything, unless the log level is among them. -/
def withFullLog (words : List String) : List String :=
  if words.any fun w => OptionName.logLevel.flag.toList.isPrefixOf w.toList then words
  else words ++ [OptionName.logLevel.flag, "DEBUG"]

end Options

end VideoWall.Command
