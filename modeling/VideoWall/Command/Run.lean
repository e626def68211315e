import VideoWall.Command.Log
import VideoWall.Command.Options
import VideoWall.Settings.Reader
import VideoWall.Widget.Output

/-!
# Runs of the program

A run reads the command line and the settings, opens the log, and then turns: it updates the wall,
writes it, and waits for the next refresh if it is to go on. What a run comes to is a value; the one
thing left to the system is to wait.
-/

namespace VideoWall.Command

/-- What a run finds around it. -/
structure Surroundings where
  directory : List String
  /-- What stands at a place from the root on. No segment on the way is a symbolic link. -/
  holds : List String → Option Path.Entry
  session : Nat → Session
  clock : Nat → Stamp

def Surroundings.now (w : Surroundings) (turn : Nat) : Stamp :=
  { w.clock turn with offset := some .utc }

inductive Ending where
  | exits (code : Nat)
  | usage (message : String)
  /-- A request never comes back, and nothing gives it up. -/
  | endless
deriving DecidableEq, Repr

namespace Ending

/-- The code that a run exits with; none if it never does. -/
def code? : Ending → Option Nat
  | exits code => some code
  | usage _ => some 2
  | endless => none

def usageMessage? : Ending → Option String
  | usage message => some message
  | exits _ | endless => none

end Ending

/-! ## 1. Halts -/

inductive Halt where
  | badValue (message : String)
  | missingFile (message : String)
  | cancelled
  /-- Another fault that the program knows. -/
  | known (message : String)
  | interrupted
  /-- Anything that the program does not know. -/
  | unknown
  | endless
deriving DecidableEq, Repr

namespace Halt

def ending : Halt → Logged Ending
  | badValue message => return .usage message
  | missingFile message | known message => do
    Logged.say (.stopped message)
    return .exits 1
  | cancelled => do
    Logged.say (.stopped cancelledText)
    return .exits 1
  | interrupted => do
    Logged.say .interrupted
    return .exits 0
  | unknown => do
    Logged.say .unexpected
    return .exits 1
  | endless => return .endless

/-- How a fault of the settings halts a run. An encoding is looked up by its name, and a name that is not
found is no wrong value. -/
def ofSettings : Settings.Fault → Halt
  | .missing path => missingFile (Settings.Fault.missing path).message
  | .directory _ | .encodingName (.unknown _) | .encodingName (.notText _) => unknown
  | f => badValue f.message

def ofLog : LogFault → Halt
  | .unknownLevel text => badValue (LogFault.unknownLevel text).message
  | .directory _ | .notDirectory _ => unknown

def ofUpdate : Widget.UpdateError → Halt
  | .aborted .cancelled => cancelled
  | .aborted .interrupted => interrupted
  | .aborted .endless => endless
  | .aborted (.incomparable _) | .aborted .unanswered => unknown
  | .alreadyRunning => known Failure.alreadyRunningText

end Halt

/-! ## 2. The start -/

structure Plan where
  options : Options
  settings : Settings
  log : Log
deriving Repr

/-- The first of two texts that is there and not empty. -/
def firstFilled (a : Option String) (b : Option String) : Option String :=
  (a.filter (!·.isEmpty)) <|> b

def summary (s : Settings) : String :=
  let lines : List (String × String) :=
    [("title", Text.quoted s.title), ("channels", Text.quotedList s.channels),
      ("rumble_channels", Text.quotedList s.rumbleChannels),
      ("playlists", Text.quotedList s.playlists),
      ("video_url_template", Text.quoted s.videoUrlTemplate), ("style", Text.quoted s.style),
      ("limit", (s.limit.map Text.ofInt).getD "None"),
      ("collapse_after", Text.ofInt s.collapseAfter),
      ("collapse_after_rows", Text.ofInt s.collapseAfterRows),
      ("concurrency", Text.ofInt s.concurrency), ("timeout", s.timeout.toText),
      ("level", Text.quoted s.logging.level)]
  String.intercalate "\n" (lines.map fun (k, v) => k ++ ": " ++ v)

def shownAt {α : Type} (l : LogLevel) (x : Logged α) : List Notice :=
  x.notices.filter l.shows

structure Start where
  plan : Except Ending Plan
  shown : List Notice

def levelText (o : Options) (s : Settings) : String :=
  (firstFilled o.logLevel (some s.logging.level)).getD ""

def logPath (o : Options) (s : Settings) : Option String :=
  firstFilled o.logFile s.logging.file

def Start.halted (level : LogLevel) (h : Halt) : Start :=
  ⟨.error h.ending.value, shownAt level h.ending⟩

def startLog (w : Surroundings) (o : Options) (s : Settings) : Start :=
  match LogLevel.ofText? (levelText o s) with
  | none => .halted .initial (.ofLog (.unknownLevel (levelText o s)))
  | some level =>
    let opened := Log.start w.holds w.directory level (logPath o s)
    match opened.value with
    | .error f => .halted level (.ofLog f)
    | .ok log =>
      let settings := s.withDefaults
      let all : Logged Unit := ⟨(), opened.notices ++ [.settingsInForce (summary settings)]⟩
      ⟨.ok ⟨o, settings, log⟩, shownAt level all⟩

def start (w : Surroundings) (o : Options) : Start :=
  let loaded := Settings.load w.holds w.directory o.config
  let rest : Start := match loaded.value with
    | .error f => .halted .initial (.ofSettings f)
    | .ok s => startLog w o s
  { rest with shown := shownAt .initial loaded ++ rest.shown }

/-! ## 3. Turns -/

inductive Turn where
  | ends (e : Ending)
  /-- The wall is written, and the run ends well. -/
  | last (output : String)
  /-- The wall is written, and the run goes on from a state after a wait. -/
  | next (output : String) (state : Widget.State)
deriving DecidableEq, Repr

/-- The wall as it is written. A timestamp may be missing from a document, or not be comparable with the
present time. -/
def written (now : Stamp) (p : Plan) (s : Widget.State) : Logged (Except Halt String) := do
  match p.options.format with
  | .json =>
    match s.json with
    | some text => return .ok (text ++ "\n")
    | none => return .error .unknown
  | .html =>
    match ← s.html now (.ofSettings p.settings) with
    | .ok text => return .ok (text ++ "\n")
    | .error _ => return .error .unknown

/-- Writes the wall, and says when the next refresh is if the run goes on. -/
def writeTurn (now : Stamp) (p : Plan) (s : Widget.State) : Logged Turn := do
  match ← written now p s with
  | .error h => return .ends (← h.ending)
  | .ok output =>
    if p.options.watch then
      Logged.say (.nextRefresh s.refreshSeconds)
      return .next output s
    else return .last output

/-- What a turn from a state leads to once its update has ended. A run that is to go on goes on after an
update that was given up. -/
def afterUpdate (now : Stamp) (p : Plan) (s : Widget.State) : Except Halt Widget.State → Logged Turn
  | .ok next => writeTurn now p next
  | .error .cancelled => do
    Logged.say (.timedOut p.options.timeout)
    if p.options.watch then writeTurn now p s else return .ends (.exits 1)
  | .error h => return .ends (← h.ending)

def turn (now : Stamp) (p : Plan) (s : Widget.State) (update : Logged (Except Halt Widget.State)) :
    Logged Turn := do
  afterUpdate now p s (← update)

def updateOf (now : Stamp) (session : Session) (p : Plan) (s : Widget.State) :
    Logged (Except Halt Widget.State) := do
  let c : Cancellation := ⟨false, false, p.options.timeout.isSome⟩
  return (← Widget.update (.steady now session) c p.settings s).mapError .ofUpdate

/-- The updates of a run: what each turn does to the wall before it writes it. -/
abbrev Updates := Plan → (turn : Nat) → Widget.State → Logged (Except Halt Widget.State)

def Surroundings.updates (w : Surroundings) : Updates :=
  fun p n s => updateOf (w.now n) (w.session n) p s

/-! ## 4. Runs -/

inductive Act where
  | updates
  | writes (text : String)
  /-- It waits, for so many microseconds. -/
  | waits (microseconds : Int)
deriving DecidableEq, Repr

namespace Act

def text? : Act → Option String
  | writes text => some text
  | updates | waits _ => none

def wait? : Act → Option Int
  | waits microseconds => some microseconds
  | updates | writes _ => none

end Act

structure Outcome where
  ending : Ending
  acts : List Act := []
  /-- The log file, from the root on. -/
  logFile : Option (List String) := none
  shown : List Notice := []
  requested : List String := []
deriving Repr

namespace Outcome

def output (o : Outcome) : String :=
  String.join (o.acts.filterMap Act.text?)

/-- The waits, in microseconds. -/
def waits (o : Outcome) : List Int :=
  o.acts.filterMap Act.wait?

def behind (o : Outcome) (acts : List Act) (shown : List Notice) (requested : List String) : Outcome :=
  { o with
    acts := acts ++ o.acts
    shown := shown ++ o.shown
    requested := requested ++ o.requested }

def halted (level : LogLevel) (h : Halt) : Outcome :=
  { ending := h.ending.value, shown := shownAt level h.ending }

end Outcome

/-- Turns until the run ends. It is interrupted in the wait after `waits` complete ones. -/
def turns (w : Surroundings) (updates : Updates) (p : Plan) : (waits n : Nat) → Widget.State → Outcome
  | waits, n, s =>
    let done := turn (w.now n) p s (updates p n s)
    let shown := shownAt p.log.level done
    match done.value with
    | .ends ending => { ending, acts := [.updates], shown, requested := done.requested }
    | .last output =>
      { ending := .exits 0, acts := [.updates, .writes output], shown, requested := done.requested }
    | .next output next =>
      let rest : Outcome :=
        match waits with
        | 0 => .halted p.log.level .interrupted
        | waits + 1 => turns w updates p waits (n + 1) next
      rest.behind [.updates, .writes output, .waits next.refresh] shown done.requested
termination_by waits => waits

def runWith (w : Surroundings) (updates : Updates) (waits : Nat) (o : Options) : Outcome :=
  let started := start w o
  match started.plan with
  | .error ending => { ending, shown := started.shown }
  | .ok p =>
    let outcome := turns w updates p waits 0 .initial
    { outcome with shown := started.shown ++ outcome.shown, logFile := p.log.file }

/-- A run with the words of a command line. It is interrupted in the wait after `waits` complete
ones. -/
def run (w : Surroundings) (waits : Nat) (words : List String) : Outcome :=
  match Options.read words with
  | .error .help => { ending := .exits 0, acts := [.writes Options.help] }
  | .error (.fault f) => { ending := .usage f.message }
  | .ok o => runWith w w.updates waits o

end VideoWall.Command
