import VideoWall.Failure
import VideoWall.Item
import VideoWall.Number.Binary64
import VideoWall.Provider
import VideoWall.Status
import VideoWall.Text.Quoted
import VideoWall.Url.Split

/-!
# Notices

What the program says about its work while it runs. A notice is a constructor with its data; its
severity, its topic and its wording are functions of it.
-/

namespace VideoWall

inductive Severity where
  | debug
  | info
  | warning
  | error
deriving DecidableEq, Repr

namespace Severity

def rank : Severity → Nat
  | debug => 10
  | info => 20
  | warning => 30
  | error => 40

def word : Severity → String
  | debug => "DEBUG"
  | info => "INFO"
  | warning => "WARNING"
  | error => "ERROR"

end Severity

inductive Topic where
  | timestamps
  | links
  | pool
  | feeds
  | settings
  | aggregation
  | rendering
  | widget
  | command
deriving DecidableEq, Repr

def Topic.word : Topic → String
  | timestamps => "timestamps"
  | links => "links"
  | pool => "pool"
  | feeds => "feeds"
  | settings => "settings"
  | aggregation => "aggregation"
  | rendering => "rendering"
  | widget => "widget"
  | command => "command"

inductive Notice where
  | unreadableTime (provider : Provider) (raw : Option String)
  | unreadableLink (link : String) (fault : Url.Fault)
  | skippedEntry (channel : String)
  | poolCancelled (pending : Nat)
  | requesting (url : String)
  | feedFailed (provider : Provider) (source : String) (failure : Failure)
  | collected (provider : Provider) (items feeds : Nat)
  | settingsFile (path : String)
  | settingsLoaded (channels playlists rumbleChannels : Nat)
  | cycleStarted (channels playlists rumbleChannels : List String)
  | providerPartial (provider : Provider) (failedCount : Int)
  | providerFailed (provider : Provider) (reason : NoContent)
  | providerFetched (provider : Provider) (items : Nat)
  | cycleFinished (items : Nat) (status : Status)
  | newest (index : Nat) (item : Item)
  | renderingLoading
  | renderingItems (count : Nat) (template style : String)
  | firstLoad
  | intervalExtended
  | contentAvailable (items : Nat)
  | loggingToConsole (level : String)
  | loggingToFile (level path : String)
  | settingsInForce (text : String)
  | timedOut (seconds : Option Binary64)
  | nextRefresh (seconds : Int)
  | stopped (message : String)
  | interrupted
  | unexpected
deriving DecidableEq, Repr

namespace Notice

def severity : Notice → Severity
  | skippedEntry _ | unreadableLink .. | requesting _ | newest .. | renderingLoading
  | renderingItems .. | loggingToConsole _ | loggingToFile .. => .debug
  | poolCancelled _ | collected .. | settingsFile _ | settingsLoaded .. | cycleStarted ..
  | providerFetched .. | cycleFinished .. | firstLoad | intervalExtended | contentAvailable _
  | settingsInForce _ | nextRefresh _ | interrupted => .info
  | unreadableTime .. | providerPartial .. | timedOut _ => .warning
  | feedFailed .. | providerFailed .. | stopped _ | unexpected => .error

def topic : Notice → Topic
  | unreadableTime .. => .timestamps
  | unreadableLink .. | skippedEntry _ => .links
  | poolCancelled _ => .pool
  | requesting _ | feedFailed .. | collected .. => .feeds
  | settingsFile _ | settingsLoaded .. => .settings
  | cycleStarted .. | providerPartial .. | providerFailed .. | providerFetched ..
  | cycleFinished .. | newest .. => .aggregation
  | renderingLoading | renderingItems .. => .rendering
  | firstLoad | intervalExtended | contentAvailable _ => .widget
  | loggingToConsole _ | loggingToFile .. | settingsInForce _ | timedOut _ | nextRefresh _
  | stopped _ | interrupted | unexpected => .command

def timeText : Option Stamp → String
  | some t => t.spacedText
  | none => "None"

def text : Notice → String
  | unreadableTime provider raw =>
    "Unparseable " ++ provider.word ++ " timestamp " ++
      (match raw with | some r => Text.quoted r | none => "None") ++ "; using current time"
  | unreadableLink link fault =>
    "Cannot parse video link " ++ Text.quoted link ++ ": " ++ fault.message
  | skippedEntry channel => "Skipping Rumble entry without title or link in " ++ channel
  | poolCancelled n => "Cancelled worker pool with " ++ Text.ofNat n ++ " pending tasks"
  | requesting url => "Fetching feed " ++ url
  | feedFailed provider source failure =>
    "Failed to fetch " ++ provider.label ++ " feed for '" ++ source ++ "': " ++ failure.message
  | collected provider items feeds =>
    "Collected " ++ Text.ofNat items ++ " " ++ provider.label ++ " videos from " ++
      Text.ofNat feeds ++ " feeds"
  | settingsFile path => "Loading widget configuration from " ++ path
  | settingsLoaded channels playlists rumble =>
    "Loaded " ++ Text.ofNat channels ++ " YouTube channels, " ++ Text.ofNat playlists ++
      " playlists and " ++ Text.ofNat rumble ++ " Rumble channels"
  | cycleStarted channels playlists rumble =>
    "Video widget update: channels=" ++ Text.quotedList channels ++ " playlists=" ++
      Text.quotedList playlists ++ " rumble_channels=" ++ Text.quotedList rumble
  | providerPartial provider n =>
    "Partial " ++ provider.word ++ " content: " ++ missingVideosText n
  | providerFailed provider reason =>
    "Failed to fetch " ++ provider.word ++ " videos: " ++ reason.message
  | providerFetched provider n =>
    "Successfully fetched " ++ Text.ofNat n ++ " " ++ provider.word ++ " videos"
  | cycleFinished n status =>
    "Video widget update complete: " ++ Text.ofNat n ++ " videos (" ++ status.word ++ ")"
  | newest index item =>
    "Video " ++ Text.ofNat index ++ ": title=" ++ Text.quoted item.title ++ " author=" ++
      Text.quoted item.author ++ " url=" ++ item.url ++ " time=" ++ timeText item.posted
  | renderingLoading => "Rendering loading state for videos"
  | renderingItems n template style =>
    "Rendering " ++ Text.ofNat n ++ " videos with " ++ template ++ " (style=" ++
      Text.quoted style ++ ")"
  | firstLoad => "Video widget first load - fetching videos with short cache"
  | intervalExtended => "Videos fetched - extending cache duration to 0:30:00"
  | contentAvailable n => "Video content now available: " ++ Text.ofNat n ++ " videos"
  | loggingToConsole level => "Logger initialised with console output at level " ++ level
  | loggingToFile level path =>
    "Logger initialised with level " ++ level ++ " and file output to " ++ path
  | settingsInForce settings => "Active Configuration:\n" ++ settings
  | timedOut seconds =>
    "Update cycle timed out after " ++ (match seconds with | some s => s.toText | none => "None") ++
      " seconds"
  | nextRefresh seconds => "Next refresh in " ++ Text.ofInt seconds ++ " seconds"
  | stopped message => message
  | interrupted => "Interrupted"
  | unexpected => "Unexpected error during execution."

def requested? : Notice → Option String
  | requesting url => some url
  | _ => none

end Notice

/-- A value and the notices that were given on the way to it. -/
@[ext] structure Logged (α : Type) where
  value : α
  notices : List Notice

namespace Logged

def say (n : Notice) : Logged Unit := ⟨(), [n]⟩

def sayAll (ns : List Notice) : Logged Unit := ⟨(), ns⟩

instance : Monad Logged where
  pure a := ⟨a, []⟩
  bind x f := let y := f x.value; ⟨y.value, x.notices ++ y.notices⟩

instance : LawfulMonad Logged :=
  LawfulMonad.mk' Logged
    (fun x => Logged.ext rfl (List.append_nil x.notices))
    (fun _ _ => rfl)
    (fun x _ _ => Logged.ext rfl (List.append_assoc x.notices _ _))

@[simp] theorem value_pure {α : Type} (a : α) : (pure a : Logged α).value = a := rfl

@[simp] theorem notices_pure {α : Type} (a : α) : (pure a : Logged α).notices = [] := rfl

@[simp] theorem value_bind {α β : Type} (x : Logged α) (f : α → Logged β) :
    (x >>= f).value = (f x.value).value := rfl

@[simp] theorem notices_bind {α β : Type} (x : Logged α) (f : α → Logged β) :
    (x >>= f).notices = x.notices ++ (f x.value).notices := rfl

@[simp] theorem value_say (n : Notice) : (say n).value = () := rfl

@[simp] theorem notices_say (n : Notice) : (say n).notices = [n] := rfl

def requested {α : Type} (x : Logged α) : List String :=
  x.notices.filterMap Notice.requested?

end Logged

end VideoWall
