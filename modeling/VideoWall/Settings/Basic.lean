import VideoWall.Number.Binary64
import VideoWall.Provider

/-!
# Settings

What a wall shows, from which sources, and how. Numbers that are not set take their defaults only
when a wall is made, so that settings can be read and written without change.
-/

namespace VideoWall

structure LoggingSettings where
  level : String
  file : Option String
deriving DecidableEq, Repr

structure Settings where
  title : String
  channels : List String
  rumbleChannels : List String
  playlists : List String
  videoUrlTemplate : String
  style : String
  limit : Option Int
  includeShorts : Bool
  /-- How many items of a list stand before the fold. -/
  collapseAfter : Int
  /-- How many rows of a grid stand before the fold. -/
  collapseAfterRows : Int
  concurrency : Int
  /-- The longest wait for a page, in seconds. -/
  timeout : Binary64
  logging : LoggingSettings
deriving DecidableEq, Repr

namespace Settings

def defaultConcurrency : Int := 30

def defaultTitle : String := "Videos"

def defaultLevel : String := "INFO"

def defaultTimeout : Binary64 := .ten

def unset : Settings where
  title := defaultTitle
  channels := []
  rumbleChannels := []
  playlists := []
  videoUrlTemplate := ""
  style := ""
  limit := some 0
  includeShorts := false
  collapseAfter := 0
  collapseAfterRows := 0
  concurrency := defaultConcurrency
  timeout := defaultTimeout
  logging := ⟨defaultLevel, none⟩

def defaultLimit : Nat := 25

/-- The greatest number of items that is in force for a setting. -/
def effectiveLimit (limit : Option Int) : Nat :=
  match limit with
  | some n => if n ≤ 0 then defaultLimit else n.toNat
  | none => defaultLimit

/-- A fold that is in force for a setting: `-1` is no fold, other values below one are not set. -/
def effectiveFold (default n : Int) : Int :=
  if n = 0 ∨ n < -1 then default else n

def withDefaults (s : Settings) : Settings :=
  { s with
    limit := some (effectiveLimit s.limit)
    collapseAfter := effectiveFold 7 s.collapseAfter
    collapseAfterRows := effectiveFold 4 s.collapseAfterRows }

/-- The sources of a provider: channels, then playlists by their marks. -/
def sources (s : Settings) : Provider → List String
  | .youtube => s.channels ++ s.playlists.map Source.ofPlaylist
  | .rumble => s.rumbleChannels

end Settings

end VideoWall
