import VideoWall.Text.Replace

/-!
# Providers and feed addresses

The two places that videos come from, and the address of the feed that stands for a source there.
-/

namespace VideoWall

inductive Provider where
  | youtube
  | rumble
deriving DecidableEq, Repr, Inhabited

namespace Provider

/-- The providers in the order in which a cycle asks them. -/
def all : List Provider := [youtube, rumble]

def word : Provider → String
  | youtube => "youtube"
  | rumble => "rumble"

def label : Provider → String
  | youtube => "YouTube"
  | rumble => "Rumble"

def ofWord? (s : String) : Option Provider :=
  all.find? (·.word == s)

end Provider

namespace Source

def playlistMark : List Char := "playlist:".toList

def channelMark : List Char := ['U', 'C']

/-- The start of the identifier of the playlist of a channel's uploads without shorts. -/
def uploadsMark : List Char := ['U', 'U', 'L', 'F']

def ofPlaylist (id : String) : String :=
  String.ofList (playlistMark ++ id.toList)

def queryBase : List Char := "https://www.youtube.com/feeds/videos.xml".toList

def nameBase : List Char := "http://rumble-rss.xyz/rumble/".toList

def playlistFeed (id : List Char) : List Char :=
  queryBase ++ "?playlist_id=".toList ++ id

def channelFeed (id : List Char) : List Char :=
  queryBase ++ "?channel_id=".toList ++ id

def feedChars (provider : Provider) (source : List Char) (includeShorts : Bool) : List Char :=
  match provider with
  | .rumble => nameBase ++ source
  | .youtube =>
    match Text.dropStart? playlistMark source with
    | some id => playlistFeed id
    | none =>
      match includeShorts, Text.dropStart? channelMark source with
      | false, some id => playlistFeed (uploadsMark ++ id)
      | _, _ => channelFeed source

/-- The address of the feed of a source: a playlist by its mark, a channel without its shorts by the
playlist of its uploads, any other channel by its identifier, and a named feed by its name. -/
def feedUrl (provider : Provider) (source : String) (includeShorts : Bool) : String :=
  String.ofList (feedChars provider source.toList includeShorts)

end Source

end VideoWall
