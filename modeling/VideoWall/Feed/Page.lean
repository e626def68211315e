import VideoWall.Feed.Reader

/-!
# Pages

The body of a page, and what it says about a feed.
-/

namespace VideoWall.Feed

inductive Body where
  | bytes (bs : List UInt8)
  /-- What a reader found in them. -/
  | facts (f : Facts)

def Body.toFacts : Body → Facts
  | bytes bs => read bs
  | facts f => f

end VideoWall.Feed
