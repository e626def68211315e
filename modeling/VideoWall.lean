import VideoWall.Feed.Record
import VideoWall.Item.Comparing
import VideoWall.Main
import VideoWall.Proofs.Command.BadSettings
import VideoWall.Proofs.Command.FullLog
import VideoWall.Proofs.Command.Runs
import VideoWall.Proofs.Cycle.Defaults
import VideoWall.Proofs.Cycle.Isolation
import VideoWall.Proofs.Cycle.Reordering
import VideoWall.Proofs.Feed.Address
import VideoWall.Proofs.Feed.Entries
import VideoWall.Proofs.Html.Injection
import VideoWall.Proofs.Item.Incomparable
import VideoWall.Proofs.Settings.Blanks
import VideoWall.Proofs.Settings.Written
import VideoWall.Proofs.Time.IsoText
import VideoWall.Proofs.Time.Label
import VideoWall.Proofs.Url.FilledTemplate
import VideoWall.Proofs.Url.WatchLink
import VideoWall.Proofs.Widget.Boundary
import VideoWall.Proofs.Widget.Cancellation
import VideoWall.Proofs.Widget.Document
import VideoWall.Proofs.Widget.Erasure
import VideoWall.Proofs.Widget.History
import VideoWall.Proofs.Widget.Listing
import VideoWall.Proofs.Widget.Transitions
