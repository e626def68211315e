import VideoWall.Text.Digit
import VideoWall.Text.Quoted

/-!
# Failures

Why a feed could not be fetched, why a pool of workers could not be started, and why an update came to
no end. Each cause has one message.
-/

namespace VideoWall

inductive FaultKind where
  | connection
  | timeout
  | http
  | badValue
  | runtime
  /-- A look-up without an entry; its message is the key. -/
  | missingKey
  | noContent
  | poolStart
  | notAFeed
  | cancelled
  | other (name : String)
deriving DecidableEq, Repr

/-- Why one feed gave no document. -/
inductive Failure where
  | reported (kind : FaultKind) (text : String)
  | unreachable (url : String)
  | refused (status : Int) (reason url : String)
  | notFeed (url : String) (problem : Option String)
  /-- The request asked for an update while one was running. -/
  | alreadyRunning
deriving DecidableEq, Repr

namespace Failure

def alreadyRunningText : String := "an update cycle is already running"

def unrecognisedText : String := "unrecognised format"

def message : Failure → String
  | reported kind text => if kind = .missingKey then Text.quoted text else text
  | unreachable url => "no route to " ++ url
  | refused status reason url =>
    Text.ofInt status ++ (if status < 500 then " Client Error: " else " Server Error: ") ++ reason ++
      " for url: " ++ url
  | notFeed url problem =>
    let detail := match problem with
      | some p => if p.isEmpty then unrecognisedText else p
      | none => unrecognisedText
    url ++ " is not a feed document: " ++ detail
  | alreadyRunning => alreadyRunningText

end Failure

/-- Why a pool of workers could not be started. -/
inductive PoolFault where
  | notPositive (workers : Int)
  /-- A task could not be handed to a worker; the system says why. -/
  | cannotStart (why : String)
deriving DecidableEq, Repr

namespace PoolFault

def startText : String := "can't start new thread"

def message : PoolFault → String
  | notPositive n => "max_workers must be positive, got " ++ Text.ofInt n
  | cannotStart why => "cannot start worker pool: " ++ why

end PoolFault

inductive NoContent where
  | pool (fault : PoolFault)
  | nothingCollected (label : String)
  | stated (text : String)
deriving DecidableEq, Repr

namespace NoContent

def message : NoContent → String
  | pool fault => "no content: " ++ fault.message
  | nothingCollected label => "no " ++ label ++ " videos collected"
  | stated text => text

def unstated : NoContent := .stated "no content"

end NoContent

def missingVideosText (failedCount : Int) : String :=
  "missing videos from " ++ Text.ofInt failedCount ++ " channels"

def cancelledText : String := "update cycle cancelled"

end VideoWall
