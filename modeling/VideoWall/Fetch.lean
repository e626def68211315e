import VideoWall.Environment
import VideoWall.Feed.Items

/-!
# Fetching the feeds of one provider

All sources of a provider are asked at once; the items of those that answer are put together newest
first. A source that fails costs its own items only, but it is counted.
-/

namespace VideoWall

inductive Abort where
  | cancelled
  | interrupted
  | endless
  | incomparable (why : Incomparable)
  /-- A source has neither a document nor a failure. -/
  | unanswered
deriving DecidableEq, Repr

namespace Fetch

def defaultUserAgent : String := "video-feeds/0.1"

/-- What is to be fetched from one provider, but for how long to wait: that is the session's. -/
structure Order where
  provider : Provider
  sources : List String
  template : String
  includeShorts : Bool
  workers : Int
deriving Repr

inductive Stop where
  | noContent (reason : NoContent) (failedCount : Nat)
  | partialContent (items : List Item) (failedCount : Nat)
  | aborted (a : Abort)
deriving Repr

def Order.urls (o : Order) : List String :=
  o.sources.map fun s => Source.feedUrl o.provider s o.includeShorts

def documentOf (provider : Provider) (url : String) (status : Int) (reason : String)
    (body : Feed.Body) : Except Failure Feed.Document :=
  if 400 ≤ status ∧ status < 600 then .error (.refused status reason url)
  else body.toFacts.document provider url

def outcome (provider : Provider) (session : Session) (url : String) :
    TaskOutcome Failure Feed.Document :=
  match session url with
  | .failure f => .done (.error f)
  | .page status reason body => .done (documentOf provider url status reason body)
  | .interrupted => .interrupted
  | .stalls => .stalls
  | .cancels => .cancels
  | .reenters => .done (.error .alreadyRunning)

def Order.job (env : Environment) (o : Order) : Pool.Job Failure Feed.Document where
  workers := o.workers
  refusal := env.refusal o.provider
  outcomes := o.urls.map (outcome o.provider env.session)

/-- The items of the sources that answered, in order, and the number of those that failed. The clock
shows `now n` at the entries of the `n`-th source. -/
def collect (now : Nat → Nat → Stamp) (provider : Provider) (template : String) :
    List (String × Option Feed.Document × Option Failure) →
      Logged (Except Abort (List Item × Nat))
  | [] => pure (.ok ([], 0))
  | (source, _, some failure) :: rest => do
    Logged.say (.feedFailed provider source failure)
    match ← collect (fun n => now (n + 1)) provider template rest with
    | .error a => return .error a
    | .ok (items, failed) => return .ok (items, failed + 1)
  | (_, some document, none) :: rest => do
    let mine ← document.items (now 0) provider template
    match ← collect (fun n => now (n + 1)) provider template rest with
    | .error a => return .error a
    | .ok (items, failed) => return .ok (mine ++ items, failed)
  | (_, none, none) :: _ => pure (.error .unanswered)

def finish (o : Order) (items : List Item) (failed : Nat) : Logged (Except Stop (List Item)) :=
  if items.isEmpty then pure (.error (.noContent (.nothingCollected o.provider.label) failed))
  else match Item.newestFirst items with
    | .error why => pure (.error (.aborted (.incomparable why)))
    | .ok sorted => do
      Logged.say (.collected o.provider sorted.length (o.sources.length - failed))
      if failed = 0 then return .ok sorted else return .error (.partialContent sorted failed)

def stopOf (o : Order) : PoolStop → Stop
  | .fault f => .noContent (.pool f) o.sources.length
  | .cancelled => .aborted .cancelled
  | .interrupted => .aborted .interrupted
  | .endless => .aborted .endless

def afterPool (clock : Clock) (o : Order) :
    Except PoolStop (Pool.Returned Failure Feed.Document) → Logged (Except Stop (List Item))
  | .error stop => pure (.error (stopOf o stop))
  | .ok returned => do
    let answers := o.sources.zip (returned.results.zip returned.errors)
    match ← collect (clock.reading o.provider) o.provider o.template answers with
    | .error a => return .error (.aborted a)
    | .ok (items, failed) => finish o items failed

/-- The requests that the workers of an order make: all of it, unless the pool cannot be started. -/
def requests (env : Environment) (o : Order) : List Notice :=
  if o.workers < 1 then []
  else
    let urls := match env.refusal o.provider with
      | some r => o.urls.take r.after
      | none => o.urls
    urls.map .requesting

/-- Fetches an order: its items newest first, or why they are not complete. -/
def run (env : Environment) (c : Cancellation) (o : Order) : Logged (Except Stop (List Item)) := do
  Logged.sayAll (requests env o)
  afterPool env.clock o (← Pool.run (o.job env) c)

end Fetch

end VideoWall
