import VideoWall.Fetch
import VideoWall.Settings.Basic

/-!
# The update cycle

One cycle asks every provider that has sources, merges the items newest first and cuts them to the
limit. What fails on the way is counted and named, and never costs the items of another provider.
-/

namespace VideoWall

structure CycleResult where
  /-- The items, newest first. -/
  items : List Item
  failedCount : Int
  status : Status
  providerErrors : List (Provider × String)
deriving Repr, Inhabited, DecidableEq

namespace Cycle

structure Gathered where
  items : List Item := []
  failedCount : Nat := 0
  providerErrors : List (Provider × String) := []
deriving Repr

def order (s : Settings) (provider : Provider) : Fetch.Order where
  provider := provider
  sources := s.sources provider
  template := s.videoUrlTemplate
  includeShorts := s.includeShorts
  workers := s.concurrency

def Gathered.add (g : Gathered) (provider : Provider) (items : List Item) : Logged Gathered := do
  Logged.say (.providerFetched provider items.length)
  return { g with items := g.items ++ items }

def Gathered.fail (g : Gathered) (provider : Provider) (message : String) (failed : Nat) : Gathered :=
  { g with
    failedCount := g.failedCount + failed
    providerErrors := g.providerErrors ++ [(provider, message)] }

def Gathered.absorb (g : Gathered) (provider : Provider) :
    Except Fetch.Stop (List Item) → Logged (Except Abort Gathered)
  | .ok items => return .ok (← g.add provider items)
  | .error (.partialContent items failed) => do
    Logged.say (.providerPartial provider failed)
    return .ok (← (g.fail provider (missingVideosText failed) failed).add provider items)
  | .error (.noContent reason failed) => do
    Logged.say (.providerFailed provider reason)
    return .ok (g.fail provider reason.message failed)
  | .error (.aborted a) => return .error a

def gatherFrom (env : Environment) (c : Cancellation) (s : Settings) (g : Gathered)
    (provider : Provider) : Logged (Except Abort Gathered) := do
  if (s.sources provider).isEmpty then return .ok g
  else g.absorb provider (← Fetch.run env c (order s provider))

/-- Gathers what a list of providers have, one after the other. -/
def gather (env : Environment) (c : Cancellation) (s : Settings) :
    Gathered → List Provider → Logged (Except Abort Gathered)
  | g, [] => pure (.ok g)
  | g, p :: ps => do
    match ← gatherFrom env c s g p with
    | .error a => return .error a
    | .ok g => gather env c s g ps

def statusOf (providerErrors : List (Provider × String)) (items : List Item) : Status :=
  if providerErrors.isEmpty then .complete
  else if items.isEmpty then .nothing
  else .someMissing

/-- The first items, as many as a limit allows; none for a limit that is negative. -/
def applyLimit {α : Type} (items : List α) (limit : Int) : List α :=
  items.take limit.toNat

def newestNotices (items : List Item) : List Notice :=
  (items.take 3).zipIdx.map fun (item, index) => .newest index item

def finish (s : Settings) (g : Gathered) : Logged (Except Abort CycleResult) :=
  match Item.newestFirst g.items with
  | .error why => pure (.error (.incomparable why))
  | .ok sorted => do
    let merged := applyLimit sorted (Settings.effectiveLimit s.limit)
    let status := statusOf g.providerErrors merged
    Logged.say (.cycleFinished merged.length status)
    Logged.sayAll (newestNotices merged)
    return .ok ⟨merged, g.failedCount, status, g.providerErrors⟩

def conclude (s : Settings) : Except Abort Gathered → Logged (Except Abort CycleResult)
  | .error a => return .error a
  | .ok g => finish s g

def run (env : Environment) (c : Cancellation) (s : Settings) :
    Logged (Except Abort CycleResult) := do
  Logged.say (.cycleStarted s.channels s.playlists s.rumbleChannels)
  conclude s (← gather env c s {} Provider.all)

end Cycle

end VideoWall
