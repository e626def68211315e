import VideoWall.Cycle
import VideoWall.Pool.Steps

/-!
# Cycles over all runs of their pools

What a fetch and a cycle can come to when the tasks of their pools finish in any order and the cycle
can be cancelled at any moment. Only the notices of the caller of the pools are told: the workers note
their requests at any time between.
-/

namespace VideoWall

/-- Whether the fetch of an order can come to something, given whether the cycle is cancelled at its
start and whether it is at its end. -/
def Fetch.Order.EndsWith (env : Environment) (o : Order) (before after : Bool)
    (fetched : Logged (Except Stop (List Item))) : Prop :=
  ∃ how, (o.job env).EndsWith before after how ∧ fetched = how >>= afterPool env.clock o

namespace Cycle

/-- Whether the gathering from a list of providers can come to something, given what has been gathered
before, and whether the cycle is cancelled at its start and at its end. -/
inductive Gathers (env : Environment) (s : Settings) :
    Bool → Gathered → List Provider → Bool → Logged (Except Abort Gathered) → Prop where
  | done {before after : Bool} (g : Gathered) : (before = true → after = true) →
      Gathers env s before g [] after (pure (.ok g))
  /-- A provider without sources is not asked. -/
  | skip {before after : Bool} {g : Gathered} {p : Provider} {ps : List Provider}
      {r : Logged (Except Abort Gathered)} : s.sources p = [] →
      Gathers env s before g ps after r → Gathers env s before g (p :: ps) after r
  | stop {before after : Bool} {g : Gathered} {p : Provider} {ps : List Provider} {a : Abort}
      {fetched : Logged (Except Fetch.Stop (List Item))} : s.sources p ≠ [] →
      (order s p).EndsWith env before after fetched →
      (g.absorb p fetched.value).value = .error a →
      Gathers env s before g (p :: ps) after (do
        let _ ← g.absorb p (← fetched)
        return .error a)
  | next {before between after : Bool} {g g' : Gathered} {p : Provider} {ps : List Provider}
      {fetched : Logged (Except Fetch.Stop (List Item))} {r : Logged (Except Abort Gathered)} :
      s.sources p ≠ [] → (order s p).EndsWith env before between fetched →
      (g.absorb p fetched.value).value = .ok g' → Gathers env s between g' ps after r →
      Gathers env s before g (p :: ps) after (do
        let _ ← g.absorb p (← fetched)
        r)

/-- Whether a cycle can come to something, given whether it is cancelled at its start and whether it is
at its end. -/
def EndsWith (env : Environment) (s : Settings) (before after : Bool)
    (ended : Logged (Except Abort CycleResult)) : Prop :=
  ∃ gathered, Gathers env s before {} Provider.all after gathered ∧
    ended = (do
      Logged.say (.cycleStarted s.channels s.playlists s.rumbleChannels)
      conclude s (← gathered))

/-- Whether some cycle with given settings can come to a result: by some run of its pools, or as it is
computed. -/
def CanComeTo (s : Settings) (result : CycleResult) : Prop :=
  ∃ env, (∃ before after ended, EndsWith env s before after ended ∧ ended.value = .ok result) ∨
    ∃ c, (run env c s).value = .ok result

end Cycle

end VideoWall
