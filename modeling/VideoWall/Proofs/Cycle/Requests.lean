import VideoWall.Cycle.Steps
import VideoWall.Proofs.Pool.Alignment

/-!
# What a cycle requests

The runs of a cycle together with the addresses that their tasks are given, in order. Without the addresses
they are the ends of the cycle: `exists_endsAsking_iff`.
-/

namespace VideoWall

/-- Whether the fetch of an order can come to something, with the addresses that it requests on the way, given
whether the cycle is cancelled at its start and whether it is at its end. -/
def Fetch.Order.EndsAsking (env : Environment) (o : Order) (before after : Bool)
    (fetched : Logged (Except Stop (List Item))) (asked : List String) : Prop :=
  ∃ (m : Pool.Moment Failure Feed.Document)
    (how : Logged (Except PoolStop (Pool.Returned Failure Feed.Document))),
    Pool.Leads (o.job env) (.first before (o.job env).outcomes.length) m ∧ m.isCancelled = after ∧
      m.stage = .ended how ∧ fetched = how >>= afterPool env.clock o ∧ asked = m.calls o.urls

theorem Fetch.Order.exists_endsAsking_iff {env : Environment} {o : Order} {before after : Bool}
    {fetched : Logged (Except Stop (List Item))} :
    (∃ asked, o.EndsAsking env before after fetched asked) ↔ o.EndsWith env before after fetched := by
  constructor
  · rintro ⟨asked, m, how, hleads, hcan, hs, hfetched, -⟩
    exact ⟨how, ⟨m, hleads, hcan, hs⟩, hfetched⟩
  · rintro ⟨how, ⟨m, hleads, hcan, hs⟩, hfetched⟩
    exact ⟨_, m, how, hleads, hcan, hs, hfetched, rfl⟩

namespace Cycle

/-- Whether the gathering from a list of providers can come to something, with the addresses that it requests
on the way: those of each fetch behind those of the fetches before it. -/
inductive GathersAsking (env : Environment) (s : Settings) : Bool → Gathered → List Provider → Bool →
    Logged (Except Abort Gathered) → List String → Prop where
  | done {before after : Bool} (g : Gathered) : (before = true → after = true) →
      GathersAsking env s before g [] after (pure (.ok g)) []
  | skip {before after : Bool} {g : Gathered} {p : Provider} {ps : List Provider}
      {r : Logged (Except Abort Gathered)} {asked : List String} : s.sources p = [] →
      GathersAsking env s before g ps after r asked → GathersAsking env s before g (p :: ps) after r asked
  | stop {before after : Bool} {g : Gathered} {p : Provider} {ps : List Provider} {a : Abort}
      {fetched : Logged (Except Fetch.Stop (List Item))} {asked : List String} : s.sources p ≠ [] →
      (order s p).EndsAsking env before after fetched asked →
      (g.absorb p fetched.value).value = .error a →
      GathersAsking env s before g (p :: ps) after (do
        let _ ← g.absorb p (← fetched)
        return .error a) asked
  | next {before between after : Bool} {g g' : Gathered} {p : Provider} {ps : List Provider}
      {fetched : Logged (Except Fetch.Stop (List Item))} {r : Logged (Except Abort Gathered)}
      {asked asked' : List String} : s.sources p ≠ [] →
      (order s p).EndsAsking env before between fetched asked →
      (g.absorb p fetched.value).value = .ok g' → GathersAsking env s between g' ps after r asked' →
      GathersAsking env s before g (p :: ps) after (do
        let _ ← g.absorb p (← fetched)
        r) (asked ++ asked')

variable {env : Environment} {s : Settings} {before after : Bool} {g : Gathered} {ps : List Provider}
  {r : Logged (Except Abort Gathered)}

theorem exists_gathersAsking_iff :
    (∃ asked, GathersAsking env s before g ps after r asked) ↔ Gathers env s before g ps after r := by
  constructor
  · rintro ⟨asked, h⟩
    induction h with
    | done g hmono => exact .done g hmono
    | skip hs _ ih => exact .skip hs ih
    | stop hs hends habort => exact .stop hs (Fetch.Order.exists_endsAsking_iff.mp ⟨_, hends⟩) habort
    | next hs hends habsorb _ ih =>
      exact .next hs (Fetch.Order.exists_endsAsking_iff.mp ⟨_, hends⟩) habsorb ih
  · intro h
    induction h with
    | done g hmono => exact ⟨_, .done g hmono⟩
    | skip hs _ ih =>
      obtain ⟨asked, hr⟩ := ih
      exact ⟨asked, .skip hs hr⟩
    | stop hs hends habort =>
      obtain ⟨asked, hends⟩ := Fetch.Order.exists_endsAsking_iff.mpr hends
      exact ⟨asked, .stop hs hends habort⟩
    | next hs hends habsorb _ ih =>
      obtain ⟨asked, hends⟩ := Fetch.Order.exists_endsAsking_iff.mpr hends
      obtain ⟨asked', hr⟩ := ih
      exact ⟨asked ++ asked', .next hs hends habsorb hr⟩

/-- Whether a cycle can come to a result or an abort, with the addresses that it requests on the way, given
whether it is cancelled at its start and whether it is at its end. -/
def EndsAsking (env : Environment) (s : Settings) (before after : Bool)
    (value : Except Abort CycleResult) (asked : List String) : Prop :=
  ∃ gathered, GathersAsking env s before {} Provider.all after gathered asked ∧
    (conclude s gathered.value).value = value

theorem exists_endsAsking_iff {value : Except Abort CycleResult} :
    (∃ asked, EndsAsking env s before after value asked) ↔
      ∃ ended, EndsWith env s before after ended ∧ ended.value = value := by
  constructor
  · rintro ⟨asked, gathered, hgathers, rfl⟩
    exact ⟨_, ⟨gathered, exists_gathersAsking_iff.mp ⟨asked, hgathers⟩, rfl⟩, rfl⟩
  · rintro ⟨ended, ⟨gathered, hgathers, rfl⟩, rfl⟩
    obtain ⟨asked, hgathers⟩ := exists_gathersAsking_iff.mpr hgathers
    exact ⟨asked, gathered, hgathers, rfl⟩

end Cycle

end VideoWall
