import VideoWall.Proofs.Cycle.Requests
import VideoWall.Proofs.Cycle.Results

/-!
# Defaults

A cycle depends on its settings through what they order from each provider and through the limit that is in
force. Neither changes when defaults are filled in, or when playlists are named among the channels by their
marks. Main statement: `defaults_are_transparent`.
-/

namespace VideoWall

namespace Settings

variable {s s' : Settings} {default n : Int}

/-! ## 1. Filling in defaults -/

/-- Whether a number is a fold, or says that there is none. -/
def IsFold (n : Int) : Prop := n = -1 ∨ 1 ≤ n

theorem effectiveFold_of_isFold (h : IsFold n) : effectiveFold default n = n := by
  unfold IsFold at h
  exact if_neg (by omega)

theorem isFold_effectiveFold (h : IsFold default) (n : Int) : IsFold (effectiveFold default n) := by
  unfold effectiveFold
  split
  · exact h
  · unfold IsFold
    omega

theorem effectiveFold_effectiveFold (h : IsFold default) (n : Int) :
    effectiveFold default (effectiveFold default n) = effectiveFold default n :=
  effectiveFold_of_isFold (isFold_effectiveFold h n)

theorem isFold_seven : IsFold 7 := .inr (by decide)

theorem isFold_four : IsFold 4 := .inr (by decide)

theorem withDefaults_withDefaults (s : Settings) : s.withDefaults.withDefaults = s.withDefaults := by
  have hlimit := s.effectiveLimit_withDefaults
  unfold withDefaults at hlimit ⊢
  simp only [hlimit, effectiveFold_effectiveFold isFold_seven, effectiveFold_effectiveFold isFold_four]

def withPlaylistsAsChannels (s : Settings) : Settings :=
  { s with channels := s.channels ++ s.playlists.map Source.ofPlaylist, playlists := [] }

/-! ## 2. Settings that order the same -/

/-- Whether settings order the same from each provider as others, and have the same limit in force. -/
structure OrdersLike (s' s : Settings) : Prop where
  order_eq : ∀ p, Cycle.order s' p = Cycle.order s p
  limit_eq : effectiveLimit s'.limit = effectiveLimit s.limit

theorem ordersLike_withDefaults (s : Settings) : s.withDefaults.OrdersLike s where
  order_eq p := by cases p <;> rfl
  limit_eq := s.effectiveLimit_withDefaults

theorem ordersLike_withPlaylistsAsChannels (s : Settings) : s.withPlaylistsAsChannels.OrdersLike s where
  order_eq p := by
    -- The marks are there already, and no playlist is left that would get another.
    have hsources : s.withPlaylistsAsChannels.sources p = s.sources p := by
      cases p with
      | youtube => exact List.append_nil _
      | rumble => rfl
    unfold Cycle.order
    rw [hsources]
    rfl
  limit_eq := rfl

namespace OrdersLike

open VideoWall.Cycle

variable {env : Environment} {c : Cancellation} {before after : Bool} {g : Gathered} {ps : List Provider}

theorem symm (h : s'.OrdersLike s) : s.OrdersLike s' :=
  ⟨fun p => (h.order_eq p).symm, h.limit_eq.symm⟩

theorem sources_eq (h : s'.OrdersLike s) (p : Provider) : s'.sources p = s.sources p :=
  congrArg Fetch.Order.sources (h.order_eq p)

theorem gatherFrom_eq (h : s'.OrdersLike s) (g : Gathered) (p : Provider) :
    gatherFrom env c s' g p = gatherFrom env c s g p := by
  unfold gatherFrom
  rw [h.sources_eq, h.order_eq]

theorem gather_eq (h : s'.OrdersLike s) (g : Gathered) (ps : List Provider) :
    gather env c s' g ps = gather env c s g ps := by
  induction ps generalizing g with
  | nil => rfl
  | cons p ps ih => simp only [gather, h.gatherFrom_eq, ih]

theorem conclude_eq (h : s'.OrdersLike s) (gathered : Except Abort Gathered) :
    conclude s' gathered = conclude s gathered := by
  cases gathered with
  | error a => rfl
  | ok g =>
    show finish s' g = finish s g
    unfold finish
    rw [h.limit_eq]

theorem gathersAsking (h : s'.OrdersLike s) {r : Logged (Except Abort Gathered)} {asked : List String}
    (hgathers : GathersAsking env s' before g ps after r asked) :
    GathersAsking env s before g ps after r asked := by
  -- Fetch by fetch; what is gathered on the way is the same, as it comes from the same orders.
  induction hgathers with
  | done g hmono => exact .done g hmono
  | skip hs _ ih =>
    rw [h.sources_eq] at hs
    exact .skip hs ih
  | stop hs hends habort =>
    rw [h.sources_eq] at hs
    rw [h.order_eq] at hends
    exact .stop hs hends habort
  | next hs hends habsorb _ ih =>
    rw [h.sources_eq] at hs
    rw [h.order_eq] at hends
    exact .next hs hends habsorb ih

theorem endsAsking (h : s'.OrdersLike s) {value : Except Abort CycleResult} {asked : List String}
    (hends : EndsAsking env s' before after value asked) : EndsAsking env s before after value asked := by
  obtain ⟨gathered, hgathers, hvalue⟩ := hends
  rw [h.conclude_eq] at hvalue
  exact ⟨gathered, h.gathersAsking hgathers, hvalue⟩

theorem value_run (h : s'.OrdersLike s) (env : Environment) (c : Cancellation) :
    (run env c s').value = (run env c s).value := by
  simp only [run, Logged.value_bind, h.gather_eq, h.conclude_eq]

theorem requested_run (h : s'.OrdersLike s) (env : Environment) (c : Cancellation) :
    (run env c s').requested = (run env c s).requested := by
  -- The notices at the start may count different channels and playlists, but they are no requests.
  have hstart : ∀ channels playlists rumbleChannels,
      (Notice.cycleStarted channels playlists rumbleChannels).requested? = none := fun _ _ _ => rfl
  simp only [run, Logged.requested, Logged.notices_bind, Logged.notices_say, List.filterMap_append,
    List.filterMap_cons, hstart, h.gather_eq, h.conclude_eq]

end OrdersLike

/-! ## 3. The same cycles -/

/-- Whether a cycle with settings comes to the same result or the same abort as with others and requests the
same addresses as often, whatever it meets: as it is computed, and in the runs of its pools with each of its
cancellations. -/
structure CyclesLike (s' s : Settings) : Prop where
  value_run : ∀ env c, (Cycle.run env c s').value = (Cycle.run env c s).value
  requested_run : ∀ env c, (Cycle.run env c s').requested = (Cycle.run env c s).requested
  endsAsking_iff : ∀ env before after value asked,
    Cycle.EndsAsking env s' before after value asked ↔ Cycle.EndsAsking env s before after value asked

theorem OrdersLike.cyclesLike (h : s'.OrdersLike s) : s'.CyclesLike s where
  value_run := h.value_run
  requested_run := h.requested_run
  endsAsking_iff _ _ _ _ _ := ⟨h.endsAsking, h.symm.endsAsking⟩

/-- Defaults make no difference to a cycle, nor does it matter whether a playlist is named as such or among
the channels by its mark. Filling defaults in twice is filling them in once; it changes the limit, which is at
least one afterwards, and the two folds, which are folds or none afterwards and stay if they were before. -/
theorem defaults_are_transparent (s : Settings) :
    s.withDefaults.CyclesLike s ∧ s.withPlaylistsAsChannels.CyclesLike s ∧
    s.withDefaults.withDefaults = s.withDefaults ∧
    ∃ limit fold rows : Int,
      s.withDefaults =
        { s with limit := some limit, collapseAfter := fold, collapseAfterRows := rows } ∧
      1 ≤ limit ∧ IsFold fold ∧ IsFold rows ∧
      (IsFold s.collapseAfter → fold = s.collapseAfter) ∧
      (IsFold s.collapseAfterRows → rows = s.collapseAfterRows) := by
  refine ⟨s.ordersLike_withDefaults.cyclesLike, s.ordersLike_withPlaylistsAsChannels.cyclesLike,
    s.withDefaults_withDefaults, _, _, _, rfl, ?_, isFold_effectiveFold isFold_seven _,
    isFold_effectiveFold isFold_four _, effectiveFold_of_isFold, effectiveFold_of_isFold⟩
  have hpos := effectiveLimit_pos s.limit
  omega

end Settings

end VideoWall
