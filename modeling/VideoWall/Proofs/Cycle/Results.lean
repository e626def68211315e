import VideoWall.Proofs.Cycle.Gathering

/-!
# What every result of a cycle is like

Whatever happens to a cycle, cancellations, interruptions and refused pools included: if it comes to a
result, the items of this result carry instants, stand newest first and are no more than the limit
allows. Main statement: `CanComeTo.fits`.
-/

namespace VideoWall

namespace Settings

theorem effectiveLimit_pos (limit : Option Int) : 0 < effectiveLimit limit := by
  unfold effectiveLimit
  cases limit with
  | none => decide
  | some n =>
    by_cases hn : n ≤ 0
    · simp only [if_pos hn]
      decide
    · simp only [if_neg hn]
      omega

theorem effectiveLimit_withDefaults (s : Settings) :
    effectiveLimit s.withDefaults.limit = effectiveLimit s.limit := by
  have hpos := effectiveLimit_pos s.limit
  show (if (effectiveLimit s.limit : Int) ≤ 0 then defaultLimit
    else (effectiveLimit s.limit : Int).toNat) = effectiveLimit s.limit
  rw [if_neg (by omega), Int.toNat_natCast]

end Settings

/-- Whether the items of a result carry instants, stand newest first and keep to the limit. -/
structure CycleResult.Fits (s : Settings) (r : CycleResult) : Prop where
  zoned : ∀ i ∈ r.items, i.kind = .zoned
  ordered : r.items.Pairwise fun a b => b.instant ≤ a.instant
  length_le : r.items.length ≤ Settings.effectiveLimit s.limit

namespace Fetch

variable {p : Provider} {template : String}

/-! ## 1. Fetches -/

theorem collect_cons_ok {now : Nat → Nat → Stamp}
    {answer : String × Option Feed.Document × Option Failure}
    {rest : List (String × Option Feed.Document × Option Failure)} {items : List Item} {failed : Nat}
    (h : (collect now p template (answer :: rest)).value = .ok (items, failed)) :
    ∃ others count, (collect (fun n => now (n + 1)) p template rest).value = .ok (others, count) ∧
      (items = others ∨ ∃ d : Feed.Document, items = (d.items (now 0) p template).value ++ others) := by
  obtain ⟨source, document, failure⟩ := answer
  cases failure with
  | some f =>
    rw [collect, Logged.value_bind, Logged.value_bind] at h
    cases hrest : (collect (fun n => now (n + 1)) p template rest).value with
    | error a =>
      rw [hrest] at h
      cases h
    | ok collected =>
      rw [hrest] at h
      obtain ⟨rfl, -⟩ := Prod.mk.inj (Except.ok.inj h)
      exact ⟨_, _, rfl, .inl rfl⟩
  | none =>
    cases document with
    | none => cases h
    | some d =>
      rw [collect, Logged.value_bind, Logged.value_bind] at h
      cases hrest : (collect (fun n => now (n + 1)) p template rest).value with
      | error a =>
        rw [hrest] at h
        cases h
      | ok collected =>
        rw [hrest] at h
        obtain ⟨rfl, -⟩ := Prod.mk.inj (Except.ok.inj h)
        exact ⟨_, _, rfl, .inr ⟨d, rfl⟩⟩

theorem kind_of_mem_collect (answers : List (String × Option Feed.Document × Option Failure))
    {now : Nat → Nat → Stamp} (hnow : ∀ n m, (now n m).isZoned = true) {items : List Item}
    {failed : Nat} (h : (collect now p template answers).value = .ok (items, failed)) :
    ∀ i ∈ items, i.kind = .zoned := by
  induction answers generalizing now items failed with
  | nil =>
    obtain ⟨rfl, -⟩ := Prod.mk.inj (Except.ok.inj h)
    exact fun i hi => absurd hi List.not_mem_nil
  | cons answer rest ih =>
    obtain ⟨others, count, hrest, hitems⟩ := collect_cons_ok h
    have hothers := ih (fun n m => hnow (n + 1) m) hrest
    rcases hitems with rfl | ⟨d, rfl⟩
    · exact hothers
    · intro i hi
      rcases List.mem_append.mp hi with hi | hi
      · exact Feed.Document.kind_of_mem_items (hnow 0) i hi
      · exact hothers i hi

theorem kind_of_mem_afterPool (clock : Clock) (o : Order)
    (how : Except PoolStop (Pool.Returned Failure Feed.Document)) :
    ∀ i ∈ Cycle.addedItems (afterPool clock o how).value, i.kind = .zoned := by
  cases how with
  | error stop =>
    -- A pool that stopped early leaves no item.
    have hnothing : Cycle.addedItems (.error (stopOf o stop)) = [] := by
      cases stop <;> rfl
    intro i hi
    exact absurd (hnothing ▸ hi) List.not_mem_nil
  | ok returned =>
    have hclock : ∀ n m, (clock.reading o.provider n m).isZoned = true :=
      fun n m => Stamp.isZoned_of_offset (clock.offset_reading o.provider n m)
    unfold afterPool
    rw [Logged.value_bind]
    cases hcollected : (collect (clock.reading o.provider) o.provider o.template
        (o.sources.zip (returned.results.zip returned.errors))).value with
    | error a => exact fun i hi => absurd hi List.not_mem_nil
    | ok collected =>
      obtain ⟨items, failed⟩ := collected
      have hitems := kind_of_mem_collect _ hclock hcollected
      intro i hi
      rw [show Cycle.addedItems _ = _ from congrArg _ (finish_of_zoned (o := o) hitems failed).1,
        Cycle.addedItems_ending] at hi
      exact hitems i ((Item.isNewestFirst_sortByInstant items).perm.mem_iff.mp hi)

end Fetch

namespace Cycle

variable {env : Environment} {s : Settings}

/-! ## 2. Gatherings -/

theorem Gathered.items_absorb {g g' : Gathered} {p : Provider}
    {fetched : Except Fetch.Stop (List Item)} (h : (g.absorb p fetched).value = .ok g') :
    g'.items = g.items ++ addedItems fetched := by
  cases fetched with
  | ok items =>
    obtain rfl := Except.ok.inj h
    rfl
  | error stop =>
    cases stop with
    | noContent reason failed =>
      obtain rfl := Except.ok.inj h
      exact (List.append_nil _).symm
    | partialContent items failed =>
      obtain rfl := Except.ok.inj h
      rfl
    | aborted a => cases h

theorem Gathered.kind_of_mem_absorb {g g' : Gathered} {p : Provider} (o : Fetch.Order)
    {how : Except PoolStop (Pool.Returned Failure Feed.Document)}
    (h : (g.absorb p (Fetch.afterPool env.clock o how).value).value = .ok g')
    (hg : ∀ i ∈ g.items, i.kind = .zoned) : ∀ i ∈ g'.items, i.kind = .zoned := by
  intro i hi
  rw [Gathered.items_absorb h] at hi
  rcases List.mem_append.mp hi with hi | hi
  · exact hg i hi
  · exact Fetch.kind_of_mem_afterPool env.clock o how i hi

theorem Gathers.kind_of_mem {before after : Bool} {g g' : Gathered} {ps : List Provider}
    {r : Logged (Except Abort Gathered)} (h : Gathers env s before g ps after r)
    (hg : ∀ i ∈ g.items, i.kind = .zoned) (hr : r.value = .ok g') :
    ∀ i ∈ g'.items, i.kind = .zoned := by
  -- Each fetch adds items with instants to those gathered before; an abort leaves no gathering.
  induction h with
  | done g _ =>
    obtain rfl := Except.ok.inj hr
    exact hg
  | skip _ _ ih => exact ih hg hr
  | stop _ _ _ => cases hr
  | next _ hends habsorb _ ih =>
    obtain ⟨how, -, rfl⟩ := hends
    exact ih (Gathered.kind_of_mem_absorb _ habsorb hg) hr

theorem kind_of_mem_gather {c : Cancellation} (ps : List Provider) {g g' : Gathered}
    (hg : ∀ i ∈ g.items, i.kind = .zoned) (h : (gather env c s g ps).value = .ok g') :
    ∀ i ∈ g'.items, i.kind = .zoned := by
  induction ps generalizing g with
  | nil =>
    obtain rfl := Except.ok.inj h
    exact hg
  | cons p ps ih =>
    rw [gather, Logged.value_bind] at h
    cases hfirst : (gatherFrom env c s g p).value with
    | error a =>
      rw [hfirst] at h
      cases h
    | ok between =>
      rw [hfirst] at h
      refine ih ?_ h
      unfold gatherFrom at hfirst
      split at hfirst
      · obtain rfl := Except.ok.inj hfirst
        exact hg
      · exact Gathered.kind_of_mem_absorb _ hfirst hg

/-! ## 3. Results -/

theorem fits_conclude {gathered : Except Abort Gathered} {r : CycleResult}
    (hgathered : ∀ g, gathered = .ok g → ∀ i ∈ g.items, i.kind = .zoned)
    (h : (conclude s gathered).value = .ok r) : r.Fits s := by
  cases gathered with
  | error a => cases h
  | ok g =>
    have hzoned := hgathered g rfl
    have hsorted := Item.isNewestFirst_sortByInstant g.items
    have hfinish : (finish s g).value = .ok r := h
    rw [finish, Item.newestFirst_of_zoned hzoned] at hfinish
    obtain rfl := Except.ok.inj hfinish
    have hsub : (applyLimit (Item.sortByInstant g.items) (Settings.effectiveLimit s.limit)).Sublist
        (Item.sortByInstant g.items) := List.take_sublist _ _
    constructor
    · intro i hi
      exact hzoned i (hsorted.perm.mem_iff.mp (hsub.subset hi))
    · exact hsorted.ordered.sublist hsub
    · exact List.length_take_le _ _

theorem CanComeTo.fits {r : CycleResult} (h : CanComeTo s r) : r.Fits s := by
  have hempty : ∀ i ∈ ({} : Gathered).items, i.kind = .zoned :=
    fun i hi => absurd hi List.not_mem_nil
  obtain ⟨env, ⟨before, after, _, ⟨gathered, hgathers, rfl⟩, hr⟩ | ⟨c, hr⟩⟩ := h
  · exact fits_conclude (fun g hg => hgathers.kind_of_mem hempty hg) hr
  · exact fits_conclude (fun g hg => kind_of_mem_gather Provider.all hempty hg) hr

end Cycle

end VideoWall
