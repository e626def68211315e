import Mathlib.Data.List.FinRange
import VideoWall.Proofs.Item.FirstClash
import VideoWall.Proofs.Sorting.Insertion

/-!
# Lists without an order

Whichever stable sort compares the items, it fails on the lists without an order and on no others. If a list
has an order, no two of its items clash. If it has none, the sort comes upon a clash wherever the odd item
stands: its questions connect all places of the list, and answered ones connect items of one kind only. Main
statement: `every_sort_fails_iff_incomparable`.
-/

namespace VideoWall.Item

variable {items : List Item}

/-! ## 1. Inserting as a sort by comparisons -/

theorem attempt_insert {ι : Type} (item : ι → Item) (p : ι) (places : List ι) :
    ((Comparing.insert p places).attempt fun i j => older? (item i) (item j)).map (List.map item) =
      insert? (item p) (places.map item) := by
  induction places with
  | nil => rfl
  | cons q rest ih =>
    rw [Comparing.insert, Comparing.attempt, List.map_cons, insert?]
    cases older? (item p) (item q) with
    | error why => rfl
    | ok isOlder =>
      cases isOlder with
      | false => rfl
      | true =>
        simp only [if_true, Comparing.attempt_andThen, ← ih]
        cases (Comparing.insert p rest).attempt fun i j => older? (item i) (item j) <;> rfl

theorem attempt_insertAll {ι : Type} (item : ι → Item) (places : List ι) :
    ((Comparing.insertAll places).attempt fun i j => older? (item i) (item j)).map (List.map item) =
      insertAll? (places.map item) := by
  induction places with
  | nil => rfl
  | cons p rest ih =>
    rw [Comparing.insertAll, Comparing.attempt_andThen, List.map_cons, insertAll?, ← ih]
    cases (Comparing.insertAll rest).attempt fun i j => older? (item i) (item j) with
    | error why => rfl
    | ok sorted => exact attempt_insert item p sorted

theorem newestFirst_eq_newestFirstBy_insertion (items : List Item) :
    newestFirst items = newestFirstBy .insertion items := by
  have hinsert := attempt_insertAll items.reverse.get (List.finRange items.reverse.length).reverse
  rw [List.map_reverse, List.map_get_finRange, List.reverse_reverse] at hinsert
  rw [newestFirst_eq_insertAll?, ← hinsert, newestFirstBy, oldestFirstBy]
  show _ = (Except.map _ (((Comparing.insertAll _).andThen _).attempt (olderAt? items.reverse))).map _
  rw [Comparing.attempt_andThen]
  show Except.map _ ((Comparing.insertAll _).attempt (olderAt? items.reverse)) = _
  cases (Comparing.insertAll (List.finRange items.reverse.length).reverse).attempt
      (olderAt? items.reverse) with
  | error why => rfl
  | ok order =>
    -- The order is read backwards twice.
    simp only [Except.map, Comparing.attempt, List.map_reverse, List.reverse_reverse]

/-! ## 2. What a sort finds -/

def instants (items : List Item) (i : Fin items.length) : Int :=
  (items.get i).instant

theorem older?_eq_error_iff {a b : Item} {why : Incomparable} :
    older? a b = .error why ↔ clash? a.kind b.kind = some why := by
  rw [older?]
  cases clash? a.kind b.kind <;> simp

theorem older?_eq_ok_iff {a b : Item} {isOlder : Bool} :
    older? a b = .ok isOlder ↔
      clash? a.kind b.kind = none ∧ isOlder = decide (a.instant < b.instant) := by
  rw [older?]
  cases clash? a.kind b.kind <;> simp [eq_comm]

theorem hasClash_of_ne {i j : Fin items.length} {why : Incomparable} (hne : i ≠ j)
    (h : clash? (items.get i).kind (items.get j).kind = some why) : HasClash items why := by
  have hi := List.perm_cons_erase (List.mem_finRange i)
  have hj : j ∈ (List.finRange items.length).erase i :=
    (List.mem_erase_of_ne hne.symm).mpr (List.mem_finRange j)
  have hplaces := (hi.trans ((List.perm_cons_erase hj).cons i)).map items.get
  rw [List.map_get_finRange] at hplaces
  exact ⟨_, _, _, hplaces, h⟩

theorem isNewestFirst_of_isStableOrder {order : List (Fin items.length)}
    (h : IsStableOrder (instants items) order) :
    IsNewestFirst items.reverse (order.map items.get).reverse where
  perm := by
    have hperm := h.perm.map items.get
    rw [List.map_get_finRange] at hperm
    exact ((List.reverse_perm _).trans hperm).trans (List.reverse_perm items).symm
  ordered := by
    rw [List.pairwise_reverse, List.pairwise_map]
    refine h.ordered.imp ?_
    intro i j hij
    unfold instants at hij
    omega
  stable t := by
    have hfilter := congrArg (List.map items.get) (h.filter_eq t)
    have hget : ∀ places : List (Fin items.length),
        (places.filter (instants items · == t)).map items.get = atInstant t (places.map items.get) := by
      intro places
      rw [atInstant, List.filter_map]
      rfl
    rw [hget, hget, List.map_get_finRange] at hfilter
    rw [atInstant, atInstant, List.filter_reverse, List.filter_reverse]
    exact congrArg List.reverse hfilter

/-! ## 3. What a sort has to compare -/

/-- Whether a sort compares only items of a list that have an order. -/
def MeetsNoClash (s : StableSort) (items : List Item) : Prop :=
  ∀ pair ∈ (s.sort items.length).asked (isBelow (instants items)),
    clash? (items.get pair.1).kind (items.get pair.2).kind = none

theorem MeetsNoClash.known {s : StableSort} (h : MeetsNoClash s items) {p q : Fin items.length}
    (hne : p ≠ q) : (items.get p).kind ≠ .unknown := by
  -- The item stands on one side of the list and all others on the other, so it is compared with one of them.
  have hside : decide (p = p) ≠ decide (q = p) := by simp [hne.symm]
  obtain ⟨pair, hpair, hacross⟩ :=
    s.exists_asked_across (instants items) (fun i => decide (i = p)) hside
  obtain ⟨hkind, hknown⟩ := clash?_eq_none_iff.mp (h pair hpair)
  by_cases hfirst : pair.1 = p
  · rwa [hfirst] at hknown
  · by_cases hsecond : pair.2 = p
    · rwa [hkind, hsecond] at hknown
    · simp [hfirst, hsecond] at hacross

theorem MeetsNoClash.kind_eq {s : StableSort} (h : MeetsNoClash s items) (p q : Fin items.length) :
    (items.get q).kind = (items.get p).kind := by
  by_contra hne
  -- The items of one kind stand on one side of the list and all others on the other, so two of different
  -- kinds are compared.
  have hside : ((items.get p).kind == (items.get p).kind) ≠
      ((items.get q).kind == (items.get p).kind) := by
    rw [beq_self_eq_true]
    exact fun heq => hne (beq_iff_eq.mp heq.symm)
  obtain ⟨pair, hpair, hacross⟩ := s.exists_asked_across (instants items)
    (fun i => (items.get i).kind == (items.get p).kind) hside
  rw [(clash?_eq_none_iff.mp (h pair hpair)).1] at hacross
  exact hacross rfl

theorem MeetsNoClash.comparable {s : StableSort} (h : MeetsNoClash s items) :
    items.length ≤ 1 ∨ AreOfOneKind items := by
  by_cases hshort : items.length ≤ 1
  · exact .inl hshort
  · right
    let first : Fin items.length := ⟨0, by omega⟩
    have hne : first ≠ ⟨1, by omega⟩ := by simp [first]
    refine ⟨(items.get first).kind, h.known hne, ?_⟩
    intro i hi
    obtain ⟨q, rfl⟩ := List.mem_iff_get.mp hi
    exact h.kind_eq first q

/-- A sort that meets no clash finds the stable order; otherwise it fails with a clash of two items. -/
theorem oldestFirstBy_cases (s : StableSort) (items : List Item) :
    (MeetsNoClash s items ∧ ∃ order, IsStableOrder (instants items) order ∧
      oldestFirstBy s items = .ok (order.map items.get)) ∨
    ∃ why, HasClash items why ∧ oldestFirstBy s items = .error why := by
  have hagree : ∀ i j b, olderAt? items i j = .ok b → b = isBelow (instants items) i j :=
    fun i j b hb => (older?_eq_ok_iff.mp hb).2
  rcases (s.sort items.length).attempt_cases hagree with
    ⟨hall, hattempt⟩ | ⟨pair, hpair, why, hwhy, hattempt⟩
  · left
    refine ⟨fun pair hpair => (older?_eq_ok_iff.mp (hall pair hpair)).1, _,
      s.isStableOrder _ (instants items), ?_⟩
    rw [oldestFirstBy, hattempt]
    rfl
  · right
    refine ⟨why, hasClash_of_ne (s.asked_ne _ _ pair hpair) (older?_eq_error_iff.mp hwhy), ?_⟩
    rw [oldestFirstBy, hattempt]
    rfl

theorem newestFirstBy_cases (s : StableSort) (items : List Item) :
    ((items.length ≤ 1 ∨ AreOfOneKind items) ∧ newestFirstBy s items = .ok (sortByInstant items)) ∨
    (¬ (items.length ≤ 1 ∨ AreOfOneKind items) ∧
      ∃ why, HasClash items why ∧ newestFirstBy s items = .error why) := by
  have hperm : items.Perm items.reverse := (List.reverse_perm items).symm
  rcases oldestFirstBy_cases s items.reverse with
    ⟨hmeets, order, hstable, hsort⟩ | ⟨why, hclash, hsort⟩
  · left
    -- Read backwards twice, the list is the given one.
    have hnewest := isNewestFirst_of_isStableOrder hstable
    rw [List.reverse_reverse] at hnewest
    constructor
    · rcases hmeets.comparable with hshort | ⟨k, hk, hall⟩
      · exact .inl (by rwa [List.length_reverse] at hshort)
      · exact .inr ⟨k, hk, fun i hi => hall i (hperm.mem_iff.mp hi)⟩
    · rw [newestFirstBy, hsort]
      exact congrArg Except.ok (hnewest.eq (isNewestFirst_sortByInstant items))
  · right
    have hclash := hclash.of_perm hperm
    refine ⟨hclash.not_comparable, why, hclash, ?_⟩
    rw [newestFirstBy, hsort]
    rfl

/-! ## 4. Lists without an order -/

theorem wallClock_of_zoneless {i : Item} (h : i.kind = .zoneless) :
    ∃ t, i.posted = some t ∧ t.offset = none ∧ i.instant = t.wallClock := by
  unfold kind at h
  cases hposted : i.posted with
  | none =>
    rw [hposted] at h
    cases h
  | some t =>
    rw [hposted] at h
    cases hoffset : t.offset with
    | none =>
      refine ⟨t, rfl, hoffset, ?_⟩
      simp only [instant, hposted, Stamp.instant, hoffset]
    | some z =>
      simp only [Stamp.isZoned, hoffset, Option.isSome_some, if_true] at h
      cases h

/-- Sorting items newest first fails on the lists without an order and on no others, whichever stable sort
compares them; `newestFirst` gives what the sort that inserts them gives. A list has an order if it has at
most one item, if all of its timestamps carry an offset, or if all are known and none carries one. Then the
sort gives the only list that holds the items newest first and those of one instant in their order; a clock
without an offset shows the instant itself. Otherwise the sort fails with a clash of two of the items. -/
theorem every_sort_fails_iff_incomparable (s : StableSort) (items : List Item) :
    newestFirst items = newestFirstBy .insertion items ∧
    ((∃ sorted, newestFirstBy s items = .ok sorted) ↔
      items.length ≤ 1 ∨ (∀ i ∈ items, i.kind = .zoned) ∨ ∀ i ∈ items, i.kind = .zoneless) ∧
    (∀ sorted, newestFirstBy s items = .ok sorted →
      IsNewestFirst items sorted ∧ ∀ other, IsNewestFirst items other → other = sorted) ∧
    (∀ why, newestFirstBy s items = .error why → HasClash items why) ∧
    (∀ i ∈ items, i.kind = .zoned → ∃ t z, i.posted = some t ∧ t.offset = some z ∧
      i.instant = t.wallClock - z.microseconds) ∧
    ∀ i ∈ items, i.kind = .zoneless → ∃ t, i.posted = some t ∧ t.offset = none ∧
      i.instant = t.wallClock := by
  refine ⟨newestFirst_eq_newestFirstBy_insertion items, ?_, ?_, ?_, ?_, ?_⟩
  · -- Whether the kinds agree decides between the two ends of a sort, in this part and the next two.
    rw [← areOfOneKind_iff]
    rcases newestFirstBy_cases s items with ⟨h, hsort⟩ | ⟨h, why, -, hsort⟩
    · exact iff_of_true ⟨_, hsort⟩ h
    · refine iff_of_false ?_ h
      rintro ⟨sorted, hsorted⟩
      rw [hsort] at hsorted
      cases hsorted
  · intro sorted hsorted
    rcases newestFirstBy_cases s items with ⟨-, hsort⟩ | ⟨-, why, -, hsort⟩
    · rw [hsort] at hsorted
      cases hsorted
      have hnewest := isNewestFirst_sortByInstant items
      exact ⟨hnewest, fun other hother => hother.eq hnewest⟩
    · rw [hsort] at hsorted
      cases hsorted
  · intro why hwhy
    rcases newestFirstBy_cases s items with ⟨-, hsort⟩ | ⟨-, first, hclash, hsort⟩
    · rw [hsort] at hwhy
      cases hwhy
    · rw [hsort] at hwhy
      cases hwhy
      exact hclash
  · exact fun i _ hi => instant_of_zoned hi
  · exact fun i _ hi => wallClock_of_zoneless hi

/-- A single item without a timestamp has an order, two of them have none. -/
example : newestFirstBy .insertion [default] = .ok [default] ∧
    newestFirstBy .insertion [default, default] = .error (.unknown false false) := by
  decide

end VideoWall.Item
