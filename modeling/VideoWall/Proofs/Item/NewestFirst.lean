import VideoWall.Item

/-!
# Sorting newest first

What it means for a list of items to be another one newest first, equal instants keeping their places.
Main statements: sorting by instants gives such a list (`isNewestFirst_sortByInstant`), there is no
other (`IsNewestFirst.eq`), and sorting blocks before sorting all of them makes no difference
(`sortByInstant_flatMap`).
-/

namespace VideoWall.Item

def atInstant (t : Int) (items : List Item) : List Item :=
  items.filter (·.instant == t)

/-- Whether a list holds the items of another one, newest first, and those of each instant in the same
order as there. -/
structure IsNewestFirst (items sorted : List Item) : Prop where
  perm : sorted.Perm items
  ordered : sorted.Pairwise fun a b => b.instant ≤ a.instant
  stable : ∀ t, atInstant t sorted = atInstant t items

/-! ## 1. The items of an instant -/

theorem atInstant_cons (t : Int) (i : Item) (items : List Item) :
    atInstant t (i :: items) =
      if i.instant = t then i :: atInstant t items else atInstant t items := by
  simp only [atInstant, List.filter_cons, beq_iff_eq]

theorem mem_atInstant {t : Int} {i : Item} {items : List Item} :
    i ∈ atInstant t items ↔ i ∈ items ∧ i.instant = t := by
  simp only [atInstant, List.mem_filter, beq_iff_eq]

theorem atInstant_atInstant (t : Int) (items : List Item) :
    atInstant t (atInstant t items) = atInstant t items :=
  List.filter_eq_self.mpr fun _ hi => beq_iff_eq.mpr (mem_atInstant.mp hi).2

theorem mem_iff_of_atInstant_eq {xs ys : List Item} (h : ∀ t, atInstant t xs = atInstant t ys)
    (i : Item) : i ∈ xs ↔ i ∈ ys := by
  have hmem : i ∈ atInstant i.instant xs ↔ i ∈ atInstant i.instant ys := by rw [h i.instant]
  rwa [mem_atInstant, mem_atInstant, and_iff_left rfl, and_iff_left rfl] at hmem

/-! ## 2. Sorting by instants -/

theorem notOlder_trans (a b c : Item) (hab : notOlder a b = true) (hbc : notOlder b c = true) :
    notOlder a c = true := by
  simp only [notOlder, decide_eq_true_eq] at *
  omega

theorem notOlder_total (a b : Item) : (notOlder a b || notOlder b a) = true := by
  simp only [notOlder, Bool.or_eq_true, decide_eq_true_eq]
  omega

theorem atInstant_sortByInstant (t : Int) (items : List Item) :
    atInstant t (sortByInstant items) = atInstant t items := by
  have hequal : (atInstant t items).Pairwise (fun a b => notOlder a b = true) := by
    apply List.pairwise_of_forall_mem_list
    intro a ha b hb
    have ha := (mem_atInstant.mp ha).2
    have hb := (mem_atInstant.mp hb).2
    simp only [notOlder, decide_eq_true_eq]
    omega
  -- They are in order already, so they stand in the sorted list as they do in the unsorted one.
  have hsub : (atInstant t items).Sublist (atInstant t (sortByInstant items)) := by
    have hstable : (atInstant t items).Sublist (sortByInstant items) :=
      List.sublist_mergeSort notOlder_trans notOlder_total hequal List.filter_sublist
    rw [← atInstant_atInstant t items]
    exact hstable.filter _
  have hlength : (atInstant t (sortByInstant items)).length = (atInstant t items).length :=
    ((List.mergeSort_perm items notOlder).filter _).length_eq
  exact (hsub.eq_of_length hlength.symm).symm

theorem isNewestFirst_sortByInstant (items : List Item) :
    IsNewestFirst items (sortByInstant items) where
  perm := List.mergeSort_perm items notOlder
  ordered := by
    have hsorted := List.pairwise_mergeSort notOlder_trans notOlder_total items
    exact hsorted.imp fun h => of_decide_eq_true h
  stable t := atInstant_sortByInstant t items

theorem length_sortByInstant (items : List Item) : (sortByInstant items).length = items.length :=
  (isNewestFirst_sortByInstant items).perm.length_eq

theorem sortByInstant_eq_nil {items : List Item} : sortByInstant items = [] ↔ items = [] := by
  rw [← List.length_eq_zero_iff, length_sortByInstant, List.length_eq_zero_iff]

/-! ## 3. There is only one list newest first -/

theorem instant_head_le {x y : Item} {xs ys : List Item}
    (hy : ∀ i ∈ ys, i.instant ≤ y.instant) (hmem : ∀ i, i ∈ x :: xs ↔ i ∈ y :: ys) :
    x.instant ≤ y.instant := by
  rcases List.mem_cons.mp ((hmem x).mp List.mem_cons_self) with rfl | hx
  · exact Int.le_refl _
  · exact hy x hx

/-- Two lists in order with the same items at each instant, in the same order, are equal. -/
theorem eq_of_ordered_of_atInstant_eq {xs ys : List Item}
    (hxs : xs.Pairwise fun a b => b.instant ≤ a.instant)
    (hys : ys.Pairwise fun a b => b.instant ≤ a.instant)
    (h : ∀ t, atInstant t xs = atInstant t ys) : xs = ys := by
  induction xs generalizing ys with
  | nil =>
    have hmem := mem_iff_of_atInstant_eq h
    symm
    exact List.eq_nil_iff_forall_not_mem.mpr fun i hi => List.not_mem_nil ((hmem i).mpr hi)
  | cons x xs ih =>
    have hmem := mem_iff_of_atInstant_eq h
    cases ys with
    | nil => exact absurd ((hmem x).mp List.mem_cons_self) List.not_mem_nil
    | cons y ys =>
      obtain ⟨hx, hxtail⟩ := List.pairwise_cons.mp hxs
      obtain ⟨hy, hytail⟩ := List.pairwise_cons.mp hys
      have hinstant : y.instant = x.instant := by
        have hxy := instant_head_le hy hmem
        have hyx := instant_head_le hx fun i => (hmem i).symm
        omega
      -- Both heads are the first items of the same instant.
      have hxy : x = y := by
        have := h x.instant
        rw [atInstant_cons, atInstant_cons, if_pos rfl, if_pos hinstant] at this
        exact (List.cons.inj this).1
      subst hxy
      have hrest : ∀ t, atInstant t xs = atInstant t ys := by
        intro t
        have := h t
        rw [atInstant_cons, atInstant_cons] at this
        by_cases ht : x.instant = t
        · rw [if_pos ht, if_pos ht] at this
          exact (List.cons.inj this).2
        · rwa [if_neg ht, if_neg ht] at this
      rw [ih hxtail hytail hrest]

theorem IsNewestFirst.eq {items xs ys : List Item} (hx : IsNewestFirst items xs)
    (hy : IsNewestFirst items ys) : xs = ys :=
  eq_of_ordered_of_atInstant_eq hx.ordered hy.ordered fun t =>
    (hx.stable t).trans (hy.stable t).symm

/-! ## 4. Blocks -/

theorem atInstant_append (t : Int) (xs ys : List Item) :
    atInstant t (xs ++ ys) = atInstant t xs ++ atInstant t ys :=
  List.filter_append xs ys

theorem sortByInstant_flatMap {γ : Type} (blocks : List γ) (f : γ → List Item) :
    sortByInstant (blocks.flatMap fun b => sortByInstant (f b)) =
      sortByInstant (blocks.flatMap f) := by
  have hperm : (blocks.flatMap fun b => sortByInstant (f b)).Perm (blocks.flatMap f) := by
    induction blocks with
    | nil => exact .nil
    | cons b rest ih => exact (List.mergeSort_perm (f b) notOlder).append ih
  have hstable : ∀ t, atInstant t (blocks.flatMap fun b => sortByInstant (f b)) =
      atInstant t (blocks.flatMap f) := by
    intro t
    clear hperm
    induction blocks with
    | nil => rfl
    | cons b rest ih =>
      rw [List.flatMap_cons, List.flatMap_cons, atInstant_append, atInstant_append,
        atInstant_sortByInstant, ih]
  have hsorted := isNewestFirst_sortByInstant (blocks.flatMap fun b => sortByInstant (f b))
  exact IsNewestFirst.eq
    ⟨hsorted.perm.trans hperm, hsorted.ordered, fun t => (hsorted.stable t).trans (hstable t)⟩
    (isNewestFirst_sortByInstant (blocks.flatMap f))

/-! ## 5. Items with zones -/

theorem instant_of_zoned {i : Item} (h : i.kind = .zoned) :
    ∃ t z, i.posted = some t ∧ t.offset = some z ∧ i.instant = t.wallClock - z.microseconds := by
  unfold kind at h
  cases hposted : i.posted with
  | none =>
    rw [hposted] at h
    cases h
  | some t =>
    rw [hposted] at h
    cases hoffset : t.offset with
    | none =>
      simp only [Stamp.isZoned, hoffset, Option.isSome_none, Bool.false_eq_true, if_false] at h
      cases h
    | some z =>
      refine ⟨t, z, rfl, hoffset, ?_⟩
      simp only [instant, hposted, Stamp.instant, hoffset]

theorem posted_of_zoned {i : Item} (h : i.kind = .zoned) : ∃ t, i.posted = some t ∧ t.isZoned = true := by
  obtain ⟨t, z, hposted, hoffset, -⟩ := instant_of_zoned h
  exact ⟨t, hposted, by rw [Stamp.isZoned, hoffset]; rfl⟩

theorem newestFirst_of_zoned {items : List Item} (h : ∀ i ∈ items, i.kind = .zoned) :
    newestFirst items = .ok (sortByInstant items) := by
  have hall : items.all (·.kind == .zoned) = true :=
    List.all_eq_true.mpr fun i hi => beq_iff_eq.mpr (h i hi)
  have hcomparable : areComparable items = true := by
    rw [areComparable, hall, Bool.or_true, Bool.true_or]
  rw [newestFirst, if_pos hcomparable]

end VideoWall.Item
