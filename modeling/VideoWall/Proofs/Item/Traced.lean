import VideoWall.Proofs.Item.NewestFirst

/-!
# Items with the feeds that they come from

Two items can look alike and come from different feeds, so what becomes of the items of one feed is said
of items that carry its address. Sorting does not look at the address, and leaving some items out before
a sort comes to leaving them out after it. Main statements: `Traced.filter_sort` and
`take_filter_eq`.
-/

namespace VideoWall

variable {α : Type}

/-! ## 1. Leaving out elements of a sorted list -/

/-- A list falls apart in one way only into elements that fail a test and, behind them, elements that
pass it. -/
theorem split_unique {q : α → Bool} {xs ys xs' ys' : List α} (h : xs ++ ys = xs' ++ ys')
    (hxs : ∀ a ∈ xs, (!q a) = true) (hys : ∀ a ∈ ys, q a = true) (hxs' : ∀ a ∈ xs', (!q a) = true)
    (hys' : ∀ a ∈ ys', q a = true) : xs = xs' ∧ ys = ys' := by
  have hparts : ∀ us vs : List α, (∀ a ∈ us, (!q a) = true) → (∀ a ∈ vs, q a = true) →
      (us ++ vs).filter (!q ·) = us ∧ (us ++ vs).filter q = vs := by
    intro us vs hus hvs
    have hfront : us.filter q = [] := by
      apply List.filter_eq_nil_iff.mpr
      intro a ha
      rw [Bool.not_eq_true, ← Bool.not_eq_true']
      exact hus a ha
    have hback : vs.filter (!q ·) = [] := by
      apply List.filter_eq_nil_iff.mpr
      intro a ha
      rw [hvs a ha]
      exact Bool.false_ne_true
    rw [List.filter_append, List.filter_append, hfront, hback, List.filter_eq_self.mpr hus,
      List.filter_eq_self.mpr hvs]
    exact ⟨List.append_nil us, List.nil_append vs⟩
  obtain ⟨hus, hvs⟩ := hparts xs ys hxs hys
  obtain ⟨hus', hvs'⟩ := hparts xs' ys' hxs' hys'
  rw [h] at hus hvs
  exact ⟨hus.symm.trans hus', hvs.symm.trans hvs'⟩

theorem filter_mergeSort {le : α → α → Bool}
    (htrans : ∀ a b c, le a b = true → le b c = true → le a c = true)
    (htotal : ∀ a b, (le a b || le b a) = true) (p : α → Bool) (l : List α) :
    (l.mergeSort le).filter p = (l.filter p).mergeSort le := by
  -- What stands behind an element of a sorted list does not belong before it.
  have hbehind : ∀ (a : α) (l before after : List α), (a :: l).mergeSort le = before ++ a :: after →
      ∀ b ∈ after, le a b = true := by
    intro a l before after h
    have hsorted := List.pairwise_mergeSort htrans htotal (a :: l)
    rw [h, List.pairwise_append, List.pairwise_cons] at hsorted
    exact hsorted.2.1.1
  induction l with
  | nil => rw [List.filter_nil, List.mergeSort_nil, List.filter_nil]
  | cons a l ih =>
    obtain ⟨before, after, hsort, hrest, hbefore⟩ := List.mergeSort_cons htrans htotal a l
    by_cases hp : p a = true
    · obtain ⟨before', after', hsort', hrest', hbefore'⟩ :=
        List.mergeSort_cons htrans htotal a (l.filter p)
      -- Both sorts put the element at the same place among the others that stay.
      have hothers : before.filter p ++ after.filter p = before' ++ after' := by
        rw [← List.filter_append, ← hrest, ih, hrest']
      obtain ⟨hbefore_eq, hafter_eq⟩ := split_unique hothers
        (fun b hb => hbefore b (List.mem_filter.mp hb |>.1))
        (fun b hb => hbehind a l before after hsort b (List.mem_filter.mp hb |>.1)) hbefore'
        (hbehind a _ before' after' hsort')
      rw [List.filter_cons_of_pos hp, hsort, hsort', List.filter_append, List.filter_cons_of_pos hp,
        hbefore_eq, hafter_eq]
    · rw [List.filter_cons_of_neg hp, hsort, List.filter_append, List.filter_cons_of_neg hp,
        ← List.filter_append, ← hrest, ih]

/-- The first elements that pass a test: those among the first of all, and then as many of the others as
there are places for those that fail it. -/
theorem take_filter_eq (p : α → Bool) (n : Nat) (l : List α) :
    (l.filter p).take n =
      (l.take n).filter p ++ ((l.drop n).filter p).take ((l.take n).countP (!p ·)) := by
  have hcount := List.length_eq_countP_add_countP p (l := l.take n)
  have hshort : ((l.take n).filter p).length ≤ n :=
    Nat.le_trans (List.length_filter_le p _) (List.length_take_le n l)
  have hparts : l.filter p = (l.take n).filter p ++ (l.drop n).filter p := by
    rw [← List.filter_append, List.take_append_drop]
  rw [hparts, List.take_append, List.take_of_length_le hshort]
  by_cases hn : n ≤ l.length
  · have hplaces : n - ((l.take n).filter p).length = (l.take n).countP (!p ·) := by
      simp only [List.length_take, Nat.min_eq_left hn, List.countP_eq_length_filter (p := p),
        Bool.not_eq_true, Bool.decide_eq_false] at hcount
      omega
    rw [hplaces]
  · -- All elements are among the first.
    rw [List.drop_eq_nil_of_le (by omega), List.filter_nil, List.take_nil, List.take_nil]

/-! ## 2. Items and addresses -/

/-- An item with the address of the feed that it comes from. -/
structure Traced where
  url : String
  item : Item
deriving DecidableEq, Repr

namespace Traced

def sort (xs : List Traced) : List Traced :=
  xs.mergeSort fun a b => Item.notOlder a.item b.item

theorem map_sort (xs : List Traced) : (sort xs).map item = Item.sortByInstant (xs.map item) :=
  List.map_mergeSort fun _ _ _ _ => rfl

theorem filter_sort (p : Traced → Bool) (xs : List Traced) : (sort xs).filter p = sort (xs.filter p) :=
  filter_mergeSort (fun a b c => Item.notOlder_trans a.item b.item c.item)
    (fun a b => Item.notOlder_total a.item b.item) p xs

end Traced

end VideoWall
