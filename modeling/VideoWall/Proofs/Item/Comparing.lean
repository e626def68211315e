import VideoWall.Item.Comparing
import VideoWall.Proofs.Item.NewestFirst

/-!
# Comparing items of one kind

Where all timestamps of a list carry an offset, or all carry none, no two of them clash; so a sort that
compares two items at a time comes to its end, and gives the items newest first. Main statement:
`insertAll?_of_kind`.
-/

namespace VideoWall.Item

variable {k : Kind} {i : Item} {items : List Item}

theorem clash?_eq_none_of_kind (hk : k ≠ .unknown) (h : ∀ a ∈ items, a.kind = k) :
    ∀ a ∈ items, ∀ b ∈ items, clash? a.kind b.kind = none := by
  intro a ha b hb
  rw [h a ha, h b hb, clash?_self hk]

theorem isNewestFirst_cons {other : Item} {rest : List Item}
    (h : (other :: rest).Pairwise fun a b => b.instant ≤ a.instant)
    (hle : other.instant ≤ i.instant) :
    IsNewestFirst (i :: other :: rest) (i :: other :: rest) where
  perm := .refl _
  ordered := by
    refine List.pairwise_cons.mpr ⟨?_, h⟩
    intro a ha
    rcases List.mem_cons.mp ha with rfl | ha
    · exact hle
    · have hother := (List.pairwise_cons.mp h).1 a ha
      omega
  stable _ := rfl

theorem IsNewestFirst.behind {other : Item} {rest out : List Item}
    (hout : IsNewestFirst (i :: rest) out) (h : ∀ a ∈ rest, a.instant ≤ other.instant)
    (hlt : i.instant < other.instant) : IsNewestFirst (i :: other :: rest) (other :: out) where
  perm := (hout.perm.cons other).trans (.swap i other rest)
  ordered := by
    refine List.pairwise_cons.mpr ⟨?_, hout.ordered⟩
    intro a ha
    rcases List.mem_cons.mp (hout.perm.mem_iff.mp ha) with rfl | ha
    · omega
    · exact h a ha
  stable t := by
    -- The two items show different instants, so one of them at most is at this one.
    have hrest := hout.stable t
    rw [atInstant_cons] at hrest
    rw [atInstant_cons, atInstant_cons, atInstant_cons, hrest]
    by_cases hi : i.instant = t
    · rw [if_pos hi, if_pos hi, if_neg (by omega), if_neg (by omega)]
    · rw [if_neg hi, if_neg hi]

/-- Putting an item into a list newest first compares timestamps of one kind only, and keeps it newest
first. -/
theorem insert?_of_kind (hk : k ≠ .unknown) (hi : i.kind = k) (h : ∀ a ∈ items, a.kind = k)
    (hordered : items.Pairwise fun a b => b.instant ≤ a.instant) :
    ∃ out, insert? i items = .ok out ∧ IsNewestFirst (i :: items) out := by
  induction items with
  | nil => exact ⟨[i], rfl, ⟨.refl _, List.pairwise_singleton _ i, fun _ => rfl⟩⟩
  | cons other rest ih =>
    have hother : i.kind = other.kind := by rw [hi, h other List.mem_cons_self]
    obtain ⟨hnewest, htail⟩ := List.pairwise_cons.mp hordered
    rw [insert?, older?_of_kind_eq hother (hi ▸ hk)]
    by_cases hlt : i.instant < other.instant
    · obtain ⟨out, hinsert, hout⟩ := ih (fun a ha => h a (List.mem_cons_of_mem _ ha)) htail
      rw [hinsert, decide_eq_true hlt]
      exact ⟨_, rfl, hout.behind hnewest hlt⟩
    · rw [decide_eq_false hlt]
      exact ⟨_, rfl, isNewestFirst_cons hordered (by omega)⟩

theorem insertAll?_of_kind (hk : k ≠ .unknown) (h : ∀ a ∈ items, a.kind = k) :
    insertAll? items = .ok (sortByInstant items) := by
  induction items with
  | nil => exact congrArg Except.ok (sortByInstant_eq_nil.mpr rfl).symm
  | cons i rest ih =>
    have hrest : ∀ a ∈ rest, a.kind = k := fun a ha => h a (List.mem_cons_of_mem _ ha)
    have hsorted := isNewestFirst_sortByInstant rest
    obtain ⟨out, hinsert, hout⟩ := insert?_of_kind hk (h i List.mem_cons_self)
      (fun a ha => hrest a (hsorted.perm.mem_iff.mp ha)) hsorted.ordered
    rw [insertAll?, ih hrest]
    show insert? i (sortByInstant rest) = _
    rw [hinsert]
    -- The list that came about is the sorted one, since there is only one.
    have hwhole : IsNewestFirst (i :: rest) out := by
      refine ⟨hout.perm.trans (hsorted.perm.cons i), hout.ordered, ?_⟩
      intro t
      rw [hout.stable t, atInstant_cons, atInstant_cons, hsorted.stable t]
    exact congrArg _ (hwhole.eq (isNewestFirst_sortByInstant _))

end VideoWall.Item
