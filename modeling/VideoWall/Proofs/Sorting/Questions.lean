import Mathlib.Data.List.Pairwise
import VideoWall.Sorting

/-!
# What a sort has to ask

A stable sort cannot leave two parts of a list apart: if it never compared an element of one part with one
of the other, it could not tell whether one part belongs before the other or behind it. So its questions
connect all places of a list (`StableSort.exists_asked_across`). A sort whose questions may have no
answer fails at the first of those that have none, and without one it comes to the stable order
(`Comparing.attempt_cases`).
-/

namespace VideoWall

variable {ι β γ ε : Type}

/-! ## 1. Procedures that agree -/

namespace Comparing

variable {before before' : ι → ι → Bool} {before? : ι → ι → Except ε Bool}

theorem answered_congr (c : Comparing ι β)
    (h : ∀ pair ∈ c.asked before, before' pair.1 pair.2 = before pair.1 pair.2) :
    c.answered before' = c.answered before := by
  induction c with
  | done result => rfl
  | ask i j next ih =>
    -- The first question is among those asked, so both go on in the same way.
    have hfirst : before' i j = before i j := h (i, j) List.mem_cons_self
    rw [answered, answered, hfirst]
    exact ih _ fun pair hpair => h pair (List.mem_cons_of_mem _ hpair)

/-- Where questions may have no answer, either all that are asked have one, or the procedure fails with
one of them. -/
theorem attempt_cases (c : Comparing ι β)
    (h : ∀ i j b, before? i j = .ok b → b = before i j) :
    ((∀ pair ∈ c.asked before, before? pair.1 pair.2 = .ok (before pair.1 pair.2)) ∧
      c.attempt before? = .ok (c.answered before)) ∨
    ∃ pair ∈ c.asked before, ∃ why, before? pair.1 pair.2 = .error why ∧
      c.attempt before? = .error why := by
  induction c with
  | done result => exact .inl ⟨fun _ hpair => absurd hpair List.not_mem_nil, rfl⟩
  | ask i j next ih =>
    rw [asked, attempt]
    cases hfirst : before? i j with
    | error why => exact .inr ⟨(i, j), List.mem_cons_self, why, hfirst, rfl⟩
    | ok b =>
      obtain rfl := h i j b hfirst
      rcases ih (before i j) with ⟨hall, hattempt⟩ | ⟨pair, hpair, why, hwhy, hattempt⟩
      · refine .inl ⟨?_, hattempt⟩
        intro pair hpair
        rcases List.mem_cons.mp hpair with rfl | hpair
        · exact hfirst
        · exact hall pair hpair
      · exact .inr ⟨pair, List.mem_cons_of_mem _ hpair, why, hwhy, hattempt⟩

theorem answered_andThen (c : Comparing ι β) (f : β → Comparing ι γ) :
    (c.andThen f).answered before = (f (c.answered before)).answered before := by
  induction c with
  | done result => rfl
  | ask i j next ih => exact ih _

theorem asked_andThen (c : Comparing ι β) (f : β → Comparing ι γ) :
    (c.andThen f).asked before = c.asked before ++ (f (c.answered before)).asked before := by
  induction c with
  | done result => rfl
  | ask i j next ih => exact congrArg ((i, j) :: ·) (ih _)

theorem attempt_andThen (c : Comparing ι β) (f : β → Comparing ι γ) :
    (c.andThen f).attempt before? =
      match c.attempt before? with
      | .error why => .error why
      | .ok result => (f result).attempt before? := by
  induction c with
  | done result => rfl
  | ask i j next ih =>
    rw [andThen, attempt, attempt]
    cases before? i j with
    | error why => rfl
    | ok b => exact ih b

end Comparing

/-! ## 2. Stable orders -/

variable {n : Nat} {key : Fin n → Int} {order : List (Fin n)}

theorem ordered_or {R : Fin n → Fin n → Prop} (hperm : order.Perm (List.finRange n))
    (hordered : order.Pairwise R) {p q : Fin n} (hne : p ≠ q) : R p q ∨ R q p := by
  have hmem : ∀ i, i ∈ order := fun i => hperm.mem_iff.mpr (List.mem_finRange i)
  have hsymm : Std.Symm fun i j => R i j ∨ R j i := ⟨fun _ _ => Or.symm⟩
  have heither : order.Pairwise fun i j => R i j ∨ R j i := hordered.imp Or.inl
  exact heither.forall (hmem p) (hmem q) hne

theorem IsStableOrder.filter_eq (h : IsStableOrder key order) (t : Int) :
    order.filter (key · == t) = (List.finRange n).filter (key · == t) := by
  -- Places of one key ascend in a stable order, as they do among all places.
  have hordered : (order.filter (key · == t)).Pairwise (· < ·) := by
    refine (h.ordered.filter (key · == t)).imp_of_mem ?_
    intro i j hi hj hij
    have hi := beq_iff_eq.mp (List.mem_filter.mp hi).2
    have hj := beq_iff_eq.mp (List.mem_filter.mp hj).2
    omega
  have hplaces : ((List.finRange n).filter (key · == t)).Pairwise (· < ·) :=
    (List.pairwise_lt_finRange n).filter _
  refine List.Perm.eq_of_pairwise ?_ hordered hplaces (h.perm.filter _)
  intro i j _ _ hij hji
  omega

/-! ## 3. Questions across a list -/

/-- The keys, with those on one side of a list moved by a distance. -/
def movedKey (side : Fin n → Bool) (distance : Int) (key : Fin n → Int) (i : Fin n) : Int :=
  if side i then key i + distance else key i

theorem isBelow_movedKey {side : Fin n → Bool} {i j : Fin n} (h : side i = side j)
    (key : Fin n → Int) (distance : Int) :
    isBelow (movedKey side distance key) i j = isBelow key i j := by
  rw [Bool.eq_iff_iff, isBelow_eq_true_iff, isBelow_eq_true_iff, movedKey, movedKey, h]
  split <;> omega

/-- However a list falls into two sides, a stable sort compares an element of one side with one of the
other. -/
theorem StableSort.exists_asked_across (s : StableSort) (key : Fin n → Int) (side : Fin n → Bool)
    {p q : Fin n} (h : side p ≠ side q) :
    ∃ pair ∈ (s.sort n).asked (isBelow key), side pair.1 ≠ side pair.2 := by
  by_contra hnone
  have hsame : ∀ pair ∈ (s.sort n).asked (isBelow key), side pair.1 = side pair.2 := by
    intro pair hpair
    by_contra hne
    exact hnone ⟨pair, hpair, hne⟩
  -- Its questions are about elements of one side each, so moving a side changes no answer, however far it
  -- is moved, up or down: the sort finds the same order.
  have hmoved : ∀ distance, IsStableOrder (movedKey side distance key)
      ((s.sort n).answered (isBelow key)) := by
    intro distance
    have hanswered := (s.sort n).answered_congr fun pair hpair =>
      isBelow_movedKey (hsame pair hpair) key distance
    rw [← hanswered]
    exact s.isStableOrder n _
  have hup := hmoved ((key p - key q).natAbs + 1)
  have hdown := hmoved (-((key p - key q).natAbs + 1))
  have hne : p ≠ q := fun hpq => h (congrArg side hpq)
  -- But far enough up or down, the two elements stand the other way round.
  have hboth := ordered_or hup.perm (hup.ordered.and hdown.ordered) hne
  unfold movedKey at hboth
  have hsides : side p = true ∧ side q = false ∨ side p = false ∧ side q = true := by
    revert h
    cases side p <;> cases side q <;> simp
  rcases hsides with ⟨hp, hq⟩ | ⟨hp, hq⟩ <;>
    simp only [hp, hq, Bool.false_eq_true, if_true, if_false] at hboth <;> omega

end VideoWall
