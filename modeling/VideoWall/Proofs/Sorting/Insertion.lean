import VideoWall.Proofs.Sorting.Questions

/-!
# Inserting is a stable sort

Inserting the elements of a list one after the other, each behind those that it comes before, gives the
stable order of any keys, and no element is compared with itself. So stable sorts exist
(`StableSort.insertion`).
-/

namespace VideoWall

namespace Comparing

variable {ι : Type} {before : ι → ι → Bool} {i : ι} {list : List ι}

/-! ## 1. Inserting one element -/

theorem answered_insert_cons (i other : ι) (rest : List ι) :
    (insert i (other :: rest)).answered before =
      if before i other then other :: (insert i rest).answered before else i :: other :: rest := by
  rw [insert, answered]
  split
  · exact answered_andThen _ _
  · rfl

theorem perm_answered_insert : ((insert i list).answered before).Perm (i :: list) := by
  induction list with
  | nil => exact .refl _
  | cons other rest ih =>
    rw [answered_insert_cons]
    split
    · exact (ih.cons other).trans (.swap i other rest)
    · exact .refl _

theorem mem_of_asked_insert {pair : ι × ι} (h : pair ∈ (insert i list).asked before) :
    pair.1 = i ∧ pair.2 ∈ list := by
  induction list with
  | nil => exact absurd h List.not_mem_nil
  | cons other rest ih =>
    rw [insert, asked] at h
    rcases List.mem_cons.mp h with rfl | h
    · exact ⟨rfl, List.mem_cons_self⟩
    · split at h
      · rw [asked_andThen, asked, List.append_nil] at h
        exact ⟨(ih h).1, List.mem_cons_of_mem _ (ih h).2⟩
      · exact absurd h List.not_mem_nil

/-! ## 2. Inserting all elements -/

theorem answered_insertAll_cons (i : ι) (rest : List ι) :
    (insertAll (i :: rest)).answered before =
      (insert i ((insertAll rest).answered before)).answered before :=
  answered_andThen _ _

theorem perm_answered_insertAll (list : List ι) : ((insertAll list).answered before).Perm list := by
  induction list with
  | nil => exact .refl _
  | cons i rest ih =>
    rw [answered_insertAll_cons]
    exact perm_answered_insert.trans (ih.cons i)

theorem ne_of_asked_insertAll (h : list.Nodup) :
    ∀ pair ∈ (insertAll list).asked before, pair.1 ≠ pair.2 := by
  induction list with
  | nil => exact fun pair hpair => absurd hpair List.not_mem_nil
  | cons i rest ih =>
    obtain ⟨hi, hrest⟩ := List.nodup_cons.mp h
    intro pair hpair
    rw [insertAll, asked_andThen, List.mem_append] at hpair
    rcases hpair with hpair | hpair
    · exact ih hrest pair hpair
    · obtain ⟨rfl, hmem⟩ := mem_of_asked_insert hpair
      intro heq
      rw [← heq, (perm_answered_insertAll rest).mem_iff] at hmem
      exact hi hmem

/-! ## 3. The order that comes about -/

variable {n : Nat} {key : Fin n → Int}

theorem ordered_insert {i : Fin n} {list : List (Fin n)} (hi : ∀ j ∈ list, j < i)
    (h : list.Pairwise fun a b => key b < key a ∨ key b = key a ∧ b < a) :
    ((insert i list).answered (isBelow key)).Pairwise fun a b =>
      key b < key a ∨ key b = key a ∧ b < a := by
  induction list with
  | nil => exact List.pairwise_singleton _ i
  | cons other rest ih =>
    obtain ⟨hother, hrest⟩ := List.pairwise_cons.mp h
    obtain ⟨hlt, hi⟩ := List.forall_mem_cons.mp hi
    rw [answered_insert_cons]
    split
    · rename_i hbelow
      rw [isBelow_eq_true_iff] at hbelow
      refine List.pairwise_cons.mpr ⟨?_, ih hi hrest⟩
      intro a ha
      rcases List.mem_cons.mp (perm_answered_insert.mem_iff.mp ha) with rfl | ha
      · exact .inl hbelow
      · exact hother a ha
    · rename_i hbelow
      rw [isBelow_eq_true_iff] at hbelow
      refine List.pairwise_cons.mpr ⟨?_, h⟩
      intro a ha
      -- The others may have the key of the element, but they stand before it.
      rcases List.mem_cons.mp ha with rfl | ha
      · omega
      · have := hother a ha
        have := hi a ha
        omega

theorem ordered_insertAll {list : List (Fin n)} (h : list.Pairwise fun a b => b < a) :
    ((insertAll list).answered (isBelow key)).Pairwise fun a b =>
      key b < key a ∨ key b = key a ∧ b < a := by
  induction list with
  | nil => exact .nil
  | cons i rest ih =>
    obtain ⟨hi, hrest⟩ := List.pairwise_cons.mp h
    rw [answered_insertAll_cons]
    -- Inserting keeps the elements, so the next one stands behind all of them.
    refine ordered_insert ?_ (ih hrest)
    intro j hj
    exact hi j ((perm_answered_insertAll rest).mem_iff.mp hj)

end Comparing

namespace StableSort

open Comparing

def insertion : StableSort where
  sort n := (insertAll (List.finRange n).reverse).andThen fun list => done list.reverse
  asked_ne n key := by
    have hnodup : (List.finRange n).reverse.Nodup :=
      (List.reverse_perm _).nodup_iff.mpr (List.nodup_finRange n)
    intro pair hpair
    rw [asked_andThen, asked, List.append_nil] at hpair
    exact ne_of_asked_insertAll hnodup pair hpair
  isStableOrder n key := by
    have hplaces : (List.finRange n).reverse.Pairwise fun a b => b < a :=
      List.pairwise_reverse.mpr (List.pairwise_lt_finRange n)
    rw [answered_andThen]
    constructor
    · exact (List.reverse_perm _).trans ((perm_answered_insertAll _).trans (List.reverse_perm _))
    · exact List.pairwise_reverse.mpr (ordered_insertAll hplaces)

end StableSort

end VideoWall
