import VideoWall.Proofs.Item.Comparing

/-!
# The first clash

A list of items can be sorted by comparing two of them at a time if it has at most one item, or if all of
its timestamps are of one kind and known; every other list has neighbours that clash. Inserting one item
after the other sorts the one lists by instants and fails with the first clash of the others. Main
statement: `newestFirst_eq_insertAll?`.
-/

namespace VideoWall.Item

variable {items : List Item}

def AreOfOneKind (items : List Item) : Prop :=
  ∃ k, k ≠ Kind.unknown ∧ ∀ i ∈ items, i.kind = k

/-- Whether two items of a list have no order, for the reason given. -/
def HasClash (items : List Item) (why : Incomparable) : Prop :=
  ∃ a b rest, items.Perm (a :: b :: rest) ∧ clash? a.kind b.kind = some why

/-! ## 1. Lists of one kind -/

theorem clash?_eq_none_iff {j k : Kind} : clash? j k = none ↔ j = k ∧ j ≠ .unknown := by
  cases j <;> cases k <;> decide

theorem areOfOneKind_iff : AreOfOneKind items ↔
    (∀ i ∈ items, i.kind = .zoned) ∨ ∀ i ∈ items, i.kind = .zoneless := by
  constructor
  · rintro ⟨k, hk, hall⟩
    cases k with
    | zoned => exact .inl hall
    | zoneless => exact .inr hall
    | unknown => exact absurd rfl hk
  · rintro (hall | hall)
    · exact ⟨_, Kind.noConfusion, hall⟩
    · exact ⟨_, Kind.noConfusion, hall⟩

theorem areComparable_iff : areComparable items = true ↔ items.length ≤ 1 ∨ AreOfOneKind items := by
  simp only [areComparable, areOfOneKind_iff, Bool.or_eq_true, decide_eq_true_eq, List.all_eq_true,
    beq_iff_eq, or_assoc]

theorem HasClash.not_comparable {why : Incomparable} (h : HasClash items why) :
    ¬ (items.length ≤ 1 ∨ AreOfOneKind items) := by
  obtain ⟨a, b, rest, hperm, hclash⟩ := h
  rintro (hlength | ⟨k, hk, hall⟩)
  · rw [hperm.length_eq] at hlength
    simp only [List.length_cons] at hlength
    omega
  · have ha := hall a (hperm.mem_iff.mpr List.mem_cons_self)
    have hb := hall b (hperm.mem_iff.mpr (List.mem_cons_of_mem _ List.mem_cons_self))
    rw [ha, hb, clash?_self hk] at hclash
    cases hclash

theorem HasClash.of_perm {items' : List Item} {why : Incomparable} (h : HasClash items why)
    (hperm : items'.Perm items) : HasClash items' why := by
  obtain ⟨a, b, rest, hitems, hclash⟩ := h
  exact ⟨a, b, rest, hperm.trans hitems, hclash⟩

/-! ## 2. The first clash -/

theorem neighbourClash?_concat (previous : Item) (before : List Item) (next i : Item) :
    neighbourClash? previous (before ++ [next] ++ [i]) =
      ((neighbourClash? previous (before ++ [next])) <|> (clash? i.kind next.kind)) := by
  induction before generalizing previous with
  | nil =>
    simp only [List.nil_append, List.cons_append, neighbourClash?]
    cases clash? next.kind previous.kind <;> cases clash? i.kind next.kind <;> rfl
  | cons other before ih =>
    simp only [List.cons_append, neighbourClash?] at ih ⊢
    rw [ih]
    cases clash? other.kind previous.kind <;> rfl

theorem firstClash?_cons_cons (i next : Item) (rest : List Item) :
    firstClash? (i :: next :: rest) =
      ((firstClash? (next :: rest)) <|> (clash? i.kind next.kind)) := by
  unfold firstClash?
  rw [List.reverse_cons, List.reverse_cons]
  cases rest.reverse with
  | nil =>
    simp only [List.nil_append, List.cons_append, neighbourClash?]
    cases clash? i.kind next.kind <;> rfl
  | cons last before => exact neighbourClash?_concat last before next i

theorem firstClash?_cons_cons_eq_none_iff {i next : Item} {rest : List Item} :
    firstClash? (i :: next :: rest) = none ↔
      firstClash? (next :: rest) = none ∧ clash? i.kind next.kind = none := by
  rw [firstClash?_cons_cons]
  cases firstClash? (next :: rest) <;> simp

theorem firstClash?_eq_none_iff :
    firstClash? items = none ↔ items.length ≤ 1 ∨ AreOfOneKind items := by
  induction items with
  | nil => exact iff_of_true rfl (.inl (Nat.zero_le 1))
  | cons i rest ih =>
    cases rest with
    | nil => exact iff_of_true rfl (.inl (Nat.le_refl 1))
    | cons next rest =>
      have hlength : ¬ (i :: next :: rest).length ≤ 1 := by simp
      rw [firstClash?_cons_cons_eq_none_iff, or_iff_right hlength]
      constructor
      · rintro ⟨hrest, hclash⟩
        obtain ⟨hkind, hknown⟩ := clash?_eq_none_iff.mp hclash
        refine ⟨i.kind, hknown, ?_⟩
        rcases ih.mp hrest with hshort | ⟨k, -, hall⟩
        · obtain rfl : rest = [] := by simpa using hshort
          simp [hkind]
        · have hnext := hall next List.mem_cons_self
          rw [hkind, hnext]
          exact List.forall_mem_cons.mpr ⟨hkind.trans hnext, hall⟩
      · rintro ⟨k, hk, hall⟩
        obtain ⟨hi, hall⟩ := List.forall_mem_cons.mp hall
        refine ⟨ih.mpr (.inr ⟨k, hk, hall⟩), ?_⟩
        rw [hi, hall next List.mem_cons_self, clash?_self hk]

/-! ## 3. Inserting one item after the other -/

theorem kind_eq_of_mem (h : items.length ≤ 1 ∨ AreOfOneKind items) {a b : Item} (ha : a ∈ items)
    (hb : b ∈ items) : a.kind = b.kind := by
  rcases h with hshort | ⟨k, -, hall⟩
  · match items, hshort with
    | [], _ => exact absurd ha List.not_mem_nil
    | [i], _ => rw [List.mem_singleton.mp ha, List.mem_singleton.mp hb]
  · rw [hall a ha, hall b hb]

theorem insert?_of_clash {i next : Item} {why : Incomparable}
    (h : items.length ≤ 1 ∨ AreOfOneKind items) (hnext : next ∈ items)
    (hclash : clash? i.kind next.kind = some why) : insert? i (sortByInstant items) = .error why := by
  have hperm := (isNewestFirst_sortByInstant items).perm
  cases hsorted : sortByInstant items with
  | nil =>
    rw [sortByInstant_eq_nil.mp hsorted] at hnext
    exact absurd hnext List.not_mem_nil
  | cons newest others =>
    -- The item is compared with the newest first, and that has the kind of all others.
    have hnewest : newest ∈ items := by
      rw [← hperm.mem_iff, hsorted]
      exact List.mem_cons_self
    rw [insert?, older?, kind_eq_of_mem h hnewest hnext, hclash]

theorem insertAll?_of_comparable (h : items.length ≤ 1 ∨ AreOfOneKind items) :
    insertAll? items = .ok (sortByInstant items) := by
  rcases h with hshort | ⟨k, hk, hall⟩
  · match items, hshort with
    | [], _ => exact congrArg Except.ok (sortByInstant_eq_nil.mpr rfl).symm
    | [i], _ => exact congrArg Except.ok (List.mergeSort_singleton i).symm
  · exact insertAll?_of_kind hk hall

theorem insertAll?_of_firstClash? {why : Incomparable} (h : firstClash? items = some why) :
    insertAll? items = .error why := by
  -- By induction the items behind the first either fail already or are sorted when it is inserted.
  induction items generalizing why with
  | nil => cases h
  | cons i rest ih =>
    cases rest with
    | nil => cases h
    | cons next rest =>
      rw [firstClash?_cons_cons] at h
      rw [insertAll?]
      cases hfirst : firstClash? (next :: rest) with
      | some first =>
        rw [hfirst] at h
        rw [ih hfirst]
        exact congrArg Except.error (Option.some.inj h)
      | none =>
        have hrest := firstClash?_eq_none_iff.mp hfirst
        rw [hfirst] at h
        rw [insertAll?_of_comparable hrest]
        exact insert?_of_clash hrest List.mem_cons_self h

/-- Sorting by instants where the items are comparable, and failing with the first clash otherwise, is what
inserting one item after the other comes to. -/
theorem newestFirst_eq_insertAll? (items : List Item) : newestFirst items = insertAll? items := by
  rw [newestFirst]
  cases hfirst : firstClash? items with
  | none =>
    have hcomparable := firstClash?_eq_none_iff.mp hfirst
    rw [if_pos (areComparable_iff.mpr hcomparable), insertAll?_of_comparable hcomparable]
  | some why =>
    have hnot : ¬ areComparable items = true := by
      rw [areComparable_iff, ← firstClash?_eq_none_iff, hfirst]
      exact Option.some_ne_none why
    rw [if_neg hnot, insertAll?_of_firstClash? hfirst]
    rfl

end VideoWall.Item
