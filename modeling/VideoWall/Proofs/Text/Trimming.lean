import VideoWall.Text.Blank

/-!
# Cutting blanks off a text

Blanks around a text are cut off whatever they are, a text without any is left as it is, and nothing is left of a
text of blanks only. Main statements: `trim_padded` and `trim_eq_self`.
-/

namespace VideoWall.Text

variable {p : Char → Bool} {cs ds : List Char} {s front back : String}

/-! ## 1. Characters -/

theorem dropWhile_eq_self (h : cs.head?.any p = false) : cs.dropWhile p = cs := by
  cases cs with
  | nil => rfl
  | cons c cs => exact List.dropWhile_cons_of_neg (Bool.eq_false_iff.mp h)

theorem dropTrailing_eq_self (h : cs.getLast?.any p = false) : dropTrailing p cs = cs := by
  have hreverse : cs.reverse.head?.any p = false := by
    rw [List.head?_reverse]
    exact h
  rw [dropTrailing, dropWhile_eq_self hreverse, List.reverse_reverse]

theorem head_any_eq_false (h : ∀ c ∈ cs, p c = false) : cs.head?.any p = false := by
  rw [Option.any_eq_false]
  intro c hc
  rw [h c (List.mem_of_mem_head? hc)]

theorem last_any_eq_false (h : ∀ c ∈ cs, p c = false) : cs.getLast?.any p = false := by
  rw [← List.head?_reverse]
  exact head_any_eq_false fun c hc => h c (List.mem_reverse.mp hc)

theorem dropTrailing_append (h : ∀ c ∈ ds, p c = true) : dropTrailing p (cs ++ ds) = dropTrailing p cs := by
  have hreverse : ∀ c ∈ ds.reverse, p c = true := fun c hc => h c (List.mem_reverse.mp hc)
  rw [dropTrailing, dropTrailing, List.reverse_append, List.dropWhile_append_of_pos hreverse]

theorem dropWhile_eq_nil (h : ∀ c ∈ cs, p c = true) : cs.dropWhile p = [] := by
  have hdrop : (cs ++ []).dropWhile p = [] := List.dropWhile_append_of_pos h
  rwa [List.append_nil] at hdrop

theorem trimChars_append_blank (h : ∀ c ∈ ds, isBlank c = true) : trimChars (cs ++ ds) = trimChars cs := by
  unfold trimChars
  rw [List.dropWhile_append]
  split
  · -- Nothing but blanks: they are dropped from the front.
    rename_i hempty
    rw [List.isEmpty_iff.mp hempty, dropWhile_eq_nil h]
  · exact dropTrailing_append h

theorem trimChars_eq_nil_iff : trimChars cs = [] ↔ ∀ c ∈ cs, isBlank c = true := by
  constructor
  · intro h
    induction cs with
    | nil => nofun
    | cons c cs ih =>
      cases hc : isBlank c with
      | true =>
        rw [trimChars, List.dropWhile_cons_of_pos hc] at h
        exact List.forall_mem_cons.mpr ⟨hc, ih h⟩
      | false =>
        -- A first character that is no blank is left.
        have hne : ¬ isBlank c = true := by rw [hc]; decide
        rw [trimChars, List.dropWhile_cons_of_neg hne, dropTrailing, List.reverse_eq_nil_iff, List.reverse_cons,
          List.dropWhile_append, List.dropWhile_cons_of_neg hne] at h
        split at h <;> simp at h
  · intro h
    rw [trimChars, dropWhile_eq_nil h]
    rfl

/-! ## 2. Texts -/

structure IsTrimmed (s : String) : Prop where
  head : s.toList.head?.any isBlank = false
  last : s.toList.getLast?.any isBlank = false

theorem isTrimmed_of_forall (h : ∀ c ∈ s.toList, isBlank c = false) : IsTrimmed s :=
  ⟨head_any_eq_false h, last_any_eq_false h⟩

theorem isBlankText_iff : isBlankText s = true ↔ ∀ c ∈ s.toList, isBlank c = true :=
  List.all_eq_true

theorem trim_eq_self (h : IsTrimmed s) : trim s = s := by
  rw [trim, trimChars, dropWhile_eq_self h.head, dropTrailing_eq_self h.last, String.ofList_toList]

theorem trim_padded (hfront : isBlankText front = true) (hback : isBlankText back = true) :
    trim (front ++ s ++ back) = trim s := by
  have hfront := isBlankText_iff.mp hfront
  have hback := isBlankText_iff.mp hback
  rw [trim, trim, String.toList_append, String.toList_append, trimChars_append_blank hback, trimChars, trimChars,
    List.dropWhile_append_of_pos hfront]

theorem trim_eq_empty_iff : trim s = "" ↔ isBlankText s = true := by
  rw [isBlankText_iff, ← trimChars_eq_nil_iff, trim]
  exact String.ofList_eq_empty_iff

end VideoWall.Text
