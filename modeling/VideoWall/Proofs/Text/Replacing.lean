import VideoWall.Text.Replace

/-!
# What a replacement leaves

A text with its occurrences of a pattern substituted, said without a scanner: the first occurrence makes way
for the substitute, what stands behind it is replaced in turn, and a text without an occurrence stays as it
is. Main statement: `replaces_iff`.
-/

namespace VideoWall.Text

/-- Whether a text is another one with every occurrence of a pattern, from left to right and without overlap,
substituted. -/
inductive Replaces (pattern sub : List Char) : List Char → List Char → Prop where
  | none {cs : List Char} : ¬ pattern <:+: cs → Replaces pattern sub cs cs
  /-- The pattern does not occur before the place where it is substituted. -/
  | first {before behind out : List Char} : ¬ pattern <:+: before ++ pattern.dropLast →
      Replaces pattern sub behind out → Replaces pattern sub (before ++ pattern ++ behind) (before ++ sub ++ out)

variable {pattern sub cs out before : List Char}

theorem replaceSkipping_eq (k : Nat) (cs : List Char) :
    replaceSkipping pattern sub k cs = replaceAll pattern sub (cs.drop k) := by
  induction cs generalizing k with
  | nil => cases k <;> rfl
  | cons c cs ih =>
    cases k with
    | zero => rfl
    | succ k => exact ih k

theorem replaceAll_cons_of_no_match {c : Char} (h : ¬ pattern <+: c :: cs) :
    replaceAll pattern sub (c :: cs) = c :: replaceAll pattern sub cs := by
  rw [replaceAll, replaceSkipping, if_neg (by rwa [List.isPrefixOf_iff_prefix])]
  rfl

theorem replaceAll_of_absent (h : ¬ pattern <:+: cs) : replaceAll pattern sub cs = cs := by
  induction cs with
  | nil => rfl
  | cons c cs ih =>
    rw [List.infix_cons_iff, not_or] at h
    rw [replaceAll_cons_of_no_match h.1, ih h.2]

theorem replaceAll_pattern_append (hpattern : pattern ≠ []) (behind : List Char) :
    replaceAll pattern sub (pattern ++ behind) = sub ++ replaceAll pattern sub behind := by
  cases pattern with
  | nil => exact absurd rfl hpattern
  | cons p ps =>
    have hprefix : (p :: ps).isPrefixOf (p :: (ps ++ behind)) = true := by
      rw [List.isPrefixOf_iff_prefix]
      exact List.prefix_append (p :: ps) behind
    rw [List.cons_append, replaceAll, replaceSkipping, if_pos hprefix, replaceSkipping_eq]
    simp

theorem dropLast_starts_occurrence (before behind : List Char) :
    before ++ pattern.dropLast <+: before ++ pattern ++ behind :=
  ((List.prefix_append_right_inj before).mpr pattern.dropLast_prefix).trans (List.prefix_append _ behind)

/-- The end of a first occurrence is the last character of the pattern, so that an occurrence which starts
earlier would lie in front of it. -/
theorem no_match_of_absent {c : Char} (h : ¬ pattern <:+: c :: before ++ pattern.dropLast)
    (behind : List Char) : ¬ pattern <+: c :: before ++ pattern ++ behind := by
  intro hprefix
  apply h
  apply List.IsPrefix.isInfix
  apply List.prefix_of_prefix_length_le hprefix (dropLast_starts_occurrence (c :: before) behind)
  simp only [List.length_append, List.length_cons, List.length_dropLast]
  omega

theorem replaceAll_append (hpattern : pattern ≠ []) (h : ¬ pattern <:+: before ++ pattern.dropLast)
    (behind : List Char) :
    replaceAll pattern sub (before ++ pattern ++ behind) = before ++ sub ++ replaceAll pattern sub behind := by
  induction before with
  | nil => exact replaceAll_pattern_append hpattern behind
  | cons c before ih =>
    have hprefix := no_match_of_absent h behind
    rw [List.cons_append, List.infix_cons_iff, not_or] at h
    simp only [List.cons_append] at hprefix ⊢
    rw [replaceAll_cons_of_no_match hprefix, ih h.2]

theorem exists_first_match (hpattern : pattern ≠ []) (h : pattern <:+: cs) :
    ∃ before behind, cs = before ++ pattern ++ behind ∧ ¬ pattern <:+: before ++ pattern.dropLast := by
  induction cs with
  | nil => exact absurd (List.infix_nil.mp h) hpattern
  | cons c cs ih =>
    by_cases hprefix : pattern <+: c :: cs
    · obtain ⟨behind, hbehind⟩ := hprefix
      refine ⟨[], behind, hbehind.symm, ?_⟩
      -- The pattern does not fit into itself without its last character.
      intro hshort
      have hlength := hshort.length_le
      have hpos := List.length_pos_iff.mpr hpattern
      simp only [List.nil_append, List.length_dropLast] at hlength
      omega
    · rw [List.infix_cons_iff, or_iff_right hprefix] at h
      obtain ⟨before, behind, rfl, hfirst⟩ := ih h
      refine ⟨c :: before, behind, rfl, ?_⟩
      rw [List.cons_append, List.infix_cons_iff, or_iff_left hfirst]
      -- An occurrence that starts earlier would start the text.
      intro hearly
      apply hprefix
      exact hearly.trans (dropLast_starts_occurrence (c :: before) behind)

/-- Scanning a text substitutes exactly the occurrences of a pattern. -/
theorem replaces_iff (hpattern : pattern ≠ []) :
    Replaces pattern sub cs out ↔ out = replaceAll pattern sub cs := by
  constructor
  · intro h
    induction h with
    | none h => exact (replaceAll_of_absent h).symm
    | first h _ ih => rw [replaceAll_append hpattern h, ih]
  · rintro rfl
    -- What stands behind an occurrence is shorter than the text.
    induction hn : cs.length using Nat.strongRecOn generalizing cs with
    | _ n ih =>
      by_cases h : pattern <:+: cs
      · obtain ⟨before, behind, rfl, hfirst⟩ := exists_first_match hpattern h
        have hpos := List.length_pos_iff.mpr hpattern
        rw [replaceAll_append hpattern hfirst]
        apply Replaces.first hfirst
        apply ih behind.length _ rfl
        simp only [List.length_append] at hn
        omega
      · rw [replaceAll_of_absent h]
        exact .none h

end VideoWall.Text
