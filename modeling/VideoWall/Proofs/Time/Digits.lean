import VideoWall.Proofs.Text.Digits
import VideoWall.Time.Grammar

/-!
# Numbers of a timestamp

The digits that the grammar of timestamps admits, what their values are, and the numbers that are
written with leading zeros. Main statements: `number?_of_denotes`, `denotes_of_number?` and
`denotes_padded`.
-/

namespace VideoWall.Layout

open Text

variable {cs rest : List Char} {n : Nat} {counts : List Nat}

/-! ## 1. Counted digits -/

theorem denotes_iff : Denotes cs counts n ↔
    cs.length ∈ counts ∧ (∀ c ∈ cs, isAsciiDigit c = true) ∧ ofDigits (cs.map asciiValue) = n := Iff.rfl

theorem denotes_padded {w : Nat} (hw : 0 < w) (hn : n < Nat.pow 10 w) : Denotes (padded w n) [w] n := by
  have hlength := length_decimal_le hw hn
  have hdigits : ∀ c ∈ padded w n, isAsciiDigit c = true := by
    intro c hc
    rcases List.mem_append.mp hc with hc | hc
    · rw [List.eq_of_mem_replicate hc]
      rfl
    · exact isAsciiDigit_of_mem_decimal n c hc
  refine ⟨?_, hdigits, ?_⟩
  · rw [List.mem_singleton, padded, List.length_append, List.length_replicate]
    omega
  · have hzero : asciiValue '0' = 0 := rfl
    show ofDigits ((padded w n).map asciiValue) = n
    rw [padded, List.map_append, List.map_replicate, hzero, ofDigits, digitsOnto_replicate_zero,
      ← filterMap_digitValue? (isAsciiDigit_of_mem_decimal n)]
    exact ofDigits_decimal n

theorem denotes_padded_two (hn : n < 100) : Denotes (padded 2 n) [2] n :=
  denotes_padded (by decide) hn

theorem denotes_two_iff : Denotes cs [2] n ↔ ∃ a b, cs = [a, b] ∧ isAsciiDigit a = true ∧
    isAsciiDigit b = true ∧ n = 10 * asciiValue a + asciiValue b := by
  constructor
  · rintro ⟨hlength, hdigits, hn⟩
    have hlength := List.mem_singleton.mp hlength
    match cs, hlength with
    | [a, b], _ =>
      refine ⟨a, b, rfl, hdigits a (by simp), hdigits b (by simp), ?_⟩
      rw [← hn]
      show 10 * (10 * 0 + asciiValue a) + asciiValue b = _
      omega
  · rintro ⟨a, b, rfl, ha, hb, rfl⟩
    refine ⟨by simp, by simp [ha, hb], ?_⟩
    show 10 * (10 * 0 + asciiValue a) + asciiValue b = _
    omega

theorem denotes_one_iff : Denotes cs [1] n ↔ ∃ a, cs = [a] ∧ isAsciiDigit a = true ∧ n = asciiValue a := by
  constructor
  · rintro ⟨hlength, hdigits, hn⟩
    obtain ⟨a, rfl⟩ := List.length_eq_one_iff.mp (List.mem_singleton.mp hlength)
    refine ⟨a, rfl, hdigits a (by simp), ?_⟩
    rw [← hn]
    show 10 * 0 + asciiValue a = _
    omega
  · rintro ⟨a, rfl, ha, rfl⟩
    refine ⟨by simp, by simp [ha], ?_⟩
    show 10 * 0 + asciiValue a = _
    omega

theorem denotes_one_or_two_iff : Denotes cs [1, 2] n ↔ Denotes cs [1] n ∨ Denotes cs [2] n := by
  simp only [denotes_iff, List.mem_cons, List.not_mem_nil, or_false, or_and_right]

theorem denotes_four_iff : Denotes cs [4] n ↔ ∃ a b c d, cs = [a, b, c, d] ∧ isAsciiDigit a = true ∧
    isAsciiDigit b = true ∧ isAsciiDigit c = true ∧ isAsciiDigit d = true ∧
    n = ((asciiValue a * 10 + asciiValue b) * 10 + asciiValue c) * 10 + asciiValue d := by
  constructor
  · rintro ⟨hlength, hdigits, hn⟩
    have hlength := List.mem_singleton.mp hlength
    match cs, hlength with
    | [a, b, c, d], _ =>
      refine ⟨a, b, c, d, rfl, hdigits a (by simp), hdigits b (by simp), hdigits c (by simp),
        hdigits d (by simp), ?_⟩
      rw [← hn]
      show 10 * (10 * (10 * (10 * 0 + asciiValue a) + asciiValue b) + asciiValue c) + asciiValue d = _
      omega
  · rintro ⟨a, b, c, d, rfl, ha, hb, hc, hd, rfl⟩
    refine ⟨by simp, by simp [ha, hb, hc, hd], ?_⟩
    show 10 * (10 * (10 * (10 * 0 + asciiValue a) + asciiValue b) + asciiValue c) + asciiValue d = _
    omega

/-! ## 2. Forms of numbers -/

/-- Whether a form admits the numbers from `low` to `high`, with one ASCII digit and with two. -/
structure NumberForm.Spans (form : NumberForm) (low high : Nat) : Prop where
  alone : ∀ a, isAsciiDigit a = true →
    (form.alone a = true ↔ low ≤ asciiValue a ∧ asciiValue a ≤ high)
  together : ∀ a b, isAsciiDigit a = true → isAsciiDigit b = true →
    (form.together a b = true ↔
      low ≤ 10 * asciiValue a + asciiValue b ∧ 10 * asciiValue a + asciiValue b ≤ high)

theorem eq_iff_toNat_eq {a b : Char} : a = b ↔ a.toNat = b.toNat := Char.toNat_inj.symm

theorem spans_monthForm : monthForm.Spans 1 12 where
  alone a ha := by
    have ha := isAsciiDigit_iff.mp ha
    simp [monthForm, between, asciiValue]
    omega
  together a b ha hb := by
    have ha := isAsciiDigit_iff.mp ha
    have hb := isAsciiDigit_iff.mp hb
    simp [monthForm, between, asciiValue, eq_iff_toNat_eq]
    omega

theorem spans_dayForm : dayForm.Spans 1 31 where
  alone a ha := by
    have ha := isAsciiDigit_iff.mp ha
    simp [dayForm, between, asciiValue]
    omega
  together a b ha hb := by
    have ha := isAsciiDigit_iff.mp ha
    have hb := isAsciiDigit_iff.mp hb
    simp [dayForm, between, asciiValue, eq_iff_toNat_eq]
    omega

theorem spans_hourForm : hourForm.Spans 0 23 where
  alone a ha := by
    have ha := isAsciiDigit_iff.mp ha
    simp [hourForm, asciiValue]
    omega
  together a b ha hb := by
    have ha := isAsciiDigit_iff.mp ha
    have hb := isAsciiDigit_iff.mp hb
    simp [hourForm, between, asciiValue, eq_iff_toNat_eq]
    omega

theorem spans_minuteForm : minuteForm.Spans 0 59 where
  alone a ha := by
    have ha := isAsciiDigit_iff.mp ha
    simp [minuteForm, asciiValue]
    omega
  together a b ha hb := by
    have ha := isAsciiDigit_iff.mp ha
    have hb := isAsciiDigit_iff.mp hb
    simp [minuteForm, between, asciiValue]
    omega

theorem spans_secondForm : secondForm.Spans 0 61 where
  alone a ha := by
    have ha := isAsciiDigit_iff.mp ha
    simp [secondForm, asciiValue]
    omega
  together a b ha hb := by
    have ha := isAsciiDigit_iff.mp ha
    have hb := isAsciiDigit_iff.mp hb
    simp [secondForm, between, asciiValue, eq_iff_toNat_eq]
    omega

variable {form : NumberForm} {low high : Nat}

theorem number?_of_denotes (hform : form.Spans low high) (h : Denotes cs [1, 2] n) (hlow : low ≤ n)
    (hhigh : n ≤ high) (hrest : ∀ c ∈ rest.head?, digitValue? c = none) :
    number? form (cs ++ rest) = some (n, rest) := by
  rcases denotes_one_or_two_iff.mp h with h | h
  · obtain ⟨a, rfl, ha, rfl⟩ := denotes_one_iff.mp h
    have halone := (hform.alone a ha).mpr ⟨hlow, hhigh⟩
    have hvalue := digitValue?_of_isAsciiDigit ha
    cases rest with
    | nil => simp [number?, hvalue, halone]
    | cons b rest =>
      have hb := hrest b rfl
      simp [number?, hvalue, hb, halone]
  · obtain ⟨a, b, rfl, ha, hb, rfl⟩ := denotes_two_iff.mp h
    have htogether := (hform.together a b ha hb).mpr ⟨hlow, hhigh⟩
    simp [number?, digitValue?_of_isAsciiDigit ha, digitValue?_of_isAsciiDigit hb, htogether]

theorem denotes_of_number? (hascii : ∀ c ∈ cs, c.toNat < 0x80) (h : number? form cs = some (n, rest)) :
    ∃ taken, cs = taken ++ rest ∧ Denotes taken [1, 2] n := by
  unfold number? at h
  split at h
  · cases h
  rename_i a cs
  obtain ⟨ha, hcs⟩ := List.forall_mem_cons.mp hascii
  split at h
  · cases h
  rename_i x hx
  obtain ⟨hdigit, rfl⟩ := isAsciiDigit_of_digitValue? ha hx
  have hone : Denotes [a] [1, 2] (asciiValue a) :=
    denotes_one_or_two_iff.mpr (.inl (denotes_one_iff.mpr ⟨a, rfl, hdigit, rfl⟩))
  split at h
  · -- The digit is the last character.
    split at h
    · cases h
      exact ⟨[a], rfl, hone⟩
    · cases h
  · rename_i b cs
    split at h
    · split at h
      · cases h
        exact ⟨[a], rfl, hone⟩
      · cases h
    · rename_i y hy
      obtain ⟨hdigit', rfl⟩ := isAsciiDigit_of_digitValue? (hcs b List.mem_cons_self) hy
      split at h
      · cases h
        refine ⟨[a, b], rfl, denotes_one_or_two_iff.mpr (.inr (denotes_two_iff.mpr ?_))⟩
        exact ⟨a, b, rfl, hdigit, hdigit', rfl⟩
      · cases h

end VideoWall.Layout
