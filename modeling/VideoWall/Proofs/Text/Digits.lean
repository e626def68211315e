import VideoWall.Text.Blank
import VideoWall.Text.Digit
import VideoWall.Text.Replace

/-!
# Digits and written numbers

The ten ASCII digits among the digits of all scripts, and the digits of a number that is written in
decimal.
-/

namespace VideoWall.Text

variable {c : Char} {v : Nat}

/-! ## 1. Digits -/

def asciiValue (c : Char) : Nat := c.toNat - 0x30

theorem isAsciiDigit_iff : isAsciiDigit c = true ↔ 0x30 ≤ c.toNat ∧ c.toNat ≤ 0x39 := by
  simp [isAsciiDigit]

theorem asciiValue_lt (h : isAsciiDigit c = true) : asciiValue c < 10 := by
  have hc := isAsciiDigit_iff.mp h
  unfold asciiValue
  omega

theorem digitValue?_of_isAsciiDigit (h : isAsciiDigit c = true) : digitValue? c = some (asciiValue c) := by
  have hc := isAsciiDigit_iff.mp h
  unfold digitValue?
  rw [if_pos (by omega), if_pos (by simpa using hc)]
  rfl

theorem isAsciiDigit_of_digitValue? (hascii : c.toNat < 0x80) (h : digitValue? c = some v) :
    isAsciiDigit c = true ∧ v = asciiValue c := by
  unfold digitValue? at h
  rw [if_pos hascii] at h
  split at h
  · rename_i hc
    exact ⟨hc, (Option.some.inj h).symm⟩
  · cases h

theorem digitValue?_eq_none (hascii : c.toNat < 0x80) (h : isAsciiDigit c = false) :
    digitValue? c = none := by
  unfold digitValue?
  rw [if_pos hascii]
  exact if_neg (by simpa [isAsciiDigit] using h)

theorem digitValue?_of_isBlank (h : isBlank c = true) : digitValue? c = none := by
  have hdigits : ∀ n ∈ [0x85, 0xA0, 0x1680, 0x2000, 0x2001, 0x2002, 0x2003, 0x2004, 0x2005, 0x2006,
      0x2007, 0x2008, 0x2009, 0x200A, 0x2028, 0x2029, 0x202F, 0x205F, 0x3000],
      zeroDigits.find? (fun z => z ≤ n && n < z + 10) = none := by decide
  simp only [isBlank, Bool.or_eq_true, Bool.and_eq_true, decide_eq_true_eq, beq_iff_eq] at h
  by_cases hascii : c.toNat < 0x80
  · refine digitValue?_eq_none hascii ?_
    rw [isAsciiDigit, Bool.and_eq_false_iff, decide_eq_false_iff_not, decide_eq_false_iff_not]
    omega
  · have hmem : c.toNat ∈ [0x85, 0xA0, 0x1680, 0x2000, 0x2001, 0x2002, 0x2003, 0x2004, 0x2005, 0x2006,
        0x2007, 0x2008, 0x2009, 0x200A, 0x2028, 0x2029, 0x202F, 0x205F, 0x3000] := by
      simp only [List.mem_cons, List.not_mem_nil, or_false]
      omega
    rw [digitValue?, if_neg hascii, hdigits _ hmem]
    rfl

theorem not_isBlank_of_isAsciiDigit (h : isAsciiDigit c = true) : isBlank c = false := by
  cases hblank : isBlank c with
  | false => rfl
  | true =>
    have hnone := digitValue?_of_isBlank hblank
    rw [digitValue?_of_isAsciiDigit h] at hnone
    cases hnone

theorem toNat_ofNat_of_lt {n : Nat} (h : n < 0x80) : (Char.ofNat n).toNat = n := by
  have hascii : ∀ n < 0x80, (Char.ofNat n).toNat = n := by decide
  exact hascii n h

theorem asciiLower_cases (c : Char) :
    asciiLower c = c ∨ 0x41 ≤ c.toNat ∧ c.toNat ≤ 0x5A ∧ (asciiLower c).toNat = c.toNat + 0x20 := by
  unfold asciiLower
  split
  · rename_i h
    simp only [Bool.and_eq_true, decide_eq_true_eq] at h
    exact .inr ⟨h.1, h.2, toNat_ofNat_of_lt (by omega)⟩
  · exact .inl rfl

theorem digitValue?_asciiLower (c : Char) : digitValue? (asciiLower c) = digitValue? c := by
  rcases asciiLower_cases c with h | ⟨h, h', heq⟩
  · rw [h]
  · -- Neither form of a letter is a digit.
    rw [digitValue?_eq_none (by omega) (by simp [isAsciiDigit, heq]; omega),
      digitValue?_eq_none (by omega) (by simp [isAsciiDigit]; omega)]

theorem isBlank_asciiLower (c : Char) : isBlank (asciiLower c) = isBlank c := by
  rcases asciiLower_cases c with h | ⟨h, h', heq⟩
  · rw [h]
  · rw [Bool.eq_iff_iff]
    simp only [isBlank, heq, Bool.or_eq_true, Bool.and_eq_true, decide_eq_true_eq, beq_iff_eq]
    omega

/-! ## 2. Written numbers -/

theorem toNat_digitChar {d : Nat} (h : d < 10) : (digitChar d).toNat = 0x30 + d :=
  toNat_ofNat_of_lt (by omega)

theorem isAsciiDigit_digitChar {d : Nat} (h : d < 10) : isAsciiDigit (digitChar d) = true := by
  rw [isAsciiDigit_iff, toNat_digitChar h]
  omega

theorem isAsciiDigit_of_mem_decimal (n : Nat) : ∀ c ∈ decimal n, isAsciiDigit c = true := by
  induction n using Nat.strongRecOn with
  | _ n ih =>
    intro c hc
    by_cases h : n < 10
    · rw [decimal_of_lt h, List.mem_singleton] at hc
      rw [hc]
      exact isAsciiDigit_digitChar h
    · rw [decimal_of_le (by omega), List.mem_append, List.mem_singleton] at hc
      rcases hc with hc | rfl
      · exact ih _ (by omega) c hc
      · exact isAsciiDigit_digitChar (Nat.mod_lt n (by omega))

theorem length_decimal_le {w n : Nat} (hw : 0 < w) (h : n < Nat.pow 10 w) : (decimal n).length ≤ w := by
  induction w generalizing n with
  | zero => omega
  | succ w ih =>
    by_cases hn : n < 10
    · rw [decimal_of_lt hn, List.length_singleton]
      omega
    · rw [decimal_of_le (by omega), List.length_append, List.length_singleton]
      change n < Nat.pow 10 w * 10 at h
      have hw : 0 < w := by
        rcases Nat.eq_zero_or_pos w with rfl | hw
        · exact absurd h hn
        · exact hw
      have hdiv : n / 10 < Nat.pow 10 w := by omega
      have hlength := ih hw hdiv
      omega

/-- Only the number zero is written with a zero in front. -/
theorem exists_decimal (n : Nat) : ∃ c cs, decimal n = c :: cs ∧ (c = '0' → cs = []) := by
  induction n using Nat.strongRecOn with
  | _ n ih =>
    by_cases h : n < 10
    · exact ⟨_, _, decimal_of_lt h, fun _ => rfl⟩
    · obtain ⟨c, cs, hcs, hzero⟩ := ih (n / 10) (by omega)
      refine ⟨c, cs ++ [digitChar (n % 10)], by rw [decimal_of_le (by omega), hcs]; rfl, ?_⟩
      rintro rfl
      -- A number of at least ten with a zero in front would leave a zero behind.
      rw [hzero rfl] at hcs
      have hvalue := ofDigits_decimal (n / 10)
      rw [hcs] at hvalue
      change 0 = n / 10 at hvalue
      omega

theorem filterMap_digitValue? {cs : List Char} (h : ∀ c ∈ cs, isAsciiDigit c = true) :
    cs.filterMap digitValue? = cs.map asciiValue := by
  induction cs with
  | nil => rfl
  | cons c cs ih =>
    obtain ⟨hc, hcs⟩ := List.forall_mem_cons.mp h
    rw [List.filterMap_cons, digitValue?_of_isAsciiDigit hc, List.map_cons, ← ih hcs]

theorem digitsOnto_replicate_zero (k : Nat) (ds : List Nat) :
    digitsOnto 0 (List.replicate k 0 ++ ds) = digitsOnto 0 ds := by
  induction k with
  | zero => rfl
  | succ k ih =>
    rw [List.replicate_succ, List.cons_append, digitsOnto]
    exact ih

theorem digitsOnto_append_zeros (acc k : Nat) (ds : List Nat) :
    digitsOnto acc (ds ++ List.replicate k 0) = digitsOnto acc ds * Nat.pow 10 k := by
  rw [digitsOnto_append]
  generalize digitsOnto acc ds = n
  induction k generalizing n with
  | zero => simp [digitsOnto]
  | succ k ih =>
    have hpow : Nat.pow 10 (k + 1) = 10 * Nat.pow 10 k := Nat.pow_succ'
    rw [List.replicate_succ, digitsOnto, ih, hpow, Nat.add_zero, Nat.mul_comm 10 n, Nat.mul_assoc]

end VideoWall.Text
