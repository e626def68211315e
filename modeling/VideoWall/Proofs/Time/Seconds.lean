import VideoWall.Time.Age

/-!
# Whole seconds

A number of microseconds below `2 ^ 34` seconds is so close to the nearest binary64 number of seconds that the
rounding never reaches the next whole second. Main statement: `wholeSeconds_eq`.
-/

namespace VideoWall

namespace Binary64

variable {num den n : Nat}

/-- Rounding goes up only from a half on. -/
theorem roundHalfEven_cases (num den : Nat) :
    roundHalfEven num den = num / den ∨
      roundHalfEven num den = num / den + 1 ∧ den ≤ 2 * (num % den) := by
  unfold roundHalfEven
  dsimp only
  split
  · exact .inl rfl
  split
  · exact .inr ⟨rfl, by omega⟩
  split
  · exact .inl rfl
  · exact .inr ⟨rfl, by omega⟩

def perSecond : Nat := 1000000

/-- A fraction below `2 ^ 34` keeps at least nineteen binary places. -/
theorem exponentFor_perSecond (hn : n ≠ 0) (hbound : n < twoTo 34 * perSecond) :
    ∃ k, 18 ≤ k ∧ exponentFor n perSecond = .negSucc k := by
  have hden : Nat.log2 perSecond = 19 := by decide
  change n < 2 ^ 34 * 1000000 at hbound
  have hnum : n.log2 < 54 := (Nat.log2_lt hn).mpr (by omega)
  have hle : exponentFor n perSecond ≤ -19 := by
    unfold exponentFor
    rw [hden]
    by_cases htop : n.log2 = 53
    · -- The first guess leaves eighteen places and is too large by one.
      have hguess : (n.log2 : Int) - (19 : Nat) - 52 = -18 := by omega
      have hsmall : n * twoTo 18 < perSecond * twoTo 52 := by
        change n * 2 ^ 18 < 1000000 * 2 ^ 52
        omega
      rw [hguess]
      change max (if n * twoTo 18 < perSecond * twoTo 52 then (-18 : Int) - 1 else -18) minExponent ≤ -19
      rw [if_pos hsmall]
      decide
    · dsimp only
      unfold minExponent
      split <;> omega
  exact ⟨(-exponentFor n perSecond - 1).toNat, by omega, by omega⟩

/-- The significand of a fraction has the same whole part, if there are enough places: one microsecond takes
up more than a half of the last of them. -/
theorem roundHalfEven_div_twoTo {k : Nat} (hk : 19 ≤ k) (n : Nat) :
    roundHalfEven (n * twoTo k) perSecond / twoTo k = n / perSecond := by
  have hplaces : 2 ^ 19 ≤ twoTo k := Nat.pow_le_pow_right (by decide) hk
  generalize twoTo k = places at hplaces ⊢
  have hmod : n % perSecond < perSecond := Nat.mod_lt n (by decide)
  have hscaled : n * places = perSecond * (n / perSecond * places) + n % perSecond * places := by
    rw [← Nat.mul_assoc, ← Nat.add_mul, Nat.div_add_mod]
  -- What is left of a second is at most all of it but for a microsecond.
  have hleft : n % perSecond * places + places ≤ perSecond * places := by
    rw [← Nat.succ_mul]
    exact Nat.mul_le_mul_right places hmod
  have hround := roundHalfEven_cases (n * places) perSecond
  rw [hscaled, Nat.mul_add_div (by decide), Nat.mul_add_mod] at hround
  rw [hscaled]
  generalize roundHalfEven _ perSecond = rounded at hround ⊢
  generalize n % perSecond * places = left at hround hleft
  have hsplit := Nat.div_add_mod left perSecond
  have hless := Nat.mod_lt left (show 0 < perSecond by decide)
  unfold perSecond at hround hleft hsplit hless
  unfold perSecond
  have hlow : n / 1000000 * places ≤ rounded := by
    rcases hround with h | ⟨h, -⟩ <;> omega
  have hhigh : rounded < n / 1000000 * places + places := by
    rcases hround with h | ⟨h, hhalf⟩ <;> omega
  apply Nat.div_eq_of_lt_le hlow
  rwa [Nat.succ_mul]

theorem truncate_finite_negSucc (negative : Bool) (m k : Nat) :
    (finite negative m (.negSucc k)).truncate =
      if negative then -((m / twoTo (k + 1) : Nat) : Int) else ((m / twoTo (k + 1) : Nat) : Int) := rfl

theorem truncate_ofRatio (negative : Bool) (hbound : n < twoTo 34 * perSecond) :
    (ofRatio negative n perSecond).truncate =
      if negative then -((n / perSecond : Nat) : Int) else ((n / perSecond : Nat) : Int) := by
  by_cases hn : n = 0
  · have hmin : minExponent = .negSucc 1073 := rfl
    rw [ofRatio, if_pos hn, hmin, truncate_finite_negSucc, hn, Nat.zero_div, Nat.zero_div]
  obtain ⟨k, hk, hexponent⟩ := exponentFor_perSecond hn hbound
  -- Rounding behind the point does not reach the next whole number.
  have hwhole := roundHalfEven_div_twoTo (k := k + 1) (by omega) n
  have hscaled : scaled n perSecond (.negSucc k) = (n * twoTo (k + 1), perSecond) := rfl
  unfold ofRatio
  rw [if_neg hn, hexponent]
  dsimp only
  rw [hscaled]
  dsimp only
  generalize roundHalfEven (n * twoTo (k + 1)) perSecond = m at hwhole ⊢
  have hrange : ∀ j, ¬ maxExponent < .negSucc j := by
    intro j
    unfold maxExponent
    omega
  by_cases hcarry : m = twoTo 53
  · -- A carry moves the point by one place.
    obtain ⟨j, rfl⟩ : ∃ j, k = j + 1 := ⟨k - 1, by omega⟩
    have hmove : Int.negSucc (j + 1) + 1 = .negSucc j := rfl
    have hsame : twoTo 52 / twoTo (j + 1) = twoTo 53 / twoTo (j + 1 + 1) := by
      change 2 ^ 52 / 2 ^ (j + 1) = 2 ^ 53 / 2 ^ (j + 1 + 1)
      rw [Nat.pow_succ 2 (j + 1), show 2 ^ 53 = 2 ^ 52 * 2 by decide, Nat.mul_div_mul_right _ _ (by decide)]
    rw [if_pos hcarry]
    dsimp only
    rw [hmove, if_neg (hrange j), truncate_finite_negSucc, hsame, ← hcarry, hwhole]
  · rw [if_neg hcarry]
    dsimp only
    rw [if_neg (hrange k), truncate_finite_negSucc, hwhole]

end Binary64

theorem Age.wholeSeconds_eq {n : Int} (hbound : n.natAbs < Binary64.twoTo 34 * 1000000) :
    wholeSeconds n = n.tdiv 1000000 := by
  have htruncate := Binary64.truncate_ofRatio (decide (n < 0)) hbound
  rw [wholeSeconds, Binary64.ofIntRatio]
  refine htruncate.trans ?_
  cases n with
  | ofNat m => rfl
  | negSucc m =>
    rw [if_pos (decide_eq_true (Int.negSucc_lt_zero m))]
    rfl

end VideoWall
