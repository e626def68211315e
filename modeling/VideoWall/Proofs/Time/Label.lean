import VideoWall.Html.Card
import VideoWall.Proofs.Text.Digits
import VideoWall.Proofs.Time.Seconds

/-!
# Labels of ages

The label of an age shows whole units, as many as fit, in the greatest unit that fits at all; one label does
so, and it never shows less for what is older. Main statement: `label_is_tight_and_monotone`.
-/

namespace VideoWall.Age

variable {a b : Age} {n m : Nat} {u w : Unit} {s t : Int} {posted now : Stamp}

/-! ## 1. Units -/

/-- Whether a number of units is as many as fit into a number of seconds, and fewer than the next greater
unit has. -/
structure Fits (n : Nat) (u : Unit) (s : Int) : Prop where
  pos : 1 ≤ n
  le : n * u.seconds ≤ s
  lt : s < (n + 1) * u.seconds
  minutes_le : u = .minute → n ≤ 59
  hours_le : u = .hour → n ≤ 23

theorem Fits.unique (h : Fits n u s) (h' : Fits m w s) : n = m ∧ u = w := by
  obtain ⟨hpos, hle, hlt, hminutes, hhours⟩ := h
  obtain ⟨hpos', hle', hlt', hminutes', hhours'⟩ := h'
  -- Within one unit the bounds meet once; the numbers of one unit end where those of the next begin.
  cases u <;> cases w
  all_goals
    simp only [Unit.seconds, forall_const, reduceCtorEq, and_true, and_false] at *
    omega

theorem Fits.sixty_le (h : Fits n u s) : 60 ≤ s := by
  have hpos := h.pos
  have hle := h.le
  cases u
  all_goals
    simp only [Unit.seconds] at hle
    omega

theorem exists_unit {k : Nat} (h : 60 ≤ k) : ∃ u, units.find? (fun u => u.seconds ≤ k) = some u ∧
    u.seconds ≤ k ∧ (u = .minute → k < 3600) ∧ (u = .hour → k < 86400) := by
  by_cases hday : 86400 ≤ k
  · exact ⟨.day, by simp [units, Unit.seconds, hday], hday, nofun, nofun⟩
  by_cases hhour : 3600 ≤ k
  · exact ⟨.hour, by simp [units, Unit.seconds, hday, hhour], hhour, nofun, fun _ => by omega⟩
  · exact ⟨.minute, by simp [units, Unit.seconds, hday, hhour, h], h, fun _ => by omega, nofun⟩

theorem fits_div {k : Nat} (hle : u.seconds ≤ k) (hminute : u = .minute → k < 3600)
    (hhour : u = .hour → k < 86400) : Fits (k / u.seconds) u k := by
  have hpos : 0 < u.seconds := by cases u <;> decide
  constructor
  · exact Nat.div_pos hle hpos
  · exact_mod_cast Nat.div_mul_le_self k u.seconds
  · rw [Int.mul_comm]
    exact_mod_cast Nat.lt_mul_div_succ k hpos
  · rintro rfl
    have hk := hminute rfl
    simp only [Unit.seconds]
    omega
  · rintro rfl
    have hk := hhour rfl
    simp only [Unit.seconds]
    omega

/-- Seconds below a minute are no age yet; from a minute on the first unit that fits is found, and shown as
often as it fits. -/
theorem ofSeconds_cases (s : Int) : s < 60 ∧ ofSeconds s.toNat = .now ∨
    ∃ n u, units.find? (fun u => u.seconds ≤ s) = some u ∧ ofSeconds s.toNat = past n u ∧ Fits n u s := by
  by_cases hnow : s < 60
  · exact .inl ⟨hnow, if_pos (by omega)⟩
  right
  obtain ⟨k, rfl⟩ := Int.eq_ofNat_of_zero_le (show 0 ≤ s by omega)
  obtain ⟨u, hfind, hle, hminute, hhour⟩ := exists_unit (k := k) (by omega)
  refine ⟨k / u.seconds, u, ?_, ?_, fits_div hle hminute hhour⟩
  · simp only [Int.ofNat_le]
    exact hfind
  · rw [Int.toNat_natCast, ofSeconds, if_neg (by omega), hfind]

theorem ofSeconds_eq_now_iff : ofSeconds s.toNat = .now ↔ s < 60 := by
  rcases ofSeconds_cases s with ⟨hs, heq⟩ | ⟨n, u, -, heq, hfits⟩
  · exact iff_of_true heq hs
  · rw [heq]
    exact iff_of_false nofun (Int.not_lt.mpr hfits.sixty_le)

theorem ofSeconds_eq_past_iff : ofSeconds s.toNat = past n u ↔ Fits n u s := by
  rcases ofSeconds_cases s with ⟨hs, heq⟩ | ⟨m, w, -, heq, hfits⟩
  · rw [heq]
    exact iff_of_false nofun fun h => Int.not_lt.mpr h.sixty_le hs
  · rw [heq]
    constructor
    · intro h
      obtain ⟨rfl, rfl⟩ := past.inj h
      exact hfits
    · intro h
      obtain ⟨rfl, rfl⟩ := hfits.unique h
      rfl

theorem length_ofSeconds_le (h : s ≤ t) : (ofSeconds s.toNat).length ≤ (ofSeconds t.toNat).length := by
  rcases ofSeconds_cases s with ⟨-, heq⟩ | ⟨n, u, -, heq, hfits⟩
  · rw [heq]
    exact Nat.zero_le _
  rcases ofSeconds_cases t with ⟨ht, -⟩ | ⟨m, w, -, heq', hfits'⟩
  · have hs := hfits.sixty_le
    omega
  rw [heq, heq']
  obtain ⟨hpos, hle, hlt, hminutes, hhours⟩ := hfits
  obtain ⟨hpos', hle', hlt', hminutes', hhours'⟩ := hfits'
  show n * u.seconds ≤ m * w.seconds
  cases u <;> cases w
  all_goals
    simp only [Unit.seconds, forall_const, reduceCtorEq, false_implies] at *
    omega

/-! ## 2. Labels -/

theorem letter_injective (h : u.letter = w.letter) : u = w := by
  cases u <;> cases w
  all_goals first | rfl | exact absurd h (by decide)

theorem decimal_injective (h : Text.decimal n = Text.decimal m) : n = m := by
  rw [← Text.ofDigits_decimal n, h, Text.ofDigits_decimal]

theorem label_past_ne_now : (past n u).label ≠ "now" := by
  intro h
  have hchars : Text.decimal n ++ [u.letter] = ['n', 'o'] ++ ['w'] := String.ofList_injective h
  -- The last letter of `now` stands for no unit.
  have hletter := (List.append_singleton_inj.mp hchars).2
  cases u <;> exact absurd hletter (by decide)

theorem label_injective (h : a.label = b.label) : a = b := by
  cases a with
  | now =>
    cases b with
    | now => rfl
    | past m w => exact absurd h.symm label_past_ne_now
  | past n u =>
    cases b with
    | now => exact absurd h label_past_ne_now
    | past m w =>
      have hchars : Text.decimal n ++ [u.letter] = Text.decimal m ++ [w.letter] :=
        String.ofList_injective h
      obtain ⟨hcount, hletter⟩ := List.append_singleton_inj.mp hchars
      rw [decimal_injective hcount, letter_injective hletter]

/-! ## 3. Two timestamps -/

theorem since_eq (hposted : posted.isZoned = true) (hnow : now.isZoned = true)
    (hbound : (now.instant - posted.instant).natAbs < Binary64.twoTo 33 * 1000000) :
    since posted now = .ok (ofSeconds ((now.instant - posted.instant).tdiv 1000000).toNat) := by
  have hwhole := wholeSeconds_eq (n := now.instant - posted.instant)
    (Nat.lt_trans hbound (by decide))
  rw [since, Stamp.difference, if_pos (hnow.trans hposted.symm), ← hwhole]
  rfl

/-- Less than `2 ^ 33` seconds from one timestamp to another that both carry offsets, the label is `now` if
they are less than a minute apart or the other way round. Otherwise a unit fits, and the label is a number
and a unit: the only ones of which that many fit into the whole seconds, but no more, and fewer than the next
greater unit has. The label is a matter of the two instants; it denotes one age, which is no shorter for what
is older. -/
theorem label_is_tight_and_monotone (posted now : Stamp) (hposted : posted.isZoned = true)
    (hnow : now.isZoned = true)
    (hbound : (now.instant - posted.instant).natAbs < Binary64.twoTo 33 * 1000000) :
    ∃ (age : Age) (s : Int), since posted now = .ok age ∧
      Html.Card.ageText now (some posted) = .ok age.label ∧
      s = (now.instant - posted.instant).tdiv 1000000 ∧
      (age.label = "now" ↔ s < 60) ∧
      (60 ≤ s → ∃ n u, units.find? (fun u => u.seconds ≤ s) = some u ∧ age = past n u) ∧
      (∀ n u, age.label = String.ofList (Text.decimal n ++ [u.letter]) ↔ Fits n u s) ∧
      (∀ posted' now' : Stamp, posted'.isZoned = true → now'.isZoned = true →
        posted'.instant = posted.instant → now'.instant = now.instant → since posted' now' = .ok age) ∧
      (∀ a : Age, a.label = age.label → a = age) ∧
      ∀ older : Stamp, older.isZoned = true → older.instant ≤ posted.instant →
        (now.instant - older.instant).natAbs < Binary64.twoTo 33 * 1000000 →
        ∃ age', since older now = .ok age' ∧ age.length ≤ age'.length := by
  have hsince := since_eq hposted hnow hbound
  refine ⟨_, _, hsince, ?_, rfl, ?_, ?_, ?_, ?_, fun _ => label_injective, ?_⟩
  · rw [Html.Card.ageText, hsince]
    rfl
  · rw [← ofSeconds_eq_now_iff]
    exact ⟨fun h => label_injective (b := .now) h, congrArg label⟩
  · intro hs
    obtain ⟨hless, -⟩ | ⟨n, u, hfind, heq, -⟩ :=
      ofSeconds_cases ((now.instant - posted.instant).tdiv 1000000)
    · omega
    · exact ⟨n, u, hfind, heq⟩
  · intro n u
    rw [← ofSeconds_eq_past_iff]
    exact ⟨fun h => label_injective (b := past n u) h, congrArg label⟩
  · intro posted' now' hposted' hnow' hinstant hinstant'
    rw [since_eq hposted' hnow' (by rwa [hinstant, hinstant']), hinstant, hinstant']
  · intro older holder hle hbound'
    refine ⟨_, since_eq holder hnow hbound', length_ofSeconds_le ?_⟩
    apply Int.tdiv_le_tdiv (by decide)
    omega

def secondDay (hour microsecond : Nat) (offset : Int) : Stamp where
  date := (Date.of? 1 1 2).getD .first
  time := .ofMicroseconds (hour * 3600000000 + microsecond)
  offset := ZoneOffset.of? offset

/-- A microsecond less than four hours, between clocks of different zones; and the other way round. -/
theorem label_of_almost_four_hours :
    (secondDay 12 0 0).instant - (secondDay 10 1 7200000000).instant = 4 * 3600000000 - 1 ∧
    Html.Card.ageText (secondDay 12 0 0) (some (secondDay 10 1 7200000000)) = .ok "3h" ∧
    Html.Card.ageText (secondDay 10 1 7200000000) (some (secondDay 12 0 0)) = .ok "now" := by
  obtain ⟨age, s, -, htext, hs, -, -, hfits, -⟩ := label_is_tight_and_monotone (secondDay 10 1 7200000000)
    (secondDay 12 0 0) (by decide) (by decide) (by decide)
  obtain ⟨age', s', -, htext', hs', hless, -⟩ := label_is_tight_and_monotone (secondDay 12 0 0)
    (secondDay 10 1 7200000000) (by decide) (by decide) (by decide)
  refine ⟨by decide, ?_, ?_⟩
  · have hwhole : s = 14399 := hs.trans (by decide)
    have hthree : Fits 3 .hour s := by
      rw [hwhole]
      constructor <;> decide
    rw [htext, (hfits 3 .hour).mpr hthree, Text.decimal_of_lt (by decide)]
    rfl
  · have hwhole : s' = -14399 := hs'.trans (by decide)
    rw [htext', hless.mpr (by omega)]

end VideoWall.Age
