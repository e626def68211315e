import VideoWall.Proofs.Time.Digits

/-!
# Zones of timestamps

The reader of zones reads the zones of the grammar: `zone?_of_isZone` and, where a text is ASCII,
`isZone_of_zone?`. Every offset that is written out is such a zone (`isZone_toChars`).
-/

namespace VideoWall.Layout

open Text

variable {cs rest : List Char} {n : Nat}

/-! ## 1. Minutes and seconds -/

theorem sixty?_of_denotes (h : Denotes cs [2] n) (hn : n ≤ 59) (rest : List Char) :
    sixty? (cs ++ rest) = some (n, rest) := by
  obtain ⟨a, b, rfl, ha, hb, rfl⟩ := denotes_two_iff.mp h
  have hfirst : between '0' '5' a = true := by
    have ha := isAsciiDigit_iff.mp ha
    simp [between]
    unfold asciiValue at hn
    omega
  simp [sixty?, hfirst, digitValue?_of_isAsciiDigit ha, digitValue?_of_isAsciiDigit hb]

theorem denotes_of_sixty? (hascii : ∀ c ∈ cs, c.toNat < 0x80) (h : sixty? cs = some (n, rest)) :
    ∃ taken, cs = taken ++ rest ∧ Denotes taken [2] n ∧ n ≤ 59 := by
  unfold sixty? at h
  split at h
  · rename_i a b cs
    obtain ⟨ha, hcs⟩ := List.forall_mem_cons.mp hascii
    split at h
    · rename_i hfirst
      obtain ⟨x, hx, h⟩ := Option.bind_eq_some_iff.mp h
      obtain ⟨y, hy, h⟩ := Option.bind_eq_some_iff.mp h
      obtain ⟨hdigit, rfl⟩ := isAsciiDigit_of_digitValue? ha hx
      obtain ⟨hdigit', rfl⟩ := isAsciiDigit_of_digitValue? (hcs b List.mem_cons_self) hy
      cases h
      refine ⟨[a, b], rfl, denotes_two_iff.mpr ⟨a, b, rfl, hdigit, hdigit', rfl⟩, ?_⟩
      have hsecond := asciiValue_lt hdigit'
      simp [between] at hfirst
      unfold asciiValue at *
      omega
    · cases h
  · cases h

/-! ## 2. Fractions -/

theorem allDigits?_of_digits (h : ∀ c ∈ cs, isAsciiDigit c = true) :
    allDigits? cs = some (cs.map asciiValue) := by
  unfold allDigits?
  induction cs with
  | nil => rfl
  | cons c cs ih =>
    obtain ⟨hc, hcs⟩ := List.forall_mem_cons.mp h
    rw [List.mapM_cons, digitValue?_of_isAsciiDigit hc, ih hcs]
    rfl

theorem digits_of_allDigits? {ds : List Nat} (hascii : ∀ c ∈ cs, c.toNat < 0x80)
    (h : allDigits? cs = some ds) : (∀ c ∈ cs, isAsciiDigit c = true) ∧ ds = cs.map asciiValue := by
  unfold allDigits? at h
  induction cs generalizing ds with
  | nil =>
    cases h
    exact ⟨by nofun, rfl⟩
  | cons c cs ih =>
    obtain ⟨hc, hcs⟩ := List.forall_mem_cons.mp hascii
    rw [List.mapM_cons] at h
    obtain ⟨x, hx, h⟩ := Option.bind_eq_some_iff.mp h
    obtain ⟨xs, hxs, h⟩ := Option.bind_eq_some_iff.mp h
    obtain ⟨hdigit, rfl⟩ := isAsciiDigit_of_digitValue? hc hx
    obtain ⟨hdigits, rfl⟩ := ih hcs hxs
    cases h
    exact ⟨List.forall_mem_cons.mpr ⟨hdigit, hdigits⟩, rfl⟩

theorem fraction?_digits (hdigits : ∀ c ∈ cs, isAsciiDigit c = true) (hlength : 1 ≤ cs.length)
    (hlength' : cs.length ≤ 6) :
    fraction? ('.' :: cs) = some (ofDigits (cs.map asciiValue) * Nat.pow 10 (6 - cs.length)) := by
  simp only [fraction?]
  rw [allDigits?_of_digits hdigits, Option.bind_eq_bind, Option.bind_some, List.length_map,
    if_pos ⟨hlength, hlength'⟩, ofDigits, digitsOnto_append_zeros]
  rfl

theorem fraction?_of_isFraction {f : Nat} (h : IsFraction cs f) : fraction? cs = some f := by
  cases h with
  | none => rfl
  | digits cs n hcs =>
    obtain ⟨hlength, hdigits, rfl⟩ := denotes_iff.mp hcs
    simp only [List.mem_cons, List.not_mem_nil, or_false] at hlength
    exact fraction?_digits hdigits (by omega) (by omega)

theorem isFraction_of_fraction? {f : Nat} (hascii : ∀ c ∈ cs, c.toNat < 0x80)
    (h : fraction? cs = some f) : IsFraction cs f := by
  unfold fraction? at h
  split at h
  · cases h
    exact .none
  · rename_i cs
    obtain ⟨ds, hds, h⟩ := Option.bind_eq_some_iff.mp h
    split at h
    · rename_i hlength
      obtain ⟨hdigits, rfl⟩ := digits_of_allDigits? (List.forall_mem_cons.mp hascii).2 hds
      rw [List.length_map] at hlength h
      have hvalue := fraction?_digits hdigits hlength.1 hlength.2
      rw [ofDigits, digitsOnto_append_zeros] at h
      cases h
      refine .digits cs _ (denotes_iff.mpr ⟨?_, hdigits, rfl⟩)
      simp only [List.mem_cons, List.not_mem_nil, or_false]
      omega
    · cases h
  · cases h

/-! ## 3. Offsets -/

def separatorOf (colons : Bool) : List Char := if colons then [':'] else []

theorem offsetSeconds?_of_isOffsetSeconds {colons : Bool} {s : Nat}
    (h : IsOffsetSeconds (separatorOf colons) cs s) : offsetSeconds? colons cs = some s := by
  cases h with
  | none => rfl
  | digits seconds fraction s f hseconds hs hfraction =>
    have hread := sixty?_of_denotes hseconds hs fraction
    have hrest := fraction?_of_isFraction hfraction
    cases colons with
    | true => simp [separatorOf, offsetSeconds?, hread, hrest]
    | false =>
      obtain ⟨a, b, rfl, -⟩ := denotes_two_iff.mp hseconds
      simp only [List.cons_append, List.nil_append] at hread
      simp [separatorOf, offsetSeconds?, hread, hrest]

theorem isOffsetSeconds_of_offsetSeconds? {colons : Bool} {s : Nat}
    (hascii : ∀ c ∈ cs, c.toNat < 0x80) (h : offsetSeconds? colons cs = some s) :
    IsOffsetSeconds (separatorOf colons) cs s := by
  unfold offsetSeconds? at h
  split at h
  · cases h
    exact .none
  · rename_i c cs
    -- Behind the separator, if there is one, stand two digits and a fraction.
    obtain ⟨m, rest, f, hf, rfl, taken, hcs, htaken, hle⟩ : ∃ m rest f, fraction? rest = some f ∧
        m * 1000000 + f = s ∧ ∃ taken, c :: cs = separatorOf colons ++ taken ++ rest ∧
          Denotes taken [2] m ∧ m ≤ 59 := by
      cases colons with
      | true =>
        obtain ⟨⟨m, rest⟩, hm, hrest⟩ := Option.bind_eq_some_iff.mp h
        obtain ⟨f, hf, hs⟩ := Option.bind_eq_some_iff.mp hrest
        split at hm
        · rename_i hc
          obtain ⟨taken, rfl, htaken⟩ := denotes_of_sixty? (List.forall_mem_cons.mp hascii).2 hm
          exact ⟨m, rest, f, hf, Option.some.inj hs, taken, by rw [beq_iff_eq.mp hc]; rfl, htaken⟩
        · cases hm
      | false =>
        obtain ⟨⟨m, rest⟩, hm, hrest⟩ := Option.bind_eq_some_iff.mp h
        obtain ⟨f, hf, hs⟩ := Option.bind_eq_some_iff.mp hrest
        exact ⟨m, rest, f, hf, Option.some.inj hs, denotes_of_sixty? hascii hm⟩
    rw [hcs] at hascii ⊢
    have hfraction := isFraction_of_fraction? (fun c hc => hascii c (List.mem_append_right _ hc)) hf
    exact .digits taken rest m f htaken hle hfraction

theorem offsetSize?_of_isOffsetSize (h : IsOffsetSize cs n) : offsetSize? cs = some n := by
  cases h with
  | parts separator hours minutes seconds h m s hseparator hhours hminutes hm hseconds =>
    obtain ⟨a, b, rfl, ha, hb, rfl⟩ := denotes_two_iff.mp hhours
    have hread := sixty?_of_denotes hminutes hm seconds
    obtain ⟨x, y, rfl, hx, -⟩ := denotes_two_iff.mp hminutes
    rcases hseparator with rfl | rfl
    · have hcolon : (x == ':') = false := by
        rw [beq_eq_false_iff_ne]
        rintro rfl
        cases hx
      have hrest : offsetSeconds? false seconds = some s := offsetSeconds?_of_isOffsetSeconds hseconds
      simp only [List.cons_append, List.nil_append] at hread
      simp [offsetSize?, digitValue?_of_isAsciiDigit ha, digitValue?_of_isAsciiDigit hb, hcolon, hread,
        hrest]
    · have hrest : offsetSeconds? true seconds = some s := offsetSeconds?_of_isOffsetSeconds hseconds
      simp only [List.cons_append, List.nil_append] at hread
      simp [offsetSize?, digitValue?_of_isAsciiDigit ha, digitValue?_of_isAsciiDigit hb, hread, hrest]

theorem isOffsetSize_of_offsetSize? (hascii : ∀ c ∈ cs, c.toNat < 0x80) (h : offsetSize? cs = some n) :
    IsOffsetSize cs n := by
  unfold offsetSize? at h
  split at h
  · rename_i a b cs
    obtain ⟨ha, hascii⟩ := List.forall_mem_cons.mp hascii
    obtain ⟨hb, hascii⟩ := List.forall_mem_cons.mp hascii
    obtain ⟨x, hx, h⟩ := Option.bind_eq_some_iff.mp h
    obtain ⟨y, hy, h⟩ := Option.bind_eq_some_iff.mp h
    obtain ⟨⟨m, rest⟩, hm, h⟩ := Option.bind_eq_some_iff.mp h
    obtain ⟨s, hs, h⟩ := Option.bind_eq_some_iff.mp h
    obtain ⟨hdigit, rfl⟩ := isAsciiDigit_of_digitValue? ha hx
    obtain ⟨hdigit', rfl⟩ := isAsciiDigit_of_digitValue? hb hy
    cases h
    have hhours : Denotes [a, b] [2] (10 * asciiValue a + asciiValue b) :=
      denotes_two_iff.mpr ⟨a, b, rfl, hdigit, hdigit', rfl⟩
    -- A colon behind the hours is the separator; without one there is none.
    obtain ⟨behind, hcs, hbehind⟩ : ∃ behind, cs = separatorOf (cs.head? == some ':') ++ behind ∧
        sixty? behind = some (m, rest) := by
      cases hcolons : cs.head? == some ':' with
      | true =>
        obtain ⟨cs, rfl⟩ := List.head?_eq_some_iff.mp (beq_iff_eq.mp hcolons)
        exact ⟨cs, rfl, hm⟩
      | false =>
        rw [hcolons] at hm
        exact ⟨cs, rfl, hm⟩
    have hbehindAscii : ∀ c ∈ behind, c.toNat < 0x80 := by
      intro c hc
      exact hascii c (hcs ▸ List.mem_append_right _ hc)
    obtain ⟨minutes, rfl, hminutes, hle⟩ := denotes_of_sixty? hbehindAscii hbehind
    have hseconds := isOffsetSeconds_of_offsetSeconds?
      (fun c hc => hbehindAscii c (List.mem_append_right _ hc)) hs
    have hseparator : separatorOf (cs.head? == some ':') = [] ∨
        separatorOf (cs.head? == some ':') = [':'] := by
      cases cs.head? == some ':' with
      | true => exact .inr rfl
      | false => exact .inl rfl
    have hsize := IsOffsetSize.parts _ _ _ _ _ _ _ hseparator hhours hminutes hle hseconds
    rw [hcs]
    simpa using hsize
  · cases h

/-! ## 4. Zones -/

theorem zone?_of_isZone {n : Int} (h : IsZone cs n) : zone? cs = some n := by
  cases h with
  | universal => rfl
  | ahead cs n hsize => simp [zone?, offsetSize?_of_isOffsetSize hsize]
  | behind cs n hsize => simp [zone?, offsetSize?_of_isOffsetSize hsize]

theorem isZone_of_zone? {n : Int} (hascii : ∀ c ∈ cs, c.toNat < 0x80) (h : zone? cs = some n) :
    IsZone cs n := by
  unfold zone? at h
  split at h
  · cases h
    exact .universal
  · obtain ⟨m, hm, rfl⟩ := Option.map_eq_some_iff.mp h
    obtain ⟨size, hsize, hcast⟩ := Option.bind_eq_some_iff.mp hm
    cases hcast
    exact .ahead _ _ (isOffsetSize_of_offsetSize? (List.forall_mem_cons.mp hascii).2 hsize)
  · obtain ⟨m, hm, rfl⟩ := Option.map_eq_some_iff.mp h
    obtain ⟨size, hsize, hcast⟩ := Option.bind_eq_some_iff.mp hm
    cases hcast
    exact .behind _ _ (isOffsetSize_of_offsetSize? (List.forall_mem_cons.mp hascii).2 hsize)
  · cases h

theorem IsZone.head {n : Int} (h : IsZone cs n) :
    ∃ c rest, cs = c :: rest ∧ (c = 'Z' ∨ c = '+' ∨ c = '-') := by
  cases h with
  | universal => exact ⟨_, _, rfl, .inl rfl⟩
  | ahead cs n => exact ⟨_, _, rfl, .inr (.inl rfl)⟩
  | behind cs n => exact ⟨_, _, rfl, .inr (.inr rfl)⟩

theorem Denotes.last {counts : List Nat} (h : Denotes cs counts n) (hcounts : 0 ∉ counts) :
    ∃ before c, cs = before ++ [c] ∧ isAsciiDigit c = true := by
  have hne : cs ≠ [] := by
    rintro rfl
    exact hcounts h.1
  refine ⟨cs.dropLast, cs.getLast hne, (List.dropLast_concat_getLast hne).symm, ?_⟩
  exact h.2.1 _ (List.getLast_mem hne)

theorem IsOffsetSize.last (h : IsOffsetSize cs n) :
    ∃ before c, cs = before ++ [c] ∧ isAsciiDigit c = true := by
  cases h with
  | parts separator hours minutes seconds h m s _ _ hminutes _ hseconds =>
    cases hseconds with
    | none =>
      obtain ⟨before, c, rfl, hc⟩ := hminutes.last (by decide)
      exact ⟨hours ++ separator ++ before, c, by simp, hc⟩
    | digits seconds fraction s f hseconds _ hfraction =>
      cases hfraction with
      | none =>
        obtain ⟨before, c, rfl, hc⟩ := hseconds.last (by decide)
        exact ⟨hours ++ separator ++ minutes ++ (separator ++ before), c, by simp, hc⟩
      | digits fraction n hfraction =>
        obtain ⟨before, c, rfl, hc⟩ := hfraction.last (by decide)
        exact ⟨hours ++ separator ++ minutes ++ (separator ++ seconds ++ '.' :: before), c, by simp, hc⟩

theorem IsZone.last {n : Int} (h : IsZone cs n) :
    ∃ before c, cs = before ++ [c] ∧ (c = 'Z' ∨ isAsciiDigit c = true) := by
  cases h with
  | universal => exact ⟨[], 'Z', rfl, .inl rfl⟩
  | ahead cs n hsize =>
    obtain ⟨before, c, rfl, hc⟩ := hsize.last
    exact ⟨'+' :: before, c, rfl, .inr hc⟩
  | behind cs n hsize =>
    obtain ⟨before, c, rfl, hc⟩ := hsize.last
    exact ⟨'-' :: before, c, rfl, .inr hc⟩

/-! ## 5. Written offsets -/

def secondsChars (s micro : Nat) : List Char :=
  if micro ≠ 0 then ':' :: padded 2 s ++ '.' :: padded 6 micro
  else if s ≠ 0 then ':' :: padded 2 s
  else []

theorem isOffsetSeconds_secondsChars {s micro : Nat} (hs : s < 60) (hmicro : micro < 1000000) :
    IsOffsetSeconds [':'] (secondsChars s micro) (s * 1000000 + micro) := by
  have hseconds : Denotes (padded 2 s) [2] s := denotes_padded_two (by omega)
  unfold secondsChars
  split
  · have hdenotes : Denotes (padded 6 micro) [6] micro := denotes_padded (by decide) hmicro
    have hlength : (padded 6 micro).length = 6 := List.mem_singleton.mp hdenotes.1
    have hfraction : IsFraction ('.' :: padded 6 micro) (micro * Nat.pow 10 (6 - (padded 6 micro).length)) :=
      .digits _ _ ⟨by simp [hlength], hdenotes.2⟩
    rw [hlength, show micro * Nat.pow 10 (6 - 6) = micro from Nat.mul_one micro] at hfraction
    exact .digits (padded 2 s) _ s micro hseconds (by omega) hfraction
  · rename_i hzero
    obtain rfl : micro = 0 := by omega
    split
    · have hparts : IsOffsetSeconds [':'] ([':'] ++ padded 2 s ++ []) (s * 1000000 + 0) :=
        .digits _ _ s 0 hseconds (by omega) .none
      rwa [List.append_nil] at hparts
    · rename_i hs
      obtain rfl : s = 0 := by omega
      exact .none

theorem toChars_eq (z : ZoneOffset) {n : Nat} (hn : z.microseconds.natAbs = n) :
    z.toChars = (if z.microseconds < 0 then '-' else '+') ::
      (padded 2 (n / 1000000 / 3600) ++ [':'] ++ padded 2 (n / 1000000 / 60 % 60) ++
        secondsChars (n / 1000000 % 60) (n % 1000000)) := by
  unfold ZoneOffset.toChars secondsChars
  rw [hn]
  dsimp only
  split
  · simp
  · split
    · simp
    · simp

theorem isZone_toChars (z : ZoneOffset) : IsZone z.toChars z.microseconds := by
  obtain ⟨n, hn⟩ : ∃ n, z.microseconds.natAbs = n := ⟨_, rfl⟩
  have hlt := z.natAbs_lt
  unfold microsecondsPerDay at hlt
  -- The size of the offset is that of its hours, minutes, seconds and microseconds.
  have htotal : (n / 1000000 / 3600 * 60 + n / 1000000 / 60 % 60) * 60000000 +
      (n / 1000000 % 60 * 1000000 + n % 1000000) = n := by omega
  have hhours : Denotes (padded 2 (n / 1000000 / 3600)) [2] (n / 1000000 / 3600) :=
    denotes_padded_two (by omega)
  have hminutes : Denotes (padded 2 (n / 1000000 / 60 % 60)) [2] (n / 1000000 / 60 % 60) :=
    denotes_padded_two (by omega)
  have hseconds : IsOffsetSeconds [':'] (secondsChars (n / 1000000 % 60) (n % 1000000))
      (n / 1000000 % 60 * 1000000 + n % 1000000) :=
    isOffsetSeconds_secondsChars (by omega) (by omega)
  have hsize := IsOffsetSize.parts [':'] _ _ _ _ _ _ (.inr rfl) hhours hminutes (by omega) hseconds
  rw [htotal] at hsize
  rw [toChars_eq z hn]
  by_cases hnegative : z.microseconds < 0
  · rw [if_pos hnegative]
    have hvalue : z.microseconds = -(n : Int) := by omega
    rw [hvalue]
    exact .behind _ _ hsize
  · rw [if_neg hnegative]
    have hvalue : z.microseconds = (n : Int) := by omega
    rw [hvalue]
    exact .ahead _ _ hsize

end VideoWall.Layout
