import VideoWall.Number.Literal
import VideoWall.Proofs.Text.Digits
import VideoWall.Proofs.Text.Trimming

/-!
# Written numbers

An integer of at most as many digits as are read is read back from its text, and no number has blanks in its
text. Main statements: `integer?_ofInt` and `Binary64.isTrimmed_toText`.
-/

namespace VideoWall

namespace Number

variable {cs : List Char} {n : Int}

/-! ## 1. Integers -/

theorem takeDigits_eq (h : ∀ c ∈ cs, Text.isAsciiDigit c = true) : takeDigits cs = (cs.map Text.asciiValue, []) := by
  induction cs with
  | nil => rfl
  | cons c cs ih =>
    obtain ⟨hc, hcs⟩ := List.forall_mem_cons.mp h
    rw [takeDigits, Text.digitValue?_of_isAsciiDigit hc, ih hcs]
    rfl

theorem underscoresAreInside_of_not_mem (h : '_' ∉ cs) (afterDigit : Bool) :
    underscoresAreInside afterDigit cs = true := by
  induction cs generalizing afterDigit with
  | nil => rfl
  | cons c cs ih =>
    rw [List.mem_cons, not_or] at h
    rw [underscoresAreInside.eq_3 _ _ _ (fun hc => h.1 hc.symm)]
    exact ih h.2 _

theorem withoutUnderscores?_eq (h : '_' ∉ cs) : withoutUnderscores? cs = some cs := by
  have hall : ∀ c ∈ cs, (c != '_') = true := by
    intro c hc
    rw [bne_iff_ne]
    rintro rfl
    exact h hc
  rw [withoutUnderscores?, if_pos (underscoresAreInside_of_not_mem h false), List.filter_eq_self.mpr hall]

theorem withoutMargins_eq (h : ∀ c ∈ cs, Text.isBlank c = false) : withoutMargins cs = cs := by
  have hmargin : ∀ c ∈ cs, isMargin c = false := by
    intro c hc
    rw [isMargin, h c hc]
    rfl
  rw [withoutMargins, Text.dropWhile_eq_self (Text.head_any_eq_false hmargin),
    Text.dropTrailing_eq_self (Text.last_any_eq_false hmargin)]

def IsIntegerChar (c : Char) : Prop := c = '-' ∨ Text.isAsciiDigit c = true

theorem isIntegerChar_of_mem (n : Int) : ∀ c ∈ Text.decimalInt n, IsIntegerChar c := by
  intro c hc
  have hdigits := Text.isAsciiDigit_of_mem_decimal n.natAbs
  unfold Text.decimalInt at hc
  split at hc
  · rcases List.mem_cons.mp hc with rfl | hc
    · exact .inl rfl
    · exact .inr (hdigits c hc)
  · exact .inr (hdigits c hc)

theorem IsIntegerChar.not_isBlank {c : Char} (h : IsIntegerChar c) : Text.isBlank c = false := by
  rcases h with rfl | h
  · decide
  · exact Text.not_isBlank_of_isAsciiDigit h

theorem isTrimmed_ofInt (n : Int) : Text.IsTrimmed (Text.ofInt n) := by
  apply Text.isTrimmed_of_forall
  rw [Text.ofInt, String.toList_ofList]
  exact fun c hc => (isIntegerChar_of_mem n c hc).not_isBlank

theorem takeSign_decimalInt (n : Int) :
    takeSign (Text.decimalInt n) = (decide (n < 0), Text.decimal n.natAbs) := by
  unfold Text.decimalInt
  split
  · rename_i hneg
    rw [takeSign, decide_eq_true hneg]
  · rename_i hneg
    rw [decide_eq_false hneg]
    obtain ⟨c, cs, hcs, -⟩ := Text.exists_decimal n.natAbs
    have hc := Text.isAsciiDigit_of_mem_decimal n.natAbs c (by rw [hcs]; exact List.mem_cons_self)
    -- A digit is no sign.
    rw [hcs]
    unfold takeSign
    split
    · rename_i hminus
      cases hminus
      cases hc
    · rename_i hplus
      cases hplus
      cases hc
    · rfl

theorem integer?_ofInt (h : n.natAbs < Nat.pow 10 digitLimit) : integer? (Text.ofInt n) = some n := by
  have hchars := isIntegerChar_of_mem n
  have hunderscore : '_' ∉ Text.decimalInt n := by
    intro hmem
    rcases hchars _ hmem with hsign | hdigit
    · cases hsign
    · cases hdigit
  have hdigits := Text.isAsciiDigit_of_mem_decimal n.natAbs
  have hvalue : Text.ofDigits ((Text.decimal n.natAbs).map Text.asciiValue) = n.natAbs := by
    rw [← Text.filterMap_digitValue? hdigits, Text.ofDigits_decimal]
  have hsome : ((Text.decimal n.natAbs).map Text.asciiValue).isEmpty = false := by
    obtain ⟨c, cs, hcs, -⟩ := Text.exists_decimal n.natAbs
    rw [hcs]
    rfl
  have hfew : ¬ digitLimit < ((Text.decimal n.natAbs).map Text.asciiValue).length := by
    have hlength := Text.length_decimal_le (by decide) h
    rw [List.length_map]
    omega
  -- A written integer has neither margins nor underscores, which the reader drops first.
  rw [integer?, Text.ofInt, String.toList_ofList, withoutMargins_eq fun c hc => (hchars c hc).not_isBlank,
    withoutUnderscores?_eq hunderscore]
  simp only [Option.bind_eq_bind, Option.bind_some, takeSign_decimalInt, takeDigits_eq hdigits, hsome, hvalue,
    decide_eq_false hfew, Bool.or_self, Bool.false_eq_true, if_false, decide_eq_true_eq]
  split
  · congr 1
    omega
  · congr 1
    omega

end Number

namespace Binary64

/-! ## 2. Binary numbers -/

def numeric : List Char := ['-', '+', '.', 'e', 'i', 'n', 'f', 'a']

def IsNumeric (cs : List Char) : Prop := ∀ c ∈ cs, c ∈ numeric ∨ Text.isAsciiDigit c = true

variable {cs ds : List Char}

theorem IsNumeric.append (hcs : IsNumeric cs) (hds : IsNumeric ds) : IsNumeric (cs ++ ds) := by
  intro c hc
  rcases List.mem_append.mp hc with hc | hc
  · exact hcs c hc
  · exact hds c hc

theorem IsNumeric.mono (hcs : IsNumeric cs) (h : ds ⊆ cs) : IsNumeric ds := fun c hc => hcs c (h hc)

theorem isNumeric_of_all (h : cs.all numeric.contains = true) : IsNumeric cs :=
  fun c hc => .inl (List.contains_iff_mem.mp (List.all_eq_true.mp h c hc))

theorem isNumeric_decimal (n : Nat) : IsNumeric (Text.decimal n) :=
  fun c hc => .inr (Text.isAsciiDigit_of_mem_decimal n c hc)

theorem isNumeric_zeros (n : Nat) : IsNumeric (List.replicate n '0') := by
  intro c hc
  rw [List.eq_of_mem_replicate hc]
  exact .inr rfl

theorem IsNumeric.cons {c : Char} (hc : c ∈ numeric ∨ Text.isAsciiDigit c = true) (hcs : IsNumeric cs) :
    IsNumeric (c :: cs) :=
  List.forall_mem_cons.mpr ⟨hc, hcs⟩

theorem IsNumeric.positional (h : IsNumeric ds) (point : Int) : IsNumeric (positional ds point) := by
  unfold Binary64.positional
  split
  · exact .cons (.inr rfl) (.cons (.inl (by decide)) ((isNumeric_zeros _).append h))
  · have hfilled := h.append (isNumeric_zeros (point.toNat - ds.length))
    refine (hfilled.mono (List.take_subset _ _)).append (.cons (.inl (by decide)) ?_)
    split
    · exact isNumeric_zeros 1
    · exact hfilled.mono (List.drop_subset _ _)

theorem IsNumeric.scientific (h : IsNumeric ds) (exponent : Int) : IsNumeric (scientific ds exponent) := by
  unfold Binary64.scientific
  refine IsNumeric.append ?_ (.cons (.inl (by decide)) (.cons ?_ ?_))
  · split
    · rename_i d c cs
      obtain ⟨hd, hrest⟩ := List.forall_mem_cons.mp h
      exact .cons hd (.cons (.inl (by decide)) hrest)
    · exact h
  · split
    · exact .inl (by decide)
    · exact .inl (by decide)
  · exact (isNumeric_zeros _).append (isNumeric_decimal _)

theorem isNumeric_positiveChars (m : Nat) (e : Int) : IsNumeric (positiveChars m e) := by
  unfold positiveChars
  -- Zeros behind the digits are dropped; what is kept are some of their characters.
  have hkept : IsNumeric ((Text.decimal (shortest m e).1).reverse.dropWhile (· == '0')).reverse := by
    refine (isNumeric_decimal (shortest m e).1).mono ?_
    intro c hc
    exact List.mem_reverse.mp (List.dropWhile_subset _ (List.mem_reverse.mp hc))
  dsimp only
  split
  · exact hkept.positional _
  · exact hkept.scientific _

theorem isNumeric_toText (x : Binary64) : IsNumeric x.toText.toList := by
  match x with
  | .nan => exact isNumeric_of_all (show ['n', 'a', 'n'].all numeric.contains = true by decide)
  | .infinite true => exact isNumeric_of_all (show ['-', 'i', 'n', 'f'].all numeric.contains = true by decide)
  | .infinite false => exact isNumeric_of_all (show ['i', 'n', 'f'].all numeric.contains = true by decide)
  | .finite negative m e =>
    have habs : IsNumeric (if m = 0 then ['0', '.', '0'] else positiveChars m e) := by
      split
      · exact .cons (.inr rfl) (.cons (.inl (by decide)) (isNumeric_zeros 1))
      · exact isNumeric_positiveChars m e
    rw [toText, String.toList_ofList]
    cases negative with
    | false => exact habs
    | true => exact .cons (.inl (by decide)) habs

theorem isTrimmed_toText (x : Binary64) : Text.IsTrimmed x.toText := by
  have hmarks : ∀ c ∈ numeric, Text.isBlank c = false := by simp [numeric, Text.isBlank]
  apply Text.isTrimmed_of_forall
  intro c hc
  rcases isNumeric_toText x c hc with hmark | hdigit
  · exact hmarks c hmark
  · exact Text.not_isBlank_of_isAsciiDigit hdigit

end Binary64

end VideoWall
