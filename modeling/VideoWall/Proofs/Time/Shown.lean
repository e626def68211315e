import VideoWall.Proofs.Time.Zone

/-!
# What a layout shows is read

The reader of timestamps takes as much as it can at each piece, and never looks back. In the layouts in
use this misses no way to cut a text into the pieces of a layout: a number is followed by something that
is no digit, a gap by something that is no blank, and no field stands twice. Main statement:
`readOnto?_of_shows`.
-/

namespace VideoWall

namespace Layout

open Text

variable {p q : Piece} {ps qs : Layout} {cs rest : List Char} {f g h : Fields}

/-! ## 1. Fields -/

inductive Slot where
  | year
  | month
  | day
  | hour
  | minute
  | second
  | offset
deriving DecidableEq

def Fields.at (f : Fields) : Slot → Int
  | .year => f.year
  | .month => f.month
  | .day => f.day
  | .hour => f.hour
  | .minute => f.minute
  | .second => f.second
  | .offset => f.offset

def Piece.slot? : Piece → Option Slot
  | .year => some .year
  | .month | .monthName => some .month
  | .day => some .day
  | .hour => some .hour
  | .minute => some .minute
  | .second => some .second
  | .zone => some .offset
  | .literal _ | .gap | .weekdayName => none

def Slot.Fits : Slot → Fields → Prop
  | .month, f => 1 ≤ f.month ∧ f.month ≤ 12
  | .day, f => 1 ≤ f.day ∧ f.day ≤ 31
  | .hour, f => f.hour ≤ 23
  | .minute, f => f.minute ≤ 59
  | .second, f => f.second ≤ 61
  | .year, _ | .offset, _ => True

/-- Whether all numbers of the fields can be read; those of a date and a time of day can. -/
def Fields.Fits (f : Fields) : Prop := ∀ s : Slot, s.Fits f

theorem Slot.Fits.congr {s : Slot} (hfits : s.Fits f) (heq : g.at s = f.at s) : s.Fits g := by
  cases s <;> simp only [Fits, Fields.at] at * <;> omega

theorem Fields.Tell.fits {t : Stamp} (htell : f.Tell t) : f.Fits := by
  obtain ⟨hyear, hmonth, hday, hhour, hminute, hsecond, -, -⟩ := htell
  have hmonth' := t.date.month_mem
  have hday' := t.date.day_le_31
  have hpos := t.date.day_pos
  have hhour' := t.time.hour_lt
  have hminute' := t.time.minute_lt
  have hsecond' := t.time.second_lt
  intro s
  cases s <;> simp only [Slot.Fits] <;> omega

theorem Fields.stamp?_eq_some_iff {t : Stamp} : f.stamp? = some t ↔ f.Tell t := by
  constructor
  · intro h
    obtain ⟨date, hdate, h⟩ := Option.bind_eq_some_iff.mp h
    obtain ⟨time, htime, h⟩ := Option.bind_eq_some_iff.mp h
    obtain ⟨offset, hoffset, h⟩ := Option.bind_eq_some_iff.mp h
    cases h
    -- What the three constructors give holds the very numbers that they have checked.
    unfold Date.of? at hdate
    unfold TimeOfDay.of? at htime
    unfold ZoneOffset.of? at hoffset
    split at hdate
    · cases hdate
      split at htime
      · cases htime
        split at hoffset
        · cases hoffset
          exact ⟨rfl, rfl, rfl, rfl, rfl, rfl, rfl, rfl⟩
        · cases hoffset
      · cases htime
    · cases hdate
  · rintro ⟨hyear, hmonth, hday, hhour, hminute, hsecond, hmicro, hoffset⟩
    obtain ⟨z, hz, hmicroseconds⟩ := Option.map_eq_some_iff.mp hoffset
    have htime : TimeOfDay.of? f.hour f.minute f.second 0 = some t.time := by
      rw [← hhour, ← hminute, ← hsecond, ← hmicro, TimeOfDay.of?]
      exact dif_pos ⟨t.time.hour_lt, t.time.minute_lt, t.time.second_lt, t.time.microsecond_lt⟩
    have hzone : ZoneOffset.of? f.offset = some z := by
      rw [← hmicroseconds, ZoneOffset.of?]
      exact dif_pos z.natAbs_lt
    have hdate : Date.of? f.year f.month f.day = some t.date := by
      rw [← hyear, ← hmonth, ← hday]
      exact Date.of?_self t.date
    rw [stamp?, hdate, htime, hzone]
    show some (Stamp.mk t.date t.time (some z)) = some t
    rw [← hz]

theorem Piece.Shows.at_eq {s : Slot} (hshows : p.Shows cs f g) (hs : p.slot? ≠ some s) :
    g.at s = f.at s := by
  cases hshows <;> cases s <;> first | rfl | exact absurd rfl hs

theorem Shows.at_eq {s : Slot} (hshows : Shows ps cs f g) (hs : ∀ p ∈ ps, p.slot? ≠ some s) :
    g.at s = f.at s := by
  induction hshows with
  | nil => rfl
  | cons hp _ ih =>
    obtain ⟨hfirst, hrest⟩ := List.forall_mem_cons.mp hs
    rw [ih hrest, hp.at_eq hfirst]

/-! ## 2. The start of a piece -/

def Piece.startsWithDigit : Piece → Bool
  | .literal x => (digitValue? x).isSome
  | .year | .month | .day | .hour | .minute | .second => true
  | .gap | .weekdayName | .monthName | .zone => false

/-- Whether no text of the piece starts with a blank, the filling of a day aside. -/
def Piece.startsVisibly : Piece → Bool
  | .literal x => !isBlank x
  | .gap => false
  | _ => true

def haveThreeLetters (names : List (List Char)) : Bool :=
  names.all fun name => name.length == 3 && name.all isAsciiLetter

theorem digitValue?_of_isAsciiLetter {c : Char} (hc : isAsciiLetter c = true) :
    digitValue? c = none ∧ isBlank c = false := by
  simp only [isAsciiLetter, Bool.or_eq_true, Bool.and_eq_true, decide_eq_true_eq] at hc
  refine ⟨digitValue?_eq_none (by omega) ?_, ?_⟩
  · simp [isAsciiDigit]
    omega
  · rw [Bool.eq_false_iff]
    simp [isBlank]
    omega

theorem Names.letters {names : List (List Char)} {place : Nat} (hnames : haveThreeLetters names = true)
    (hcs : Names names cs place) :
    ∃ a b c, cs = [a, b, c] ∧ digitValue? a = none ∧ isBlank a = false := by
  have hmem := List.mem_of_getElem? hcs
  have hname := List.all_eq_true.mp hnames _ hmem
  rw [Bool.and_eq_true, beq_iff_eq, List.length_map] at hname
  obtain ⟨hlength, hletters⟩ := hname
  match cs, hlength with
  | [a, b, c], _ =>
    have ha : isAsciiLetter (asciiLower a) = true := List.all_eq_true.mp hletters _ List.mem_cons_self
    obtain ⟨hdigit, hblank⟩ := digitValue?_of_isAsciiLetter ha
    rw [digitValue?_asciiLower] at hdigit
    rw [isBlank_asciiLower] at hblank
    exact ⟨a, b, c, rfl, hdigit, hblank⟩

theorem letters_weekdayNames : haveThreeLetters weekdayNames = true := by decide

theorem letters_monthNames : haveThreeLetters monthNames = true := by decide

theorem Denotes.head {counts : List Nat} {n : Nat} (hcs : Denotes cs counts n) (hcounts : 0 ∉ counts) :
    ∃ c rest, cs = c :: rest ∧ isAsciiDigit c = true := by
  cases cs with
  | nil => exact absurd hcs.1 hcounts
  | cons c rest => exact ⟨c, rest, rfl, hcs.2.1 c List.mem_cons_self⟩

theorem Piece.Shows.head_not_digit (hshows : p.Shows cs f g) (hp : p.startsWithDigit = false) :
    ∃ c rest, cs = c :: rest ∧ digitValue? c = none := by
  cases hshows with
  | literal x c f hc =>
    refine ⟨c, [], rfl, ?_⟩
    rw [← digitValue?_asciiLower c, hc, digitValue?_asciiLower x]
    simpa [startsWithDigit] using hp
  | gap cs f hne hblank =>
    cases cs with
    | nil => exact absurd rfl hne
    | cons c cs => exact ⟨c, cs, rfl, digitValue?_of_isBlank (hblank c List.mem_cons_self)⟩
  | weekdayName cs place f hcs =>
    obtain ⟨a, b, c, rfl, ha, -⟩ := hcs.letters letters_weekdayNames
    exact ⟨a, [b, c], rfl, ha⟩
  | monthName cs place f hcs =>
    obtain ⟨a, b, c, rfl, ha, -⟩ := hcs.letters letters_monthNames
    exact ⟨a, [b, c], rfl, ha⟩
  | zone cs n f hcs =>
    obtain ⟨c, rest, rfl, rfl | rfl | rfl⟩ := hcs.head
    · exact ⟨_, rest, rfl, rfl⟩
    · exact ⟨_, rest, rfl, rfl⟩
    · exact ⟨_, rest, rfl, rfl⟩
  | year | month | day | filledDay | hour | minute | second => cases hp

theorem dropWhile_of_digit {c : Char} (hc : isAsciiDigit c = true) (cs : List Char) :
    (c :: cs).dropWhile isBlank = c :: cs := by
  rw [List.dropWhile_cons, not_isBlank_of_isAsciiDigit hc]
  rfl

theorem Piece.Shows.dropBlanks (hshows : p.Shows cs f g) (hp : p.startsVisibly = true) :
    ∃ c rest, cs.dropWhile isBlank = c :: rest ∧ p.Shows (c :: rest) f g := by
  have hdigits : ∀ {counts : List Nat} {n : Nat}, Denotes cs counts n → 0 ∉ counts →
      p.Shows cs f g → ∃ c rest, cs.dropWhile isBlank = c :: rest ∧ p.Shows (c :: rest) f g := by
    intro counts n hcs hcounts hself
    obtain ⟨c, rest, rfl, hc⟩ := hcs.head hcounts
    exact ⟨c, rest, dropWhile_of_digit hc rest, hself⟩
  have hself := hshows
  cases hshows with
  | literal x c f hc =>
    have hsame : isBlank c = isBlank x := by rw [← isBlank_asciiLower c, hc, isBlank_asciiLower x]
    have hx : isBlank x = false := (Bool.not_eq_true' _).mp hp
    exact ⟨c, [], by rw [List.dropWhile_cons, hsame, hx]; rfl, hself⟩
  | gap => cases hp
  | year cs n f hcs => exact hdigits hcs (by decide) hself
  | month cs n f hcs => exact hdigits hcs (by decide) hself
  | day cs n f hcs => exact hdigits hcs (by decide) hself
  -- The blank that fills up the day goes too, which leaves a day of one digit.
  | filledDay cs n f hcs =>
    obtain ⟨c, rest, rfl, hc⟩ := hcs.head (by decide)
    refine ⟨c, rest, dropWhile_of_digit hc rest, .day _ n f ?_⟩
    exact denotes_one_or_two_iff.mpr (.inl hcs)
  | hour cs n f hcs => exact hdigits hcs (by decide) hself
  | minute cs n f hcs => exact hdigits hcs (by decide) hself
  | second cs n f hcs => exact hdigits hcs (by decide) hself
  | weekdayName cs place f hcs =>
    obtain ⟨a, b, c, rfl, -, ha⟩ := hcs.letters letters_weekdayNames
    exact ⟨a, [b, c], by rw [List.dropWhile_cons, ha]; rfl, hself⟩
  | monthName cs place f hcs =>
    obtain ⟨a, b, c, rfl, -, ha⟩ := hcs.letters letters_monthNames
    exact ⟨a, [b, c], by rw [List.dropWhile_cons, ha]; rfl, hself⟩
  | zone cs n f hcs =>
    obtain ⟨c, rest, rfl, rfl | rfl | rfl⟩ := hcs.head
    · exact ⟨_, rest, rfl, hself⟩
    · exact ⟨_, rest, rfl, hself⟩
    · exact ⟨_, rest, rfl, hself⟩

/-- The blanks in front of a layout can be left to the gap before it. -/
theorem Shows.dropBlanks (hshows : Shows (p :: ps) cs f h) (hp : p.startsVisibly = true) :
    Shows (p :: ps) (cs.dropWhile isBlank) f h ∧ ∀ c ∈ (cs.dropWhile isBlank).head?, isBlank c = false := by
  refine ⟨?_, fun c hc => ?_⟩
  · cases hshows with
    | @cons _ _ cs rest _ _ _ hfirst hrest =>
      obtain ⟨c, cs', hdrop, hshows⟩ := hfirst.dropBlanks hp
      rw [List.dropWhile_append, hdrop]
      exact .cons hshows hrest
  · have hnot := List.head?_dropWhile_not isBlank cs
    rw [Option.mem_def] at hc
    rw [hc] at hnot
    simpa using hnot

/-! ## 3. What a layout shows is read -/

/-- Whether a piece takes a digit that follows it. -/
def Piece.isOpen : Piece → Bool
  | .month | .day | .hour | .minute | .second => true
  | _ => false

/-- Whether a reader that takes as much as it can does not take what belongs to the next piece, and
no field is set twice. -/
def isOrderly : Layout → Bool
  | [] => true
  | p :: ps =>
    (p.slot?.all fun s => ps.all (·.slot? != some s)) &&
    (match ps with
      | [] => true
      | q :: _ => (!p.isOpen || !q.startsWithDigit) && (p != .gap || q.startsVisibly) && p != .zone) &&
    isOrderly ps

theorem name?_of_names {names : List (List Char)} {place : Nat} (hnames : haveThreeLetters names = true)
    (hnodup : names.Nodup) (hcs : Names names cs place) (rest : List Char) :
    name? names (cs ++ rest) = some (place, rest) := by
  obtain ⟨a, b, c, rfl, -⟩ := hcs.letters hnames
  obtain ⟨hlt, heq⟩ := List.getElem?_eq_some_iff.mp hcs
  have hplace : names.findIdx? (· == [asciiLower a, asciiLower b, asciiLower c]) = some place := by
    rw [List.findIdx?_eq_some_iff_getElem]
    refine ⟨hlt, by rw [heq]; exact beq_self_eq_true _, fun j hj hfound => ?_⟩
    -- A name that stands before is another one.
    exact List.pairwise_iff_getElem.mp hnodup j place (by omega) hlt hj
      ((beq_iff_eq.mp hfound).trans heq.symm)
  simp [name?, hplace]

/-- A piece reads what it shows, if what follows does not go on with it. -/
theorem Piece.Shows.read?_eq (hshows : p.Shows cs f g) (hfits : ∀ s, p.slot? = some s → s.Fits g)
    (hopen : p.isOpen = true → ∀ c ∈ rest.head?, digitValue? c = none)
    (hgap : p = .gap → ∀ c ∈ rest.head?, isBlank c = false) (hzone : p = .zone → rest = []) :
    p.read? f (cs ++ rest) = some (g, rest) := by
  cases hshows with
  | literal x c f hc => simp [read?, hc]
  | gap cs f hne hblank =>
    cases cs with
    | nil => exact absurd rfl hne
    | cons c cs =>
      obtain ⟨hc, hcs⟩ := List.forall_mem_cons.mp hblank
      have hdrop : (cs ++ rest).dropWhile isBlank = rest := by
        rw [List.dropWhile_append_of_pos hcs]
        cases rest with
        | nil => rfl
        | cons b rest => rw [List.dropWhile_cons, hgap rfl b rfl]; rfl
      simp [read?, hc, hdrop]
  | year cs n f hcs =>
    obtain ⟨a, b, c, d, rfl, ha, hb, hc, hd, rfl⟩ := denotes_four_iff.mp hcs
    simp [read?, year?, digitValue?_of_isAsciiDigit ha, digitValue?_of_isAsciiDigit hb,
      digitValue?_of_isAsciiDigit hc, digitValue?_of_isAsciiDigit hd]
  | month cs n f hcs =>
    have hn : 1 ≤ n ∧ n ≤ 12 := hfits .month rfl
    rw [read?, number?_of_denotes spans_monthForm hcs hn.1 hn.2 (hopen rfl)]
    rfl
  | day cs n f hcs =>
    have hn : 1 ≤ n ∧ n ≤ 31 := hfits .day rfl
    -- A digit stands first, so the branch for a filled day is not taken.
    have hplain : day? (cs ++ rest) = number? dayForm (cs ++ rest) := by
      obtain ⟨c, cs, rfl, hc⟩ := hcs.head (by decide)
      have hspace : c ≠ ' ' := by
        rintro rfl
        cases hc
      rw [List.cons_append, day?.eq_def]
      split
      · rename_i heq
        exact absurd (List.cons.inj heq).1 hspace
      · rfl
    rw [read?, hplain, number?_of_denotes spans_dayForm hcs hn.1 hn.2 (hopen rfl)]
    rfl
  | filledDay cs n f hcs =>
    obtain ⟨a, rfl, ha, rfl⟩ := denotes_one_iff.mp hcs
    have hn : 1 ≤ asciiValue a ∧ asciiValue a ≤ 31 := hfits .day rfl
    have hbetween : between '1' '9' a = true := (spans_dayForm.alone a ha).mpr hn
    simp [read?, day?, hbetween, digitValue?_of_isAsciiDigit ha]
  | hour cs n f hcs =>
    have hn : n ≤ 23 := hfits .hour rfl
    rw [read?, number?_of_denotes spans_hourForm hcs (Nat.zero_le n) hn (hopen rfl)]
    rfl
  | minute cs n f hcs =>
    have hn : n ≤ 59 := hfits .minute rfl
    rw [read?, number?_of_denotes spans_minuteForm hcs (Nat.zero_le n) hn (hopen rfl)]
    rfl
  | second cs n f hcs =>
    have hn : n ≤ 61 := hfits .second rfl
    rw [read?, number?_of_denotes spans_secondForm hcs (Nat.zero_le n) hn (hopen rfl)]
    rfl
  | weekdayName cs place f hcs =>
    rw [read?, name?_of_names letters_weekdayNames (by decide) hcs rest]
    rfl
  | monthName cs place f hcs =>
    rw [read?, name?_of_names letters_monthNames (by decide) hcs rest]
    rfl
  | zone cs n f hcs =>
    obtain rfl := hzone rfl
    rw [read?, List.append_nil, zone?_of_isZone hcs]
    rfl

theorem Shows.exists_cut (hshows : Shows (p :: ps) cs f h)
    (hnext : ∀ q ∈ ps.head?, p = .gap → q.startsVisibly = true) :
    ∃ cs₁ cs₂ g, cs = cs₁ ++ cs₂ ∧ p.Shows cs₁ f g ∧ Shows ps cs₂ g h ∧
      (p = .gap → ∀ c ∈ cs₂.head?, isBlank c = false) := by
  cases hshows with
  | @cons _ _ cs rest _ g _ hfirst hrest =>
    by_cases hp : p = .gap
    · subst hp
      cases ps with
      | nil =>
        cases hrest with
        | nil => exact ⟨cs, [], _, rfl, hfirst, .nil _, fun _ c hc => by cases hc⟩
      | cons q ps =>
        obtain ⟨hdrop, hvisible⟩ := hrest.dropBlanks (hnext q rfl rfl)
        refine ⟨cs ++ rest.takeWhile isBlank, rest.dropWhile isBlank, g, ?_, ?_, hdrop, fun _ => hvisible⟩
        · rw [List.append_assoc, List.takeWhile_append_dropWhile]
        · cases hfirst with
          | gap _ _ hne hblank =>
            refine .gap _ _ (by simp [hne]) fun c hc => ?_
            rcases List.mem_append.mp hc with hc | hc
            · exact hblank c hc
            · exact List.all_eq_true.mp List.all_takeWhile c hc
    · exact ⟨cs, rest, g, rfl, hfirst, hrest, fun h => absurd h hp⟩

theorem Shows.head_not_digit (hshows : Shows (q :: ps) cs f h) (hq : q.startsWithDigit = false)
    (rest : List Char) : ∀ c ∈ (cs ++ rest).head?, digitValue? c = none := by
  cases hshows with
  | cons hfirst _ =>
    obtain ⟨c, cs, rfl, hc⟩ := hfirst.head_not_digit hq
    intro c' hc'
    obtain rfl := Option.some.inj hc'
    exact hc

/-- What a layout shows is read, and the reader goes on behind it. -/
theorem readOnto?_of_shows (horder : isOrderly ps = true) (hshows : Shows ps cs f g) (hfits : g.Fits)
    (hrest : ∀ c ∈ rest.head?, digitValue? c = none ∧ isBlank c = false) (hzone : .zone ∈ ps → rest = []) :
    readOnto? f (cs ++ rest) (ps ++ qs) = readOnto? g rest qs := by
  induction ps generalizing cs f with
  | nil =>
    cases hshows
    rfl
  | cons p ps ih =>
    simp only [isOrderly, Bool.and_eq_true] at horder
    obtain ⟨⟨honce, hnext⟩, horder⟩ := horder
    have hvisibly : ∀ q ∈ ps.head?, p = .gap → q.startsVisibly = true := by
      intro q hq hp
      obtain ⟨ps, rfl⟩ := List.head?_eq_some_iff.mp hq
      simp only [Bool.and_eq_true, Bool.or_eq_true, bne_iff_ne] at hnext
      exact hnext.1.2.resolve_left (absurd hp)
    obtain ⟨cs₁, cs₂, f', rfl, hfirst, hothers, hgap⟩ := hshows.exists_cut hvisibly
    -- What the piece has set is not set again, so it fits.
    have hfits' : ∀ s, p.slot? = some s → s.Fits f' := by
      intro s hs
      rw [hs, Option.all_some, List.all_eq_true] at honce
      exact (hfits s).congr (hothers.at_eq fun q hq => by simpa using honce q hq).symm
    have hvisible : p = .gap → ∀ c ∈ (cs₂ ++ rest).head?, isBlank c = false := by
      intro hp c hc
      cases cs₂ with
      | nil => exact (hrest c hc).2
      | cons b cs₂ => exact hgap hp c hc
    have hread : p.read? f (cs₁ ++ (cs₂ ++ rest)) = some (f', cs₂ ++ rest) := by
      cases ps with
      | nil =>
        cases hothers with
        | nil =>
          exact hfirst.read?_eq hfits' (fun _ c hc => (hrest c hc).1) hvisible
            fun hp => hzone (hp ▸ List.mem_cons_self)
      | cons q ps =>
        simp only [Bool.and_eq_true, Bool.or_eq_true, Bool.not_eq_true', bne_iff_ne] at hnext
        obtain ⟨⟨hdigit, -⟩, hlast⟩ := hnext
        refine hfirst.read?_eq hfits' (fun hp => ?_) hvisible fun hp => absurd hp hlast
        refine hothers.head_not_digit ?_ rest
        rw [hp] at hdigit
        simpa using hdigit
    rw [List.append_assoc, List.cons_append, readOnto?, hread, Option.bind_some]
    exact ih horder hothers fun hp => hzone (List.mem_cons_of_mem _ hp)

end Layout

end VideoWall
