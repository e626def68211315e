import VideoWall.Proofs.Text.Trimming
import VideoWall.Proofs.Time.Reading

/-!
# Written timestamps

The machine-readable text of a timestamp is in the layout with a zone behind date and time, as long as
there are no microseconds in it, and no two timestamps have the same text. Main statements:
`shows_wallChars`, `Stamp.isoText_injective` and `Stamp.written_times_read_back`.
-/

namespace VideoWall

namespace Layout

open Text

variable {ps : Layout} {rest : List Char} {f g : Fields} {t u : Stamp}

/-! ## 1. Date and time of day -/

def wallLayout : Layout := isoLayout.dropLast

/-- Date and time of day, down to the second, as text: the part that is equally long for all timestamps. -/
def wallChars (separator : Char) (t : Stamp) : List Char :=
  padded 4 t.date.year ++ '-' :: (padded 2 t.date.month ++ '-' :: (padded 2 t.date.day ++ separator ::
    (padded 2 t.time.hour ++ ':' :: (padded 2 t.time.minute ++ ':' :: padded 2 t.time.second))))

def wallFields (t : Stamp) : Fields where
  year := t.date.year
  month := t.date.month
  day := t.date.day
  hour := t.time.hour
  minute := t.time.minute
  second := t.time.second

def fineChars (t : Stamp) : List Char :=
  (if t.time.microsecond = 0 then [] else '.' :: padded 6 t.time.microsecond) ++
    t.offset.elim [] ZoneOffset.toChars

theorem charsWith_eq (separator : Char) (t : Stamp) :
    t.charsWith separator = wallChars separator t ++ fineChars t := by
  unfold Stamp.charsWith wallChars fineChars
  cases t.offset <;> simp [Stamp.dateChars, Stamp.timeChars]

theorem length_padded {w n : Nat} (hw : 0 < w) (hn : n < Nat.pow 10 w) : (padded w n).length = w :=
  List.mem_singleton.mp (denotes_padded hw hn).1

theorem length_wallChars (separator : Char) (t : Stamp) : (wallChars separator t).length = 19 := by
  have hyear := t.date.year_le
  have hmonth := t.date.month_mem
  have hday := t.date.day_le_31
  have hhour := t.time.hour_lt
  have hminute := t.time.minute_lt
  have hsecond := t.time.second_lt
  have htwo : ∀ n, n < 100 → (padded 2 n).length = 2 := fun n hn => length_padded (by decide) hn
  have hfour : (padded 4 t.date.year).length = 4 := length_padded (by decide) (show _ < 10000 by omega)
  simp only [wallChars, List.length_append, List.length_cons, hfour]
  rw [htwo _ (by omega), htwo _ (by omega), htwo _ (by omega), htwo _ (by omega), htwo _ (by omega)]

theorem Shows.literal_cons {x c : Char} (hc : asciiLower c = asciiLower x) (hrest : Shows ps rest f g) :
    Shows (.literal x :: ps) (c :: rest) f g :=
  .cons (.literal x c f hc) hrest

theorem shows_wallChars (t : Stamp) (hrest : Shows ps rest (wallFields t) g) :
    Shows (wallLayout ++ ps) (wallChars 'T' t ++ rest) {} g := by
  have hyear := t.date.year_le
  have hmonth := t.date.month_mem
  have hday := t.date.day_le_31
  have hhour := t.time.hour_lt
  have hminute := t.time.minute_lt
  have hsecond := t.time.second_lt
  have htwo : ∀ n, n < 100 → Denotes (padded 2 n) [1, 2] n := fun n hn =>
    denotes_one_or_two_iff.mpr (.inr (denotes_padded_two hn))
  unfold wallChars
  simp only [List.append_assoc, List.cons_append]
  refine .cons (.year _ _ _ (denotes_padded (by decide) (show _ < 10000 by omega))) (.literal_cons rfl ?_)
  refine .cons (.month _ _ _ (htwo _ (by omega))) (.literal_cons rfl ?_)
  refine .cons (.day _ _ _ (htwo _ (by omega))) (.literal_cons rfl ?_)
  refine .cons (.hour _ _ _ (htwo _ (by omega))) (.literal_cons rfl ?_)
  refine .cons (.minute _ _ _ (htwo _ (by omega))) (.literal_cons rfl ?_)
  exact .cons (.second _ _ _ (htwo _ (by omega))) hrest

theorem wallFields_tell (t : Stamp) : (wallFields t).Tell
    { t with time := { t.time with microsecond := 0, microsecond_lt := by decide }, offset := some .utc } :=
  ⟨rfl, rfl, rfl, rfl, rfl, rfl, rfl, rfl⟩

theorem readOnto?_wallChars (t : Stamp) (hrest : ∀ c ∈ rest.head?, digitValue? c = none ∧ isBlank c = false) :
    readOnto? {} (wallChars 'T' t ++ rest) (wallLayout ++ ps) = readOnto? (wallFields t) rest ps := by
  have hshows : Shows (wallLayout ++ []) (wallChars 'T' t ++ []) {} (wallFields t) :=
    shows_wallChars t (.nil _)
  rw [List.append_nil, List.append_nil] at hshows
  exact readOnto?_of_shows (by decide) hshows (wallFields_tell t).fits hrest
    (fun hzone => absurd hzone (by decide))

theorem wallFields_eq (h : wallChars 'T' t = wallChars 'T' u) : wallFields t = wallFields u := by
  have hread : ∀ v, readOnto? {} (wallChars 'T' v ++ []) (wallLayout ++ []) = some (wallFields v) :=
    fun v => readOnto?_wallChars v (by nofun)
  have hboth := hread u
  rw [← h, hread t] at hboth
  exact Option.some.inj hboth

/-! ## 2. Fraction and zone -/

theorem toChars_injective {y z : ZoneOffset} (h : y.toChars = z.toChars) : y = z := by
  have hz := zone?_of_isZone (isZone_toChars z)
  rw [← h, zone?_of_isZone (isZone_toChars y)] at hz
  cases y
  cases z
  cases hz
  rfl

theorem offset_eq {y z : Option ZoneOffset} (h : y.elim [] ZoneOffset.toChars = z.elim [] ZoneOffset.toChars) :
    y = z := by
  cases y with
  | none =>
    cases z with
    | none => rfl
    | some z =>
      obtain ⟨c, rest, hc, -⟩ := (isZone_toChars z).head
      rw [Option.elim_some, hc] at h
      cases h
  | some y =>
    cases z with
    | none =>
      obtain ⟨c, rest, hc, -⟩ := (isZone_toChars y).head
      rw [Option.elim_some, hc] at h
      cases h
    | some z => rw [toChars_injective h]

theorem head_offset_ne {y : Option ZoneOffset} {cs : List Char} :
    y.elim [] ZoneOffset.toChars ≠ '.' :: cs := by
  cases y with
  | none => nofun
  | some y =>
    obtain ⟨c, rest, hc, hsign⟩ := (isZone_toChars y).head
    rw [Option.elim_some, hc]
    rintro heq
    cases heq
    rcases hsign with hsign | hsign | hsign <;> cases hsign

theorem fine_eq (h : fineChars t = fineChars u) :
    t.time.microsecond = u.time.microsecond ∧ t.offset = u.offset := by
  have hdenotes : ∀ v : Stamp, Denotes (padded 6 v.time.microsecond) [6] v.time.microsecond :=
    fun v => denotes_padded (by decide) v.time.microsecond_lt
  unfold fineChars at h
  by_cases ht : t.time.microsecond = 0
  · by_cases hu : u.time.microsecond = 0
    · rw [if_pos ht, if_pos hu] at h
      exact ⟨ht.trans hu.symm, offset_eq h⟩
    · rw [if_pos ht, if_neg hu] at h
      exact absurd h head_offset_ne
  · by_cases hu : u.time.microsecond = 0
    · rw [if_neg ht, if_pos hu] at h
      exact absurd h.symm head_offset_ne
    · rw [if_neg ht, if_neg hu, List.cons_append, List.cons_append, List.cons.injEq] at h
      have hlength : ∀ v : Stamp, (padded 6 v.time.microsecond).length = 6 :=
        fun v => length_padded (by decide) v.time.microsecond_lt
      obtain ⟨hmicro, hoffset⟩ := List.append_inj h.2 ((hlength t).trans (hlength u).symm)
      refine ⟨?_, offset_eq hoffset⟩
      rw [← (hdenotes t).2.2, ← (hdenotes u).2.2, hmicro]

end Layout

namespace Stamp

open Layout

variable {t u : Stamp}

theorem isoText_injective (h : t.isoText = u.isoText) : t = u := by
  have hchars : t.charsWith 'T' = u.charsWith 'T' := String.ofList_injective h
  rw [charsWith_eq, charsWith_eq] at hchars
  obtain ⟨hwall, hfine⟩ := List.append_inj hchars (by rw [length_wallChars, length_wallChars])
  have hfields := wallFields_eq hwall
  obtain ⟨hmicro, hoffset⟩ := fine_eq hfine
  obtain ⟨⟨_, _, _, _, _, _, _⟩, ⟨_, _, _, _, _, _, _, _⟩, _⟩ := t
  obtain ⟨⟨_, _, _, _, _, _, _⟩, ⟨_, _, _, _, _, _, _, _⟩, _⟩ := u
  simp only [wallFields, Fields.mk.injEq] at hfields
  simp_all

/-! ## 3. Reading a written timestamp -/

theorem isoText_last (hzoned : t.isZoned = true) :
    ∃ before c, t.charsWith 'T' = before ++ [c] ∧ Text.isBlank c = false := by
  obtain ⟨z, hz⟩ := Option.isSome_iff_exists.mp hzoned
  obtain ⟨before, c, hlast, hc⟩ := (isZone_toChars z).last
  refine ⟨wallChars 'T' t ++ ((if t.time.microsecond = 0 then [] else '.' :: Text.padded 6 t.time.microsecond) ++
    before), c, ?_, ?_⟩
  · rw [charsWith_eq, fineChars, hz, Option.elim_some, hlast]
    simp
  · rcases hc with rfl | hc
    · decide
    · exact Text.not_isBlank_of_isAsciiDigit hc

theorem isoText_head (t : Stamp) : ∃ c rest, t.charsWith 'T' = c :: rest ∧ Text.isBlank c = false := by
  have hyear : Denotes (Text.padded 4 t.date.year) [4] t.date.year :=
    denotes_padded (by decide) (Nat.lt_succ_of_le t.date.year_le)
  obtain ⟨c, rest, hc, hdigit⟩ := hyear.head (by decide)
  rw [charsWith_eq, wallChars, hc]
  exact ⟨c, _, rfl, Text.not_isBlank_of_isAsciiDigit hdigit⟩

theorem trimChars_isoText (hzoned : t.isZoned = true) :
    Text.trimChars (t.charsWith 'T') = t.charsWith 'T' := by
  obtain ⟨before, c, hlast, hc⟩ := isoText_last hzoned
  obtain ⟨d, rest, hhead, hd⟩ := isoText_head t
  have hstart : (t.charsWith 'T').head?.any Text.isBlank = false := by
    rw [hhead]
    exact hd
  have hend : (t.charsWith 'T').getLast?.any Text.isBlank = false := by
    rw [hlast, List.getLast?_concat]
    exact hc
  rw [Text.trimChars, Text.dropWhile_eq_self hstart, Text.dropTrailing_eq_self hend]

theorem read?_youtube (raw : String) :
    read? .youtube raw = Layout.stamp? isoLayout (Text.trimChars raw.toList) := by
  unfold read?
  dsimp only
  rw [← toList_trim]
  split
  · rename_i hinvalid
    rw [beq_iff_eq.mp hinvalid]
    exact (stamp?_invalidDateText (show isoLayout ∈ ofProvider .youtube from List.mem_singleton_self _)).symm
  · rw [show ofProvider .youtube = [isoLayout] from rfl, List.findSome?_singleton]

theorem read?_isoText (hzoned : t.isZoned = true) :
    read? .youtube t.isoText = Layout.stamp? (wallLayout ++ [.zone]) (wallChars 'T' t ++ fineChars t) := by
  rw [read?_youtube, isoText, String.toList_ofList, trimChars_isoText hzoned, charsWith_eq]
  rfl

theorem read?_isoText_of_whole (hzoned : t.isZoned = true) (hwhole : t.time.microsecond = 0) :
    read? .youtube t.isoText = some t := by
  obtain ⟨z, hz⟩ := Option.isSome_iff_exists.mp hzoned
  have hfine : fineChars t = z.toChars ++ [] := by
    rw [fineChars, if_pos hwhole, hz, List.append_nil]
    rfl
  rw [read?_isoText hzoned, hfine]
  refine stamp?_of_shows (by decide) (shows_wallChars t (.cons (.zone _ _ _ (isZone_toChars z)) (.nil _))) ?_
  exact ⟨rfl, rfl, rfl, rfl, rfl, rfl, hwhole, by rw [hz]; rfl⟩

/-- The layout has no place for a fraction of a second. -/
theorem read?_isoText_of_fraction (hzoned : t.isZoned = true) (hfraction : t.time.microsecond ≠ 0) :
    read? .youtube t.isoText = none := by
  have hfine : ∃ cs, fineChars t = '.' :: cs := by
    rw [fineChars, if_neg hfraction]
    exact ⟨_, rfl⟩
  obtain ⟨cs, hcs⟩ := hfine
  have hpoint : ∀ c ∈ ('.' :: cs).head?, Text.digitValue? c = none ∧ Text.isBlank c = false := by
    intro c hc
    obtain rfl := Option.some.inj hc
    decide
  rw [read?_isoText hzoned, hcs, Layout.stamp?, readOnto?_wallChars t hpoint]
  rfl

theorem whole_of_read? {provider : Provider} {raw : String} (hread : read? provider raw = some t) :
    t.isZoned = true ∧ t.time.microsecond = 0 := by
  unfold read? at hread
  dsimp only at hread
  split at hread
  · cases hread
  · obtain ⟨ps, -, hstamp⟩ := List.exists_of_findSome?_eq_some hread
    obtain ⟨f, -, htell⟩ := Option.bind_eq_some_iff.mp hstamp
    obtain ⟨-, -, -, -, -, -, hmicro, hoffset⟩ := Fields.stamp?_eq_some_iff.mp htell
    obtain ⟨z, hz, -⟩ := Option.map_eq_some_iff.mp hoffset
    exact ⟨Option.isSome_iff_exists.mpr ⟨z, hz⟩, hmicro⟩

/-- The machine-readable text of a timestamp with an offset is read back as this timestamp if there are no
microseconds in it; with microseconds it is not read, counts as the present time, and a notice says so.
What was once read is read again from its text, whatever text it came from. -/
theorem written_times_read_back (now t : Stamp) :
    (t.isZoned = true → t.time.microsecond = 0 → readOrNow now .youtube (some t.isoText) = pure t) ∧
    (t.isZoned = true → t.time.microsecond ≠ 0 →
      readOrNow now .youtube (some t.isoText) = ⟨now, [.unreadableTime .youtube (some t.isoText)]⟩) ∧
    ∀ raw, readOrNow now .youtube raw = pure t → readOrNow now .youtube (some t.isoText) = pure t := by
  have hback : t.isZoned = true → t.time.microsecond = 0 →
      readOrNow now .youtube (some t.isoText) = pure t :=
    fun hzoned hwhole => readOrNow_of_read? (read?_isoText_of_whole hzoned hwhole) now
  refine ⟨hback, ?_, ?_⟩
  · intro hzoned hfraction
    have hunread : (some t.isoText).bind (read? .youtube) = none := by
      rw [Option.bind_some, read?_isoText_of_fraction hzoned hfraction]
    exact readOrNow_of_unread hunread now
  · intro raw hraw
    cases hread : raw.bind (read? .youtube) with
    | none =>
      rw [readOrNow_of_unread hread] at hraw
      cases congrArg Logged.notices hraw
    | some u =>
      obtain ⟨s, rfl, hs⟩ := Option.bind_eq_some_iff.mp hread
      rw [readOrNow_of_read? hs] at hraw
      obtain rfl : u = t := congrArg Logged.value hraw
      obtain ⟨hzoned, hwhole⟩ := whole_of_read? hs
      exact hback hzoned hwhole

/-- The first second of the calendar, or some microseconds later, on a clock that is behind by a microsecond
less than a day. -/
def earlyStamp (micro : Nat) (h : micro < 1000000) : Stamp where
  date := Date.first
  time := { TimeOfDay.midnight with microsecond := micro, microsecond_lt := h }
  offset := ZoneOffset.of? (-86399999999)

def leapStamp : Stamp where
  date := (Date.of? 2020 2 29).getD .first
  time := (TimeOfDay.of? 1 2 3 0).getD .midnight
  offset := ZoneOffset.of? (-27000000000)

/-- Behind a whole second the zone follows; a microsecond stands where it should. -/
theorem early_time_reads_back :
    readOrNow default .youtube (some (earlyStamp 0 (by decide)).isoText) = pure (earlyStamp 0 (by decide)) ∧
    readOrNow default .youtube (some (earlyStamp 1 (by decide)).isoText) =
      ⟨default, [.unreadableTime .youtube (some (earlyStamp 1 (by decide)).isoText)]⟩ ∧
    readOrNow default .youtube (some "2020-2-29t1:2:3-0730 ") = pure leapStamp ∧
    readOrNow default .youtube (some leapStamp.isoText) = pure leapStamp := by
  obtain ⟨hwhole, -, -⟩ := written_times_read_back default (earlyStamp 0 (by decide))
  obtain ⟨-, hfraction, -⟩ := written_times_read_back default (earlyStamp 1 (by decide))
  obtain ⟨-, -, hagain⟩ := written_times_read_back default leapStamp
  have hread : readOrNow default .youtube (some "2020-2-29t1:2:3-0730 ") = pure leapStamp :=
    readOrNow_of_read? (by decide) default
  exact ⟨hwhole rfl rfl, hfraction rfl (by decide), hread, hagain _ hread⟩

end Stamp

end VideoWall
