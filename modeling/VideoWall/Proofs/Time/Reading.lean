import VideoWall.Feed.Items
import VideoWall.Proofs.Time.Shown

/-!
# What is read as a timestamp

A text is read as a timestamp if and only if it shows it in one of the layouts of its provider; any other
text counts as the present time, and a notice says so. Main statements: `shows_of_readOnto?` and
`reads_exactly_its_layouts`.
-/

namespace VideoWall

namespace Layout

open Text

variable {p : Piece} {ps qs : Layout} {cs rest : List Char} {f g : Fields}

/-! ## 1. What is read is shown -/

theorem names_of_name? {names : List (List Char)} {place : Nat} (hread : name? names cs = some (place, rest)) :
    ∃ taken, cs = taken ++ rest ∧ Names names taken place := by
  unfold name? at hread
  split at hread
  · rename_i a b c cs
    obtain ⟨place', hplace, heq⟩ := Option.map_eq_some_iff.mp hread
    cases heq
    refine ⟨[a, b, c], rfl, ?_⟩
    obtain ⟨hlt, hname, -⟩ := List.findIdx?_eq_some_iff_getElem.mp hplace
    exact List.getElem?_eq_some_iff.mpr ⟨hlt, beq_iff_eq.mp hname⟩
  · cases hread

theorem shows_of_day? {n : Nat} (hascii : ∀ c ∈ cs, c.toNat < 0x80) (hread : day? cs = some (n, rest))
    (f : Fields) : ∃ taken, cs = taken ++ rest ∧ Piece.day.Shows taken f { f with day := n } := by
  unfold day? at hread
  split at hread
  · rename_i a cs
    obtain ⟨ha, -⟩ := List.forall_mem_cons.mp (List.forall_mem_cons.mp hascii).2
    split at hread
    · obtain ⟨x, hx, heq⟩ := Option.map_eq_some_iff.mp hread
      obtain ⟨hdigit, rfl⟩ := isAsciiDigit_of_digitValue? ha hx
      cases heq
      exact ⟨[' ', a], rfl, .filledDay [a] _ f (denotes_one_iff.mpr ⟨a, rfl, hdigit, rfl⟩)⟩
    · cases hread
  · obtain ⟨taken, hcs, hdenotes⟩ := denotes_of_number? hascii hread
    exact ⟨taken, hcs, .day taken n f hdenotes⟩

theorem denotes_of_year? {n : Nat} (hascii : ∀ c ∈ cs, c.toNat < 0x80) (hread : year? cs = some (n, rest)) :
    ∃ taken, cs = taken ++ rest ∧ Denotes taken [4] n := by
  unfold year? at hread
  split at hread
  · rename_i a b c d cs
    simp only [List.forall_mem_cons] at hascii
    obtain ⟨w, hw, hread⟩ := Option.bind_eq_some_iff.mp hread
    obtain ⟨x, hx, hread⟩ := Option.bind_eq_some_iff.mp hread
    obtain ⟨y, hy, hread⟩ := Option.bind_eq_some_iff.mp hread
    obtain ⟨z, hz, hread⟩ := Option.bind_eq_some_iff.mp hread
    obtain ⟨ha, rfl⟩ := isAsciiDigit_of_digitValue? hascii.1 hw
    obtain ⟨hb, rfl⟩ := isAsciiDigit_of_digitValue? hascii.2.1 hx
    obtain ⟨hc, rfl⟩ := isAsciiDigit_of_digitValue? hascii.2.2.1 hy
    obtain ⟨hd, rfl⟩ := isAsciiDigit_of_digitValue? hascii.2.2.2.1 hz
    cases hread
    exact ⟨[a, b, c, d], rfl, denotes_four_iff.mpr ⟨a, b, c, d, rfl, ha, hb, hc, hd, rfl⟩⟩
  · cases hread

theorem Piece.shows_of_read? (hascii : ∀ c ∈ cs, c.toNat < 0x80) (hread : p.read? f cs = some (g, rest)) :
    ∃ taken, cs = taken ++ rest ∧ p.Shows taken f g := by
  cases p with
  | literal x =>
    cases cs with
    | nil => cases hread
    | cons c cs =>
      rw [read?] at hread
      split at hread
      · rename_i hc
        cases hread
        exact ⟨[c], rfl, .literal x c f (beq_iff_eq.mp hc)⟩
      · cases hread
  | gap =>
    cases cs with
    | nil => cases hread
    | cons c cs =>
      rw [read?] at hread
      split at hread
      · rename_i hc
        cases hread
        refine ⟨c :: cs.takeWhile isBlank, ?_, .gap _ f (by simp) ?_⟩
        · rw [List.cons_append, List.takeWhile_append_dropWhile]
        · exact List.forall_mem_cons.mpr ⟨hc, List.all_eq_true.mp List.all_takeWhile⟩
      · cases hread
  -- A number that is read is denoted by what was taken, and only its own field is set.
  | year =>
    obtain ⟨⟨n, rest'⟩, hn, heq⟩ := Option.map_eq_some_iff.mp hread
    cases heq
    obtain ⟨taken, hcs, hdenotes⟩ := denotes_of_year? hascii hn
    exact ⟨taken, hcs, .year taken n f hdenotes⟩
  | month =>
    obtain ⟨⟨n, rest'⟩, hn, heq⟩ := Option.map_eq_some_iff.mp hread
    cases heq
    obtain ⟨taken, hcs, hdenotes⟩ := denotes_of_number? hascii hn
    exact ⟨taken, hcs, .month taken n f hdenotes⟩
  | day =>
    obtain ⟨⟨n, rest'⟩, hn, heq⟩ := Option.map_eq_some_iff.mp hread
    cases heq
    exact shows_of_day? hascii hn f
  | hour =>
    obtain ⟨⟨n, rest'⟩, hn, heq⟩ := Option.map_eq_some_iff.mp hread
    cases heq
    obtain ⟨taken, hcs, hdenotes⟩ := denotes_of_number? hascii hn
    exact ⟨taken, hcs, .hour taken n f hdenotes⟩
  | minute =>
    obtain ⟨⟨n, rest'⟩, hn, heq⟩ := Option.map_eq_some_iff.mp hread
    cases heq
    obtain ⟨taken, hcs, hdenotes⟩ := denotes_of_number? hascii hn
    exact ⟨taken, hcs, .minute taken n f hdenotes⟩
  | second =>
    obtain ⟨⟨n, rest'⟩, hn, heq⟩ := Option.map_eq_some_iff.mp hread
    cases heq
    obtain ⟨taken, hcs, hdenotes⟩ := denotes_of_number? hascii hn
    exact ⟨taken, hcs, .second taken n f hdenotes⟩
  | weekdayName =>
    obtain ⟨⟨n, rest'⟩, hn, heq⟩ := Option.map_eq_some_iff.mp hread
    cases heq
    obtain ⟨taken, hcs, hnames⟩ := names_of_name? hn
    exact ⟨taken, hcs, .weekdayName taken n f hnames⟩
  | monthName =>
    obtain ⟨⟨n, rest'⟩, hn, heq⟩ := Option.map_eq_some_iff.mp hread
    cases heq
    obtain ⟨taken, hcs, hnames⟩ := names_of_name? hn
    exact ⟨taken, hcs, .monthName taken n f hnames⟩
  -- A zone is read from all that is left or not at all.
  | zone =>
    obtain ⟨n, hn, heq⟩ := Option.map_eq_some_iff.mp hread
    cases heq
    exact ⟨cs, (List.append_nil cs).symm, .zone cs n f (isZone_of_zone? hascii hn)⟩

theorem shows_of_readOnto? (hascii : ∀ c ∈ cs, c.toNat < 0x80) (hread : readOnto? f cs ps = some g) :
    Shows ps cs f g := by
  induction ps generalizing cs f with
  | nil =>
    rw [readOnto?] at hread
    split at hread
    · rename_i hempty
      cases hread
      rw [List.isEmpty_iff.mp hempty]
      exact .nil _
    · cases hread
  | cons p ps ih =>
    obtain ⟨⟨f', rest⟩, hfirst, hothers⟩ := Option.bind_eq_some_iff.mp hread
    obtain ⟨taken, rfl, hshows⟩ := Piece.shows_of_read? hascii hfirst
    exact .cons hshows (ih (fun c hc => hascii c (List.mem_append_right _ hc)) hothers)

/-! ## 2. The layouts of a provider -/

theorem isOrderly_of_mem_ofProvider {provider : Provider} (hps : ps ∈ ofProvider provider) :
    isOrderly ps = true := by
  have hall : ∀ p : Provider, ∀ ps ∈ ofProvider p, isOrderly ps = true := by
    intro p
    cases p with
    | youtube => decide
    | rumble => decide
  exact hall provider ps hps

theorem stamp?_of_shows {t : Stamp} (horder : isOrderly ps = true) (hshows : Shows ps cs {} f)
    (htell : f.Tell t) : stamp? ps cs = some t := by
  have hread : readOnto? {} (cs ++ []) (ps ++ []) = readOnto? f [] [] :=
    readOnto?_of_shows horder hshows htell.fits (by nofun) (fun _ => rfl)
  rw [List.append_nil, List.append_nil] at hread
  rw [stamp?, hread]
  exact Fields.stamp?_eq_some_iff.mpr htell

theorem shows_of_stamp? {t : Stamp} (hascii : ∀ c ∈ cs, c.toNat < 0x80) (ht : stamp? ps cs = some t) :
    ∃ f, Shows ps cs {} f ∧ f.Tell t := by
  obtain ⟨f, hread, hstamp⟩ := Option.bind_eq_some_iff.mp ht
  exact ⟨f, shows_of_readOnto? hascii hread, Fields.stamp?_eq_some_iff.mp hstamp⟩

theorem Shows.exists_last (hshows : Shows (ps ++ [p]) cs f g) :
    ∃ before taken f', cs = before ++ taken ∧ p.Shows taken f' g := by
  induction ps generalizing cs f with
  | nil =>
    cases hshows with
    | cons hp hnil =>
      cases hnil
      exact ⟨[], _, _, List.append_nil _, hp⟩
  | cons q ps ih =>
    cases hshows with
    | @cons _ _ cs₁ rest _ _ _ _ hrest =>
      obtain ⟨before, taken, f', rfl, hp⟩ := ih hrest
      exact ⟨cs₁ ++ before, taken, f', (List.append_assoc ..).symm, hp⟩

/-- The word for universal time is no zone, so that no text is in both layouts of mail headers. -/
theorem not_shows_mailZone {f' g' : Fields} (hshows : Shows mailGmtLayout cs f g) :
    ¬ Shows mailZoneLayout cs f' g' := by
  intro hzone
  have hword : Shows ((mailStart ++ [.literal 'G', .literal 'M']) ++ [.literal 'T']) cs f g := hshows
  obtain ⟨before, taken, _, rfl, hletter⟩ := hword.exists_last
  obtain ⟨before', taken', _, heq, hoffset⟩ := hzone.exists_last
  cases hletter with
  | literal _ c _ hc =>
    cases hoffset with
    | zone _ n _ hn =>
      obtain ⟨first, d, rfl, hd⟩ := hn.last
      rw [← List.append_assoc] at heq
      obtain rfl : c = d := by simpa using (List.append_inj' heq rfl).2
      -- The last character is a letter, and not the one that a zone may end in.
      rcases hd with rfl | hd
      · cases hc
      · have hvalue := digitValue?_of_isAsciiDigit hd
        rw [← digitValue?_asciiLower, hc] at hvalue
        cases hvalue

theorem eq_of_shows_both {provider : Provider} {f' g' : Fields} (hps : ps ∈ ofProvider provider)
    (hqs : qs ∈ ofProvider provider) (hshows : Shows ps cs f g) (hshows' : Shows qs cs f' g') : ps = qs := by
  cases provider with
  | youtube => rw [List.mem_singleton.mp hps, List.mem_singleton.mp hqs]
  | rumble =>
    simp only [ofProvider, List.mem_cons, List.not_mem_nil, or_false] at hps hqs
    rcases hps with rfl | rfl
    · rcases hqs with rfl | rfl
      · rfl
      · exact absurd hshows' (not_shows_mailZone hshows)
    · rcases hqs with rfl | rfl
      · exact absurd hshows (not_shows_mailZone hshows')
      · rfl

end Layout

namespace Stamp

open Layout

variable {provider : Provider} {raw : String} {t : Stamp}

theorem stamp?_invalidDateText {ps : Layout} (hps : ps ∈ ofProvider provider) :
    Layout.stamp? ps invalidDateText.toList = none := by
  have hall : ∀ p : Provider, ∀ ps ∈ ofProvider p, Layout.stamp? ps invalidDateText.toList = none := by
    intro p
    cases p with
    | youtube => decide
    | rumble => decide
  exact hall provider ps hps

theorem toList_trim (s : String) : (Text.trim s).toList = Text.trimChars s.toList := String.toList_ofList

theorem mem_of_mem_trimChars {c : Char} {cs : List Char} (hc : c ∈ Text.trimChars cs) : c ∈ cs := by
  have hdrop := List.mem_reverse.mp (List.dropWhile_subset _ (List.mem_reverse.mp hc))
  exact List.dropWhile_subset _ hdrop

theorem read?_eq_some_iff (hascii : ∀ c ∈ raw.toList, c.toNat < 0x80) :
    read? provider raw = some t ↔ IsStampText provider raw.toList t := by
  have htrimmed : ∀ c ∈ Text.trimChars raw.toList, c.toNat < 0x80 :=
    fun c hc => hascii c (mem_of_mem_trimChars hc)
  unfold read? IsStampText
  dsimp only
  rw [toList_trim]
  constructor
  · intro hread
    split at hread
    · cases hread
    · obtain ⟨ps, hps, hstamp⟩ := List.exists_of_findSome?_eq_some hread
      obtain ⟨f, hshows, htell⟩ := shows_of_stamp? htrimmed hstamp
      exact ⟨ps, hps, f, hshows, htell⟩
  · rintro ⟨ps, hps, f, hshows, htell⟩
    have hstamp := stamp?_of_shows (isOrderly_of_mem_ofProvider hps) hshows htell
    have hvalid : (Text.trim raw == invalidDateText) = false := by
      rw [beq_eq_false_iff_ne]
      intro hinvalid
      rw [← toList_trim, hinvalid, stamp?_invalidDateText hps] at hstamp
      cases hstamp
    rw [hvalid]
    -- Whatever layout is found first is the one that shows the text.
    cases hfound : (ofProvider provider).findSome? (Layout.stamp? · (Text.trimChars raw.toList)) with
    | none =>
      rw [List.findSome?_eq_none_iff] at hfound
      rw [hfound ps hps] at hstamp
      cases hstamp
    | some u =>
      obtain ⟨qs, hqs, hu⟩ := List.exists_of_findSome?_eq_some hfound
      obtain ⟨g, hshows', -⟩ := shows_of_stamp? htrimmed hu
      rw [eq_of_shows_both hps hqs hshows hshows', hu] at hstamp
      exact hstamp

theorem readOrNow_of_read? (h : read? provider raw = some t) (now : Stamp) :
    readOrNow now provider (some raw) = pure t := by
  rw [readOrNow, Option.bind_some, h]

theorem readOrNow_of_unread {raw : Option String} (h : raw.bind (read? provider) = none) (now : Stamp) :
    readOrNow now provider raw = ⟨now, [.unreadableTime provider raw]⟩ := by
  rw [readOrNow, h]
  rfl

/-- Where the timestamp of a provider's entry is ASCII text or missing, it is read if and only if the text
shows a timestamp in one of the provider's layouts, blanks at the ends aside, and then as that timestamp;
in all other cases it counts as the present time, and a notice says so. -/
theorem reads_exactly_its_layouts (now : Stamp) (provider : Provider) (raw : Option String)
    (hascii : ∀ s ∈ raw, ∀ c ∈ s.toList, c.toNat < 0x80) :
    (∀ t, readOrNow now provider raw = pure t ↔ ∃ s ∈ raw, IsStampText provider s.toList t) ∧
    (readOrNow now provider raw = ⟨now, [.unreadableTime provider raw]⟩ ↔
      ¬ ∃ s ∈ raw, ∃ t, IsStampText provider s.toList t) := by
  cases hread : raw.bind (read? provider) with
  | some u =>
    obtain ⟨s, rfl, hs⟩ := Option.bind_eq_some_iff.mp hread
    have hiff : ∀ t, IsStampText provider s.toList t ↔ u = t := by
      intro t
      rw [← read?_eq_some_iff (hascii s rfl), hs, Option.some.injEq]
    rw [readOrNow_of_read? hs]
    refine ⟨fun t => ?_, ?_⟩
    · constructor
      · intro heq
        exact ⟨s, rfl, (hiff t).mpr (congrArg Logged.value heq)⟩
      · rintro ⟨s', hs', ht⟩
        obtain rfl := Option.mem_some.mp hs'
        rw [(hiff t).mp ht]
    · constructor
      · -- A notice is a notice: what was read comes without one.
        intro heq
        cases congrArg Logged.notices heq
      · intro hnone
        exact absurd ⟨s, rfl, u, (hiff u).mpr rfl⟩ hnone
  | none =>
    have hnone : ¬ ∃ s ∈ raw, ∃ t, IsStampText provider s.toList t := by
      rintro ⟨s, hs, t, ht⟩
      obtain rfl : raw = some s := hs
      rw [Option.bind_some, (read?_eq_some_iff (hascii s rfl)).mpr ht] at hread
      cases hread
    rw [readOrNow_of_unread hread]
    refine ⟨fun t => ?_, iff_of_true rfl hnone⟩
    constructor
    · intro heq
      cases congrArg Logged.notices heq
    · rintro ⟨s, hs, ht⟩
      exact absurd ⟨s, hs, t, ht⟩ hnone

def oddMailText : String := " tHU,  \t 9 fEB\n2012 7:05:9 -23:59:59.25 "

def oddMailStamp : Stamp where
  date := (Date.of? 2012 2 9).getD .first
  time := (TimeOfDay.of? 7 5 9 0).getD .midnight
  offset := ZoneOffset.of? (-86399250000)

/-- The odd text shows its timestamp; the day that February lacks in most years is no date. -/
theorem odd_mail_text_is_read :
    (∀ c ∈ oddMailText.toList, c.toNat < 0x80) ∧ IsStampText .rumble oddMailText.toList oddMailStamp ∧
    (∀ c ∈ "2011-02-29T00:00:00Z".toList, c.toNat < 0x80) ∧
    ¬ ∃ t, IsStampText .youtube "2011-02-29T00:00:00Z".toList t := by
  have hall : oddMailText.toList.all (·.toNat < 0x80) = true := by decide
  have hodd : ∀ c ∈ oddMailText.toList, c.toNat < 0x80 := by
    simpa only [List.all_eq_true, decide_eq_true_eq] using hall
  have hall' : "2011-02-29T00:00:00Z".toList.all (·.toNat < 0x80) = true := by decide
  have hmissing : ∀ c ∈ "2011-02-29T00:00:00Z".toList, c.toNat < 0x80 := by
    simpa only [List.all_eq_true, decide_eq_true_eq] using hall'
  obtain ⟨hread, -⟩ := reads_exactly_its_layouts default .rumble (some oddMailText)
    (fun s hs => Option.some.inj hs ▸ hodd)
  obtain ⟨-, hunread⟩ := reads_exactly_its_layouts default .youtube (some "2011-02-29T00:00:00Z")
    (fun s hs => Option.some.inj hs ▸ hmissing)
  refine ⟨hodd, ?_, hmissing, ?_⟩
  · obtain ⟨s, hs, hshows⟩ := (hread oddMailStamp).mp (readOrNow_of_read? (by decide) default)
    obtain rfl := Option.mem_some.mp hs
    exact hshows
  · rintro ⟨t, ht⟩
    exact hunread.mp (readOrNow_of_unread (by decide) default) ⟨_, rfl, t, ht⟩

end Stamp

end VideoWall
