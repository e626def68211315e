import VideoWall.Provider

/-!
# Sources that share a feed

The marks in front of a source decide what the address of its feed names: a playlist, a channel or a name.
Different sources have different addresses, but for a channel without its shorts and the playlist of its
uploads. Main statement: `sources_share_feed_iff`.
-/

namespace VideoWall.Source

variable {a b id id' : List Char}

/-! ## 1. What an address names -/

theorem playlistFeed_inj : playlistFeed id = playlistFeed id' ↔ id = id' := by
  unfold playlistFeed
  exact List.append_right_inj _

theorem channelFeed_inj : channelFeed id = channelFeed id' ↔ id = id' := by
  unfold channelFeed
  exact List.append_right_inj _

theorem playlistFeed_ne_channelFeed : playlistFeed id ≠ channelFeed id' := by
  unfold playlistFeed channelFeed
  rw [List.append_assoc, List.append_assoc, Ne, List.append_right_inj]
  -- The parameters differ in their first letter.
  simp

theorem feedChars_playlist (id : List Char) (includeShorts : Bool) :
    feedChars .youtube (playlistMark ++ id) includeShorts = playlistFeed id := by
  unfold feedChars
  simp only [Text.dropStart?_append]

theorem feedChars_channel (id : List Char) :
    feedChars .youtube (channelMark ++ id) false = playlistFeed (uploadsMark ++ id) := by
  -- The source does not begin with the mark of playlists.
  have hmark : Text.dropStart? playlistMark (channelMark ++ id) = none := rfl
  unfold feedChars
  simp only [hmark, Text.dropStart?_append]

/-- The address of a source names a playlist by its mark, the playlist of a channel's uploads, or the source
itself as a channel. -/
theorem feedChars_youtube_cases (source : List Char) (includeShorts : Bool) :
    (∃ id, source = playlistMark ++ id ∧
      feedChars .youtube source includeShorts = playlistFeed id) ∨
    (∃ id, source = channelMark ++ id ∧ includeShorts = false ∧
      feedChars .youtube source includeShorts = playlistFeed (uploadsMark ++ id)) ∨
    feedChars .youtube source includeShorts = channelFeed source := by
  cases hplaylist : Text.dropStart? playlistMark source with
  | some id =>
    obtain rfl := Text.dropStart?_eq_some_iff.mp hplaylist
    exact .inl ⟨id, rfl, feedChars_playlist id includeShorts⟩
  | none =>
    right
    cases includeShorts with
    | true =>
      right
      unfold feedChars
      simp only [hplaylist]
    | false =>
      cases hchannel : Text.dropStart? channelMark source with
      | some id =>
        obtain rfl := Text.dropStart?_eq_some_iff.mp hchannel
        exact .inl ⟨id, rfl, rfl, feedChars_channel id⟩
      | none =>
        right
        unfold feedChars
        simp only [hplaylist, hchannel]

/-! ## 2. Equal addresses -/

/-- Whether one source is a channel and the other is the playlist of its uploads without shorts. -/
def SharesUploads (a b : List Char) : Prop :=
  ∃ x, a = channelMark ++ x ∧ b = playlistMark ++ uploadsMark ++ x ∨
    a = playlistMark ++ uploadsMark ++ x ∧ b = channelMark ++ x

theorem feedChars_youtube_eq_iff (a b : List Char) (includeShorts : Bool) :
    feedChars .youtube a includeShorts = feedChars .youtube b includeShorts ↔
      a = b ∨ includeShorts = false ∧ SharesUploads a b := by
  constructor
  · intro h
    -- What `a` names, and for each of the three what `b` names.
    rcases feedChars_youtube_cases a includeShorts with ⟨id, rfl, ha⟩ | ⟨id, rfl, hshorts, ha⟩ | ha <;>
    rcases feedChars_youtube_cases b includeShorts with ⟨id', rfl, hb⟩ | ⟨id', rfl, hshorts', hb⟩ | hb <;>
    rw [ha, hb] at h
    · exact .inl (congrArg _ (playlistFeed_inj.mp h))
    · obtain rfl := playlistFeed_inj.mp h
      exact .inr ⟨hshorts', id', .inr ⟨(List.append_assoc _ _ _).symm, rfl⟩⟩
    · exact absurd h playlistFeed_ne_channelFeed
    · obtain rfl := playlistFeed_inj.mp h
      exact .inr ⟨hshorts, id, .inl ⟨rfl, (List.append_assoc _ _ _).symm⟩⟩
    · have hid := (List.append_right_inj uploadsMark).mp (playlistFeed_inj.mp h)
      exact .inl (congrArg _ hid)
    · exact absurd h playlistFeed_ne_channelFeed
    · exact absurd h.symm playlistFeed_ne_channelFeed
    · exact absurd h.symm playlistFeed_ne_channelFeed
    · exact .inl (channelFeed_inj.mp h)
  · rintro (rfl | ⟨rfl, x, ⟨rfl, rfl⟩ | ⟨rfl, rfl⟩⟩)
    · rfl
    · rw [feedChars_channel, List.append_assoc, feedChars_playlist]
    · rw [feedChars_channel, List.append_assoc, feedChars_playlist]

theorem feedChars_rumble (name : List Char) (includeShorts : Bool) :
    feedChars .rumble name includeShorts = nameBase ++ name := by
  unfold feedChars
  rfl

theorem feedChars_rumble_eq_iff (a b : List Char) (includeShorts : Bool) :
    feedChars .rumble a includeShorts = feedChars .rumble b includeShorts ↔ a = b := by
  rw [feedChars_rumble, feedChars_rumble, List.append_right_inj]

theorem feedChars_youtube_ne_rumble (a b : List Char) (includeShorts : Bool) :
    feedChars .youtube a includeShorts ≠ feedChars .rumble b includeShorts := by
  have hstart : ∀ rest, queryBase ++ rest ≠ nameBase ++ b := by
    -- The schemes differ.
    intro rest h
    unfold queryBase nameBase at h
    simp at h
  rw [feedChars_rumble]
  rcases feedChars_youtube_cases a includeShorts with ⟨id, -, ha⟩ | ⟨id, -, -, ha⟩ | ha
  all_goals
    rw [ha]
    simp only [playlistFeed, channelFeed, List.append_assoc]
    exact hstart _

theorem sharesUploads_iff (a b : String) : SharesUploads a.toList b.toList ↔
    ∃ x : String, a = "UC" ++ x ∧ b = "playlist:UULF" ++ x ∨
      a = "playlist:UULF" ++ x ∧ b = "UC" ++ x := by
  have hchannel : ∀ (s x : String), s = "UC" ++ x ↔ s.toList = channelMark ++ x.toList := by
    intro s x
    rw [← String.toList_inj, String.toList_append]
    rfl
  have hplaylist : ∀ (s x : String),
      s = "playlist:UULF" ++ x ↔ s.toList = playlistMark ++ uploadsMark ++ x.toList := by
    intro s x
    rw [← String.toList_inj, String.toList_append]
    rfl
  simp only [hchannel, hplaylist]
  constructor
  · rintro ⟨x, hx⟩
    refine ⟨String.ofList x, ?_⟩
    rwa [String.toList_ofList]
  · rintro ⟨x, hx⟩
    exact ⟨x.toList, hx⟩

/-- Two sources have one address if and only if they are the same source of one provider, or both are of
the first provider, shorts are left out, and one of them is a channel and the other is the playlist of its
uploads without shorts. So if shorts are asked for, and for named feeds always, no two sources of a provider
share a feed. -/
theorem sources_share_feed_iff (p q : Provider) (a b : String) (includeShorts : Bool) :
    (feedUrl p a includeShorts = feedUrl q b includeShorts ↔
      p = q ∧ a = b ∨
      p = .youtube ∧ q = .youtube ∧ includeShorts = false ∧
        ∃ x : String, a = "UC" ++ x ∧ b = "playlist:UULF" ++ x ∨
          a = "playlist:UULF" ++ x ∧ b = "UC" ++ x) ∧
    (includeShorts = true ∨ p = .rumble → a ≠ b →
      feedUrl p a includeShorts ≠ feedUrl p b includeShorts) := by
  have hchars : ∀ p q, feedUrl p a includeShorts = feedUrl q b includeShorts ↔
      feedChars p a.toList includeShorts = feedChars q b.toList includeShorts :=
    fun p q => String.ofList_inj
  have hyoutube : feedUrl .youtube a includeShorts = feedUrl .youtube b includeShorts ↔
      a = b ∨ includeShorts = false ∧ SharesUploads a.toList b.toList := by
    rw [hchars, feedChars_youtube_eq_iff, String.toList_inj]
  have hrumble : feedUrl .rumble a includeShorts = feedUrl .rumble b includeShorts ↔ a = b := by
    rw [hchars, feedChars_rumble_eq_iff, String.toList_inj]
  constructor
  · rw [← sharesUploads_iff]
    -- Providers are told apart by their addresses, so two cases are left to compare.
    cases p <;> cases q
    · rw [hyoutube]
      simp only [true_and]
    · rw [hchars]
      simp only [feedChars_youtube_ne_rumble, reduceCtorEq, false_and, and_false, or_false]
    · rw [hchars]
      simp only [(feedChars_youtube_ne_rumble _ _ _).symm, reduceCtorEq, false_and, or_false]
    · rw [hrumble]
      simp only [reduceCtorEq, false_and, true_and, or_false]
  · intro hkind hne heq
    apply hne
    cases p with
    | rumble => exact hrumble.mp heq
    | youtube =>
      rcases hyoutube.mp heq with h | ⟨hshorts, -⟩
      · exact h
      · rcases hkind with htrue | h
        · rw [hshorts] at htrue
          cases htrue
        · cases h

/-- A channel and the playlist of its uploads. -/
example : feedUrl .youtube "UCUCa" false = feedUrl .youtube "playlist:UULFUCa" false ∧
    feedUrl .youtube "UCUCa" true ≠ feedUrl .youtube "playlist:UULFUCa" true := by
  decide

end VideoWall.Source
