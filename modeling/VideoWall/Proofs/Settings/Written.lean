import Mathlib.Data.List.Nodup
import VideoWall.Proofs.Number.Written
import VideoWall.Proofs.Path.Normal
import VideoWall.Settings.Reader
import VideoWall.Settings.Writer

/-!
# Written settings are read back

Every tree that says some settings is read as these settings, whatever the order of its elements and whatever
unknown elements and blank entries stand between them. Main statement: `written_settings_are_read_back`.
-/

namespace VideoWall.Settings

open Xml (Element)

variable {α : Type} {known : List String} {fits : α → Element → Prop} {facts : List α} {children : List Element}

/-! ## 1. Elements of known names -/

theorem Arranges.exists_fact (h : Arranges known fits facts children) {e : Element} (he : e ∈ children)
    {tag : String} (hknown : tag ∈ known) (hnamed : e.isNamed tag = true) : ∃ a ∈ facts, fits a e := by
  obtain ⟨pairs, rfl, hperm, hfits⟩ := h
  have hfilter : e ∈ children.filter (isKnown known) :=
    List.mem_filter.mpr ⟨he, List.any_eq_true.mpr ⟨tag, hknown, hnamed⟩⟩
  obtain ⟨p, hp, rfl⟩ := List.mem_map.mp (hperm.mem_iff.mp hfilter)
  exact ⟨p.1, List.mem_map_of_mem hp, hfits p hp⟩

theorem Arranges.exists_element (h : Arranges known fits facts children) {a : α} (ha : a ∈ facts) :
    ∃ e ∈ children, fits a e := by
  obtain ⟨pairs, rfl, hperm, hfits⟩ := h
  obtain ⟨p, hp, rfl⟩ := List.mem_map.mp ha
  have hfilter := hperm.mem_iff.mpr (List.mem_map_of_mem hp)
  exact ⟨p.2, (List.mem_filter.mp hfilter).1, hfits p hp⟩

theorem Arranges.find? (h : Arranges known fits facts children) {tag : α → String}
    (htag : ∀ a e, fits a e → e.isNamed (tag a) = true) (hnodup : (facts.map tag).Nodup)
    (hknown : ∀ a ∈ facts, tag a ∈ known) {a : α} (ha : a ∈ facts) :
    ∃ e, children.find? (Element.isNamed (tag a)) = some e ∧ fits a e := by
  have hsome : (children.find? (Element.isNamed (tag a))).isSome = true := by
    obtain ⟨e, he, hfits⟩ := h.exists_element ha
    exact List.find?_isSome.mpr ⟨e, he, htag a e hfits⟩
  obtain ⟨e, he⟩ := Option.isSome_iff_exists.mp hsome
  have hnamed : e.isNamed (tag a) = true := List.find?_some he
  obtain ⟨b, hb, hfits⟩ := h.exists_fact (List.mem_of_find?_eq_some he) (hknown a ha) hnamed
  -- Facts of one name are one fact.
  have hsame : tag b = tag a := Element.isNamed_unique (htag b e hfits) hnamed
  obtain rfl : b = a := List.inj_on_of_nodup_map hnodup hb ha hsame
  exact ⟨e, he, hfits⟩

theorem Arranges.find?_eq_none (h : Arranges known fits facts children) {tag : α → String}
    (htag : ∀ a e, fits a e → e.isNamed (tag a) = true) {name : String} (hname : name ∈ known)
    (hfacts : name ∉ facts.map tag) : children.find? (Element.isNamed name) = none := by
  rw [List.find?_eq_none]
  intro e he hnamed
  obtain ⟨a, ha, hfits⟩ := h.exists_fact he hname hnamed
  obtain rfl : tag a = name := Element.isNamed_unique (htag a e hfits) hnamed
  exact hfacts (List.mem_map_of_mem ha)

/-! ## 2. Fields -/

variable {s : Settings} {root : Element}

theorem isNamed_of_holds (f : String × String) (e : Element) (h : Holds f e) : e.isNamed f.1 = true := h.1

theorem isNamed_of_isSaidBy (f : Field) (e : Element) (h : f.IsSaidBy e) : e.isNamed f.tag = true := by
  cases f with
  | text tag content => exact h.1
  | list tag entryTag entries => exact h.1
  | logging l => exact h.1

/-- Whether settings can be written: their numbers are read back from their texts, no text has a blank at its
ends, neither the title nor an entry of a list is empty, and the path of the log file is in normal form. -/
structure IsWritable (s : Settings) : Prop where
  title : s.title ≠ "" ∧ Text.IsTrimmed s.title
  template : Text.IsTrimmed s.videoUrlTemplate
  style : Text.IsTrimmed s.style
  entries : ∀ e ∈ s.channels ++ s.playlists ++ s.rumbleChannels, e ≠ "" ∧ Text.IsTrimmed e
  limit : ∃ n, s.limit = some n ∧ n.natAbs < Nat.pow 10 Number.digitLimit
  numbers : ∀ n ∈ [s.collapseAfter, s.collapseAfterRows, s.concurrency], n.natAbs < Nat.pow 10 Number.digitLimit
  timeout : Number.decimal? s.timeout.toText = some s.timeout
  file : ∀ path ∈ s.logging.file, Path.IsNormal path

theorem IsWritable.map_tag_fields (hs : s.IsWritable) : s.fields.map Field.tag = tags := by
  obtain ⟨n, hn, -⟩ := hs.limit
  rw [fields, hn]
  rfl

theorem IsWritable.entries_of_list (hs : s.IsWritable) {tag entryTag : String} {entries : List String}
    (hf : .list tag entryTag entries ∈ s.fields) : ∀ t ∈ entries, t ≠ "" ∧ Text.IsTrimmed t := by
  intro t ht
  apply hs.entries
  simp only [fields, List.mem_append, List.mem_cons, Option.mem_toList, Option.map_eq_some_iff, reduceCtorEq,
    Field.list.injEq, List.not_mem_nil, and_false, exists_false, or_false, false_or] at hf
  rcases hf with ⟨-, -, rfl⟩ | ⟨-, -, rfl⟩ | ⟨-, -, rfl⟩
  · simp [ht]
  · simp [ht]
  · simp [ht]

theorem filter_trimmed_texts (children : List Element) :
    ((children.filterMap fun c => c.text.map Text.trim).filter fun t => !t.isEmpty) =
      ((children.filter fun c => !isBlankEntry c).map Element.text).filterMap (Option.map Text.trim) := by
  induction children with
  | nil => rfl
  | cons c children ih =>
    -- A child without a text, one with a blank text, and one that is kept on both sides.
    cases htext : c.text with
    | none =>
      have hblank : isBlankEntry c = true := by rw [isBlankEntry, htext]; rfl
      rw [List.filterMap_cons_none (by rw [htext]; rfl), List.filter_cons_of_neg (by rw [hblank]; decide), ih]
    | some t =>
      have hentry : isBlankEntry c = Text.isBlankText t := by rw [isBlankEntry, htext, Option.getD_some]
      rw [List.filterMap_cons_some (by rw [htext]; rfl)]
      cases hblank : Text.isBlankText t with
      | true =>
        have hempty : Text.trim t = "" := Text.trim_eq_empty_iff.mpr hblank
        rw [List.filter_cons_of_neg (by rw [hempty]; decide),
          List.filter_cons_of_neg (by rw [hentry, hblank]; decide), ih]
      | false =>
        have hsome : (Text.trim t).isEmpty = false := by
          rw [← Bool.not_eq_true, String.isEmpty_iff, Text.trim_eq_empty_iff, hblank]
          decide
        rw [List.filter_cons_of_pos (by rw [hsome]; rfl), List.filter_cons_of_pos (by rw [hentry, hblank]; rfl), ih,
          List.map_cons, List.filterMap_cons_some (by rw [htext]; rfl)]

theorem loggingNames_sublist (l : LoggingSettings) : ((loggingFields l).map Prod.fst).Sublist loggingTags := by
  unfold loggingFields
  cases l.file with
  | none => exact .cons_cons "level" (.cons "file" .slnil)
  | some path => exact .refl loggingTags

theorem fst_mem_loggingTags {l : LoggingSettings} {f : String × String} (hf : f ∈ loggingFields l) :
    f.1 ∈ loggingTags :=
  (loggingNames_sublist l).subset (List.mem_map_of_mem hf)

/-! ## 3. What is read of a tree that says settings -/

namespace IsSaidBy

variable (h : s.IsSaidBy root) (hs : s.IsWritable)

include h hs

theorem find? {f : Field} (hf : f ∈ s.fields) : ∃ e, root.find? f.tag = some e ∧ f.IsSaidBy e := by
  have hnodup : (s.fields.map Field.tag).Nodup := by
    rw [hs.map_tag_fields]
    decide
  refine Arranges.find? h isNamed_of_isSaidBy hnodup (fun g hg => ?_) hf
  rw [← hs.map_tag_fields]
  exact List.mem_map_of_mem hg

theorem findText? {tag content : String} (hf : .text tag content ∈ s.fields) :
    root.findText? tag = some content := by
  obtain ⟨e, he, hsaid⟩ := h.find? hs hf
  rw [Element.findText?, show root.find? tag = some e from he, Option.map_some, hsaid.2]

theorem trimmedText {tag content : String} (hf : .text tag content ∈ s.fields)
    (htrimmed : Text.IsTrimmed content) : Settings.trimmedText root tag = content := by
  rw [Settings.trimmedText, h.findText? hs hf, Option.getD_some, Text.trim_eq_self htrimmed]

theorem titleOf : Settings.titleOf root = s.title := by
  have hne : ¬ s.title.isEmpty = true := fun hempty => hs.title.1 (String.isEmpty_iff.mp hempty)
  rw [Settings.titleOf, h.findText? hs (show .text "title" s.title ∈ s.fields by simp [fields]), Text.orElse, if_neg hne,
    Text.trim_eq_self hs.title.2]

theorem flagOf : Settings.flagOf root "include-shorts" = s.includeShorts := by
  have htrimmed : ∀ b, Text.IsTrimmed (flagText b) := by
    rintro (_ | _)
    · exact ⟨by decide, by decide⟩
    · exact ⟨by decide, by decide⟩
  have hfield : .text "include-shorts" (flagText s.includeShorts) ∈ s.fields := by simp [fields]
  rw [Settings.flagOf, h.trimmedText hs hfield (htrimmed _)]
  cases s.includeShorts with
  | true => rfl
  | false => rfl

theorem integerOf {tag : String} {n : Int} (hf : .text tag (Text.ofInt n) ∈ s.fields)
    (hn : n.natAbs < Nat.pow 10 Number.digitLimit) (default : Int) : Settings.integerOf root tag default = .ok n := by
  have hread := Number.integer?_ofInt hn
  have hne : ¬ (Text.ofInt n).isEmpty = true := by
    intro hempty
    rw [String.isEmpty_iff.mp hempty] at hread
    cases hread
  rw [Settings.integerOf, h.trimmedText hs hf (Number.isTrimmed_ofInt n), if_neg hne, hread]

theorem timeoutOf : Settings.timeoutOf root = .ok s.timeout := by
  have hread := hs.timeout
  have hne : ¬ s.timeout.toText.isEmpty = true := by
    intro hempty
    rw [String.isEmpty_iff.mp hempty] at hread
    cases hread
  have hfield : .text "timeout" s.timeout.toText ∈ s.fields := by simp [fields]
  rw [Settings.timeoutOf, h.trimmedText hs hfield s.timeout.isTrimmed_toText, if_neg hne, hread]

theorem listOf {tag entryTag : String} {entries : List String} (hf : .list tag entryTag entries ∈ s.fields) :
    Settings.listOf root tag = entries := by
  obtain ⟨e, he, -, htexts⟩ := h.find? hs hf
  have htrim : entries.map Text.trim = entries.map id :=
    List.map_congr_left fun t ht => Text.trim_eq_self (hs.entries_of_list hf t ht).2
  have hsome : (Option.map Text.trim ∘ some) = some ∘ Text.trim := rfl
  rw [Settings.listOf, show root.find? tag = some e from he]
  dsimp only
  rw [filter_trimmed_texts, htexts, List.filterMap_map, hsome, List.filterMap_eq_map, htrim, List.map_id]

theorem loggingOf (directory : List String) : Settings.loggingOf directory root = s.logging := by
  obtain ⟨e, he, -, hchildren⟩ := h.find? hs (f := .logging s.logging) (by simp [fields])
  have hnodup : ((loggingFields s.logging).map Prod.fst).Nodup := (loggingNames_sublist _).nodup (by decide)
  have hread : ∀ f ∈ loggingFields s.logging, e.findText? f.1 = some f.2 := by
    intro f hf
    obtain ⟨x, hx, hholds⟩ := hchildren.find? isNamed_of_holds hnodup (fun _ => fst_mem_loggingTags) hf
    rw [Element.findText?, show e.find? f.1 = some x from hx, Option.map_some, hholds.2]
  have hlevel : e.findText? "level" = some s.logging.level := hread ("level", s.logging.level) List.mem_cons_self
  rw [Settings.loggingOf, show root.find? "logging" = some e from he]
  dsimp only
  rw [hlevel, Option.getD_some]
  -- Without a file there is no element of its name; a file is read as the normal form of its path.
  cases hpath : s.logging.file with
  | none =>
    have hno : e.find? "file" = none := by
      refine hchildren.find?_eq_none isNamed_of_holds (by decide) ?_
      rw [loggingFields, hpath]
      simp
    rw [Element.findText?, hno, Option.map_none, Option.getD_none, if_pos (by rfl), ← hpath]
  | some path =>
    have hfound : e.findText? "file" = some path := by
      refine hread ("file", path) (List.mem_cons_of_mem _ ?_)
      rw [hpath]
      exact List.mem_singleton_self _
    obtain ⟨habsolute, hnormal⟩ := Path.normal_eq_self (hs.file path hpath)
    have hne : ¬ path.isEmpty = true := by
      intro hempty
      rw [String.isEmpty_iff.mp hempty] at habsolute
      cases habsolute
    rw [hfound, Option.getD_some, if_neg hne, logFilePath, if_pos habsolute, hnormal, ← hpath]

theorem ofTree (directory : List String) : Settings.ofTree directory root = .ok s := by
  obtain ⟨limit, hlimit, hfew⟩ := hs.limit
  rw [Settings.ofTree, h.timeoutOf hs, h.integerOf hs (by simp [fields, hlimit]) hfew,
    h.integerOf hs (n := s.collapseAfter) (by simp [fields]) (hs.numbers _ (by simp)),
    h.integerOf hs (n := s.collapseAfterRows) (by simp [fields]) (hs.numbers _ (by simp)),
    h.integerOf hs (n := s.concurrency) (by simp [fields]) (hs.numbers _ (by simp)), h.titleOf hs, h.flagOf hs,
    h.listOf hs (show .list "channels" "channel" s.channels ∈ s.fields by simp [fields]),
    h.listOf hs (show .list "rumble-channels" "channel" s.rumbleChannels ∈ s.fields by simp [fields]),
    h.listOf hs (show .list "playlists" "playlist" s.playlists ∈ s.fields by simp [fields]),
    h.trimmedText hs (by simp [fields]) hs.template, h.trimmedText hs (by simp [fields]) hs.style, h.loggingOf hs]
  change Except.ok { s with limit := some limit } = .ok s
  rw [← hlimit]

end IsSaidBy

/-! ## 4. The tree that is written -/

theorem arranges_map {element : α → Element} (hknown : ∀ a ∈ facts, isKnown known (element a) = true)
    (hfits : ∀ a ∈ facts, fits a (element a)) : Arranges known fits facts (facts.map element) := by
  refine ⟨facts.map fun a => (a, element a), ?_, ?_, List.forall_mem_map.mpr hfits⟩
  · rw [List.map_map]
    exact List.map_id facts
  · rw [List.filter_eq_self.mpr (List.forall_mem_map.mpr hknown), List.map_map]
    rfl

theorem isNamed_plain (tag : String) (text : Option String) (children : List Element) :
    (plain tag text children).isNamed tag = true := by
  simp [plain, Element.isNamed, Element.name]

theorem isNamed_element (f : Field) : f.element.isNamed f.tag = true := by
  cases f with
  | text tag content => exact isNamed_plain tag _ _
  | list tag entryTag entries => exact isNamed_plain tag _ _
  | logging l => exact isNamed_plain "logging" _ _

theorem arranges_loggingFields (l : LoggingSettings) :
    Arranges loggingTags Holds (loggingFields l) ((loggingFields l).map fun f => leaf f.1 f.2) := by
  apply arranges_map
  · intro f hf
    exact List.any_eq_true.mpr ⟨f.1, fst_mem_loggingTags hf, isNamed_plain f.1 _ _⟩
  · exact fun f _ => ⟨isNamed_plain f.1 _ _, rfl⟩

theorem filter_leaf {entries : List String} (h : ∀ t ∈ entries, t ≠ "" ∧ Text.IsTrimmed t) (entryTag : String) :
    (((entries.map (leaf entryTag)).filter fun c => !isBlankEntry c).map Element.text) = entries.map some := by
  have hkept : ∀ c ∈ entries.map (leaf entryTag), (!isBlankEntry c) = true := by
    rw [List.forall_mem_map]
    intro t ht
    obtain ⟨hne, htrimmed⟩ := h t ht
    rw [Bool.not_eq_true', ← Bool.not_eq_true]
    intro hblank
    have hempty := Text.trim_eq_empty_iff.mpr hblank
    exact hne ((Text.trim_eq_self htrimmed).symm.trans hempty)
  rw [List.filter_eq_self.mpr hkept, List.map_map]
  rfl

theorem isSaidBy_toTree (hs : s.IsWritable) : s.IsSaidBy s.toTree := by
  apply arranges_map
  · intro f hf
    have htag : f.tag ∈ tags := hs.map_tag_fields ▸ List.mem_map_of_mem hf
    exact List.any_eq_true.mpr ⟨f.tag, htag, isNamed_element f⟩
  · intro f hf
    cases f with
    | text tag content => exact ⟨isNamed_plain tag _ _, rfl⟩
    | list tag entryTag entries =>
      exact ⟨isNamed_plain tag _ _, filter_leaf (hs.entries_of_list hf) entryTag⟩
    | logging l => exact ⟨isNamed_plain "logging" _ _, arranges_loggingFields l⟩

/-- Settings that can be written are said by the tree that is written, and every tree that says them is read as
these settings, wherever it is; so is every file with such a tree. -/
theorem written_settings_are_read_back (s : Settings) (hs : s.IsWritable) :
    s.IsSaidBy s.toTree ∧ ∀ root : Element, s.IsSaidBy root →
      (∀ directory, ofTree directory root = .ok s) ∧
      ∀ holds directory path bytes, holds (Path.resolve directory path) = some (.file bytes) →
        Xml.readTree bytes = .ok root → (load holds directory path).value = .ok s := by
  refine ⟨isSaidBy_toTree hs, fun root h => ⟨h.ofTree hs, ?_⟩⟩
  intro holds directory path bytes hfile htree
  have hbytes : ofBytes (Path.resolve directory path).dropLast bytes = .ok s := by
    rw [ofBytes, htree]
    exact h.ofTree hs _
  rw [load, hfile]
  simp only [Logged.value_bind, hbytes, Logged.value_pure]

def sample : Settings where
  title := "a < b & \"c\""
  channels := ["UC1", "UC 2"]
  rumbleChannels := []
  playlists := ["PL1"]
  videoUrlTemplate := "https://v.test/?v=\x7bVIDEO-ID\x7d"
  style := "grid-cards"
  limit := some (-5)
  includeShorts := true
  collapseAfter := -1
  collapseAfterRows := 12
  concurrency := 3
  timeout := .ten
  logging := ⟨"DEBUG", some "/var/log/wall.log"⟩

theorem natAbs_lt_of_short {n : Int} {w : Nat} (hw : 2 ≤ w) (h : n.natAbs < 100) : n.natAbs < Nat.pow 10 w := by
  have hpow : 10 ^ 2 ≤ 10 ^ w := Nat.pow_le_pow_right (by decide) hw
  exact Nat.lt_of_lt_of_le h hpow

theorem sample_isWritable : sample.IsWritable where
  title := ⟨by decide, by decide, by decide⟩
  template := ⟨by decide, by decide⟩
  style := ⟨by decide, by decide⟩
  entries := by
    intro e he
    simp only [sample, List.mem_append, List.mem_cons, List.not_mem_nil, or_false] at he
    rcases he with (rfl | rfl) | rfl
    · exact ⟨by decide, by decide, by decide⟩
    · exact ⟨by decide, by decide, by decide⟩
    · exact ⟨by decide, by decide, by decide⟩
  limit := ⟨-5, rfl, natAbs_lt_of_short (by decide) (by decide)⟩
  numbers := by
    intro n hn
    have hshort : ∀ n ∈ [sample.collapseAfter, sample.collapseAfterRows, sample.concurrency], n.natAbs < 100 := by decide
    exact natAbs_lt_of_short (by decide) (hshort n hn)
  timeout := by decide +kernel
  file := by
    rintro _ ⟨⟩
    have hnames : ∀ s ∈ ["var", "log", "wall.log"], Path.IsSegment s := by
      intro s hs
      simp only [List.mem_cons, List.not_mem_nil, or_false] at hs
      rcases hs with rfl | rfl | rfl
      · exact ⟨by decide, by decide, by decide⟩
      · exact ⟨by decide, by decide, by decide⟩
      · exact ⟨by decide, by decide, by decide⟩
    exact ⟨"/", by decide, _, hnames, rfl⟩

/-- The sample in another layout: its elements in the opposite order, with unknown elements and blank entries
between them. -/
def sampleLayout : Element :=
  plain "settings" (some "\n") [
    plain "logging" none [leaf "file" "/var/log/wall.log", leaf "rotate" "daily", leaf "level" "DEBUG"],
    plain "rumble-channels" none [],
    plain "playlists" (some " ") [leaf "playlist" "PL1", leaf "playlist" "\n "],
    leaf "colour" "red",
    plain "channels" none [plain "channel" none [], leaf "channel" "UC1", leaf "channel" " ", leaf "id" "UC 2"],
    leaf "timeout" "10.0", leaf "concurrency" "3", leaf "collapse-after-rows" "12", leaf "collapse-after" "-1",
    leaf "include-shorts" "true", leaf "limit" "-5", leaf "style" "grid-cards",
    leaf "video-url-template" "https://v.test/?v=\x7bVIDEO-ID\x7d", leaf "title" "a < b & \"c\"",
    leaf "colour" "blue"]

theorem sampleLayout_isSaid : sample.IsSaidBy sampleLayout := by
  have hlogging : Arranges loggingTags Holds (loggingFields sample.logging)
      [leaf "file" "/var/log/wall.log", leaf "rotate" "daily", leaf "level" "DEBUG"] :=
    ⟨[(("level", "DEBUG"), leaf "level" "DEBUG"), (("file", "/var/log/wall.log"), leaf "file" "/var/log/wall.log")],
      rfl, .swap _ _ _, by simp [Holds, leaf, plain, Element.isNamed, Element.name, Element.text]⟩
  have hreverse := List.reverse_perm (sampleLayout.children.filter (isKnown tags))
  refine ⟨sample.fields.zip (sampleLayout.children.filter (isKnown tags)).reverse, rfl, hreverse.symm, ?_⟩
  iterate 9 refine List.forall_mem_cons.mpr ⟨⟨rfl, by decide +kernel⟩, ?_⟩
  iterate 3 refine List.forall_mem_cons.mpr ⟨⟨rfl, rfl⟩, ?_⟩
  exact List.forall_mem_singleton.mpr ⟨rfl, hlogging⟩

/-- The sample is read from its other layout. -/
theorem sample_layout_is_read : sample.IsWritable ∧ sample.IsSaidBy sampleLayout ∧
    ofTree ["etc"] sampleLayout = .ok sample :=
  ⟨sample_isWritable, sampleLayout_isSaid,
    ((written_settings_are_read_back sample sample_isWritable).2 _ sampleLayout_isSaid).1 ["etc"]⟩

end VideoWall.Settings
