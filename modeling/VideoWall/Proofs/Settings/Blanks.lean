import VideoWall.Proofs.Text.Trimming
import VideoWall.Settings.Reader
import VideoWall.Settings.Writer

/-!
# Blanks around settings

Blanks around the text of a setting do not count, and a blank element is as good as none, for all settings of a
single text but three: a title of blanks only is an empty title, and the log level and the log file are taken as
they stand. Main statement: `blanks_count_in_title_and_logging_only`.
-/

namespace VideoWall.Settings

open Xml (Element)

variable {directory : List String} {root root' e : Element} {s : Settings} {tag : String}

/-! ## 1. Elements with a gap -/

/-- An element with a gap among its children. -/
structure Gap where
  name : Xml.Name
  text : Option String
  before : List Element
  after : List Element

def contentOf (e : Element) : String := e.text.getD ""

def padded (front back : String) (e : Element) : Element :=
  .node e.name (some (front ++ contentOf e ++ back)) e.children

theorem isNamed_padded (front back : String) (tag : String) (e : Element) :
    (padded front back e).isNamed tag = e.isNamed tag := rfl

namespace Gap

variable {g : Gap} {es es' : List Element}

def fill (g : Gap) (es : List Element) : Element :=
  .node g.name g.text (g.before ++ es ++ g.after)

def IsFree (g : Gap) (tag : String) : Prop :=
  ∀ x ∈ g.before ++ g.after, x.isNamed tag = false

theorem find?_fill (g : Gap) (es : List Element) (tag : String) :
    (g.fill es).find? tag = (g.before.find? (Element.isNamed tag)).or ((es.find? (Element.isNamed tag)).or
      (g.after.find? (Element.isNamed tag))) := by
  rw [Element.find?, fill, Element.children, List.find?_append, List.find?_append, Option.or_assoc]

theorem find?_fill_of_isFree (h : g.IsFree tag) (es : List Element) :
    (g.fill es).find? tag = es.find? (Element.isNamed tag) := by
  have hbefore : g.before.find? (Element.isNamed tag) = none :=
    List.find?_eq_none.mpr fun x hx => Bool.eq_false_iff.mp (h x (List.mem_append_left _ hx))
  have hafter : g.after.find? (Element.isNamed tag) = none :=
    List.find?_eq_none.mpr fun x hx => Bool.eq_false_iff.mp (h x (List.mem_append_right _ hx))
  rw [find?_fill, hbefore, hafter, Option.none_or, Option.or_none]

theorem find?_fill_of_ne {other : String} (hne : other ≠ tag) (h : ∀ x ∈ es, x.isNamed tag = true) :
    (g.fill es).find? other = (g.fill []).find? other := by
  have hes : es.find? (Element.isNamed other) = none := by
    rw [List.find?_eq_none]
    intro x hx hother
    exact hne (Element.isNamed_unique hother (h x hx))
  rw [find?_fill, find?_fill, hes, List.find?_nil]

theorem findText?_fill_of_ne {other : String} (hne : other ≠ tag) (h : ∀ x ∈ es, x.isNamed tag = true) :
    (g.fill es).findText? other = (g.fill []).findText? other := by
  rw [Element.findText?, Element.findText?, find?_fill_of_ne hne h]

theorem find?_fill_self (h : g.IsFree tag) (he : e.isNamed tag = true) : (g.fill [e]).find? tag = some e := by
  rw [find?_fill_of_isFree h, List.find?_cons_of_pos he]

theorem findText?_fill_self (h : g.IsFree tag) (he : e.isNamed tag = true) :
    (g.fill [e]).findText? tag = some (contentOf e) := by
  rw [Element.findText?, find?_fill_self h he, Option.map_some, contentOf]

theorem findText?_fill_nil (h : g.IsFree tag) : (g.fill []).findText? tag = none := by
  rw [Element.findText?, find?_fill_of_isFree h, List.find?_nil, Option.map_none]

end Gap

/-! ## 2. What is read of a tree -/

/-- Whether two trees have the same first elements of all names but one. -/
def AgreesBut (tag : String) (root root' : Element) : Prop :=
  ∀ other, other ≠ tag → root.find? other = root'.find? other

theorem AgreesBut.fill {g : Gap} {es es' : List Element} (hes : ∀ x ∈ es, x.isNamed tag = true)
    (hes' : ∀ x ∈ es', x.isNamed tag = true) : AgreesBut tag (g.fill es) (g.fill es') := fun _ hne =>
  (Gap.find?_fill_of_ne hne hes).trans (Gap.find?_fill_of_ne hne hes').symm

def trimmedTags : List String :=
  ["video-url-template", "style", "limit", "include-shorts", "collapse-after", "collapse-after-rows",
    "concurrency", "timeout"]

def listTags : List String := ["channels", "playlists", "rumble-channels"]

/-- Apart from the title and the settings for notices, a tree is read through its trimmed texts and its
lists. -/
theorem ofTree_eq_map (directory : List String)
    (htexts : ∀ tag ∈ trimmedTags, trimmedText root tag = trimmedText root' tag)
    (hlists : ∀ tag ∈ listTags, listOf root tag = listOf root' tag) :
    ofTree directory root = (ofTree directory root').map fun s =>
      { s with title := titleOf root, logging := loggingOf directory root } := by
  have htimeout : timeoutOf root = timeoutOf root' := by
    rw [timeoutOf, timeoutOf, htexts "timeout" (by decide)]
  have hinteger : ∀ tag ∈ trimmedTags, ∀ default, integerOf root tag default = integerOf root' tag default := by
    intro tag htag default
    rw [integerOf, integerOf, htexts tag htag]
  have hflag : flagOf root "include-shorts" = flagOf root' "include-shorts" := by
    rw [flagOf, flagOf, htexts "include-shorts" (by decide)]
  rw [ofTree, ofTree, htimeout, hinteger "limit" (by decide), hinteger "collapse-after" (by decide),
    hinteger "collapse-after-rows" (by decide), hinteger "concurrency" (by decide), hflag,
    htexts "video-url-template" (by decide), htexts "style" (by decide), hlists "channels" (by decide),
    hlists "playlists" (by decide), hlists "rumble-channels" (by decide)]
  -- Both readings fail with the same fault, or have the same numbers.
  cases timeoutOf root' <;> cases integerOf root' "limit" 0 <;> cases integerOf root' "collapse-after" 0 <;>
    cases integerOf root' "collapse-after-rows" 0 <;> cases integerOf root' "concurrency" defaultConcurrency <;> rfl

theorem title_logging_of_ofTree (h : ofTree directory root = .ok s) :
    s.title = titleOf root ∧ s.logging = loggingOf directory root := by
  have hself : ofTree directory root = _ := ofTree_eq_map directory (fun _ _ => rfl) (fun _ _ => rfl)
  rw [h] at hself
  have hs : s = { s with title := titleOf root, logging := loggingOf directory root } := Except.ok.inj hself
  exact ⟨congrArg Settings.title hs, congrArg Settings.logging hs⟩

theorem map_ofTree_congr {f g : Settings → Settings}
    (h : ∀ s, s.title = titleOf root → s.logging = loggingOf directory root → f s = g s) :
    (ofTree directory root).map f = (ofTree directory root).map g := by
  cases hread : ofTree directory root with
  | error fault => rfl
  | ok s =>
    obtain ⟨htitle, hlogging⟩ := title_logging_of_ofTree hread
    exact congrArg Except.ok (h s htitle hlogging)

/-! ## 3. Trees that differ at one name -/

section

variable (h : AgreesBut tag root root')

include h

theorem AgreesBut.trimmedText_eq {other : String} (hne : other ≠ tag) :
    trimmedText root other = trimmedText root' other := by
  rw [trimmedText, trimmedText, Element.findText?, Element.findText?, h other hne]

theorem AgreesBut.ofTree_eq (hlist : tag ∉ listTags)
    (hsame : tag ∈ trimmedTags → trimmedText root tag = trimmedText root' tag) (directory : List String) :
    ofTree directory root = (ofTree directory root').map fun s =>
      { s with title := titleOf root, logging := loggingOf directory root } := by
  apply ofTree_eq_map
  · intro other hother
    by_cases hne : other = tag
    · subst hne
      exact hsame hother
    · exact h.trimmedText_eq hne
  · intro other hother
    rw [listOf, listOf, h other (by rintro rfl; exact hlist hother)]

theorem AgreesBut.titleOf_eq (hne : "title" ≠ tag) : titleOf root = titleOf root' := by
  rw [titleOf, titleOf, Element.findText?, Element.findText?, h "title" hne]

theorem AgreesBut.loggingOf_eq (hne : "logging" ≠ tag) (directory : List String) :
    loggingOf directory root = loggingOf directory root' := by
  rw [loggingOf, loggingOf, h "logging" hne]

end

theorem ofTree_of_trimmed (htag : tag ∈ trimmedTags) (h : AgreesBut tag root root')
    (hsame : trimmedText root tag = trimmedText root' tag) (directory : List String) :
    ofTree directory root = ofTree directory root' := by
  have hother : ∀ t ∈ trimmedTags, t ∉ listTags ∧ "title" ≠ t ∧ "logging" ≠ t := by decide
  obtain ⟨hlist, htitle, hlogging⟩ := hother tag htag
  rw [h.ofTree_eq hlist (fun _ => hsame), h.titleOf_eq htitle, h.loggingOf_eq hlogging]
  exact (ofTree_eq_map directory (fun _ _ => rfl) (fun _ _ => rfl)).symm

theorem ofTree_of_title (h : AgreesBut "title" root root') (directory : List String) :
    ofTree directory root = (ofTree directory root').map fun s => { s with title := titleOf root } := by
  rw [h.ofTree_eq (by decide) (fun hmem => absurd hmem (by decide)), h.loggingOf_eq (by decide)]
  apply map_ofTree_congr
  intro s _ hlogging
  rw [hlogging]

theorem ofTree_of_logging (h : AgreesBut "logging" root root') (directory : List String) :
    ofTree directory root =
      (ofTree directory root').map fun s => { s with logging := loggingOf directory root } := by
  rw [h.ofTree_eq (by decide) (fun hmem => absurd hmem (by decide)), h.titleOf_eq (by decide)]
  apply map_ofTree_congr
  intro s htitle _
  rw [htitle]

/-! ## 4. Blanks -/

section

variable {g inner : Gap} (hfree : g.IsFree tag) (he : e.isNamed tag = true)

theorem agreesBut_padded {front back : String} (he : e.isNamed tag = true) :
    AgreesBut tag (g.fill [padded front back e]) (g.fill [e]) :=
  .fill (by simpa [isNamed_padded] using he) (by simpa using he)

theorem agreesBut_nil (he : e.isNamed tag = true) : AgreesBut tag (g.fill [e]) (g.fill []) :=
  .fill (by simpa using he) (by simp)

include hfree he

theorem trimmedText_fill : trimmedText (g.fill [e]) tag = Text.trim (contentOf e) := by
  rw [trimmedText, Gap.findText?_fill_self hfree he, Option.getD_some]

theorem ofTree_padded (htag : tag ∈ trimmedTags) {front back : String} (hfront : Text.isBlankText front = true)
    (hback : Text.isBlankText back = true) :
    ofTree directory (g.fill [padded front back e]) = ofTree directory (g.fill [e]) := by
  refine ofTree_of_trimmed htag (agreesBut_padded he) ?_ directory
  rw [trimmedText_fill hfree (e := padded front back e) he, trimmedText_fill hfree he]
  exact Text.trim_padded hfront hback

theorem ofTree_blank (htag : tag ∈ trimmedTags) (hblank : Text.isBlankText (contentOf e) = true) :
    ofTree directory (g.fill [e]) = ofTree directory (g.fill []) := by
  refine ofTree_of_trimmed htag (agreesBut_nil he) ?_ directory
  rw [trimmedText_fill hfree he, trimmedText, Gap.findText?_fill_nil hfree, Text.trim_eq_empty_iff.mpr hblank]
  rfl

end

section

variable {g inner : Gap}

theorem titleOf_fill (hfree : g.IsFree "title") (he : e.isNamed "title" = true) :
    titleOf (g.fill [e]) = Text.trim (if (contentOf e).isEmpty then defaultTitle else contentOf e) := by
  rw [titleOf, Gap.findText?_fill_self hfree he, Text.orElse]

theorem ofTree_padded_title (hfree : g.IsFree "title") (he : e.isNamed "title" = true)
    (hsome : Text.isBlankText (contentOf e) = false) {front back : String}
    (hfront : Text.isBlankText front = true) (hback : Text.isBlankText back = true) :
    ofTree directory (g.fill [padded front back e]) = ofTree directory (g.fill [e]) := by
  have hcontent : contentOf (padded front back e) = front ++ contentOf e ++ back := rfl
  -- Something is left of the title when its blanks are cut off, so the default does not stand in for it.
  have hne : ∀ t : String, Text.trim t = Text.trim (contentOf e) → ¬ t.isEmpty = true := by
    intro t ht hempty
    rw [String.isEmpty_iff.mp hempty] at ht
    have hblank := Text.trim_eq_empty_iff.mp (ht.symm.trans (by decide))
    rw [hsome] at hblank
    cases hblank
  have htrim : Text.trim (front ++ contentOf e ++ back) = Text.trim (contentOf e) := Text.trim_padded hfront hback
  have htitle : titleOf (g.fill [padded front back e]) = titleOf (g.fill [e]) := by
    rw [titleOf_fill hfree (e := padded front back e) he, titleOf_fill hfree he, hcontent, if_neg (hne _ htrim),
      if_neg (hne _ rfl), htrim]
  have hself : ofTree directory (g.fill [e]) = _ := ofTree_of_title (fun _ _ => rfl) directory
  rw [ofTree_of_title (agreesBut_padded he), htitle, ← hself]

theorem ofTree_blank_title (hfree : g.IsFree "title") (he : e.isNamed "title" = true)
    (hblank : Text.isBlankText (contentOf e) = true) :
    ofTree directory (g.fill [e]) = (ofTree directory (g.fill [])).map fun s =>
      if contentOf e = "" then s else { s with title := "" } := by
  rw [ofTree_of_title (agreesBut_nil he), titleOf_fill hfree he]
  apply map_ofTree_congr
  intro s htitle _
  -- The default stands in for an empty text only, as it is looked for before blanks are cut off.
  by_cases hempty : contentOf e = ""
  · have hnone : titleOf (g.fill []) = Text.trim defaultTitle := by
      rw [titleOf, Gap.findText?_fill_nil hfree]
      rfl
    rw [if_pos hempty, if_pos (String.isEmpty_iff.mpr hempty), ← hnone, ← htitle]
  · rw [if_neg hempty, if_neg (fun h => hempty (String.isEmpty_iff.mp h)), Text.trim_eq_empty_iff.mpr hblank]

/-! ## 5. The settings for notices -/

theorem loggingOf_fill (hfree : g.IsFree "logging") (node : Element) (hnode : node.isNamed "logging" = true) :
    loggingOf directory (g.fill [node]) = ⟨(node.findText? "level").getD defaultLevel,
      if ((node.findText? "file").getD "").isEmpty then none
      else some (logFilePath directory ((node.findText? "file").getD ""))⟩ := by
  rw [loggingOf, Gap.find?_fill_self hfree hnode]

variable (hfree : g.IsFree "logging") (hinner : (inner.fill []).isNamed "logging" = true)

include hinner

/-- What stands below the element of the settings for notices counts for these settings only. -/
theorem ofTree_inner {f : LoggingSettings → LoggingSettings}
    (hf : loggingOf directory (g.fill [inner.fill [e]]) = f (loggingOf directory (g.fill [inner.fill []]))) :
    ofTree directory (g.fill [inner.fill [e]]) =
      (ofTree directory (g.fill [inner.fill []])).map fun s => { s with logging := f s.logging } := by
  have hagree : AgreesBut "logging" (g.fill [inner.fill [e]]) (g.fill [inner.fill []]) :=
    .fill (List.forall_mem_singleton.mpr hinner) (List.forall_mem_singleton.mpr hinner)
  rw [ofTree_of_logging hagree]
  apply map_ofTree_congr
  intro s _ hlogging
  rw [hlogging, hf]

include hfree

theorem ofTree_level (hlevel : inner.IsFree "level") (he : e.isNamed "level" = true) :
    ofTree directory (g.fill [inner.fill [e]]) = (ofTree directory (g.fill [inner.fill []])).map fun s =>
      { s with logging := { s.logging with level := contentOf e } } := by
  apply ofTree_inner (f := fun l => { l with level := contentOf e }) hinner
  rw [loggingOf_fill hfree (inner.fill [e]) hinner, loggingOf_fill hfree _ hinner,
    Gap.findText?_fill_self hlevel he, Gap.findText?_fill_of_ne (show "file" ≠ "level" by decide) (by simpa using he),
    Option.getD_some]

theorem ofTree_file (hfile : inner.IsFree "file") (he : e.isNamed "file" = true) :
    ofTree directory (g.fill [inner.fill [e]]) = (ofTree directory (g.fill [inner.fill []])).map fun s =>
      { s with logging := { s.logging with
        file := if contentOf e = "" then none else some (logFilePath directory (contentOf e)) } } := by
  apply ofTree_inner (f := fun l => { l with
    file := if contentOf e = "" then none else some (logFilePath directory (contentOf e)) }) hinner
  rw [loggingOf_fill hfree (inner.fill [e]) hinner, loggingOf_fill hfree _ hinner,
    Gap.findText?_fill_self hfile he, Gap.findText?_fill_of_ne (show "level" ≠ "file" by decide) (by simpa using he),
    Option.getD_some]
  simp only [String.isEmpty_iff]

end

/-- Blanks around the text of a setting of a single text, the only one of its name, change nothing, and the
setting is read as if it were left out where its text is blank. The title is the only one of them with a text of
its own where it is left out, and has it only where its text is empty: a title of blanks is empty. The log level
and the log file are the texts as they stand, blanks and all. -/
theorem blanks_count_in_title_and_logging_only (directory : List String) (g : Gap) :
    (∀ tag ∈ trimmedTags, g.IsFree tag → ∀ e : Element, e.isNamed tag = true →
      (∀ front back, Text.isBlankText front = true → Text.isBlankText back = true →
        ofTree directory (g.fill [padded front back e]) = ofTree directory (g.fill [e])) ∧
      (Text.isBlankText (contentOf e) = true → ofTree directory (g.fill [e]) = ofTree directory (g.fill []))) ∧
    (g.IsFree "title" → ∀ e : Element, e.isNamed "title" = true →
      (Text.isBlankText (contentOf e) = false → ∀ front back, Text.isBlankText front = true →
        Text.isBlankText back = true →
          ofTree directory (g.fill [padded front back e]) = ofTree directory (g.fill [e])) ∧
      (Text.isBlankText (contentOf e) = true → ofTree directory (g.fill [e]) =
        (ofTree directory (g.fill [])).map fun s => if contentOf e = "" then s else { s with title := "" })) ∧
    (g.IsFree "logging" → ∀ inner : Gap, (inner.fill []).isNamed "logging" = true →
      (inner.IsFree "level" → ∀ e : Element, e.isNamed "level" = true →
        ofTree directory (g.fill [inner.fill [e]]) = (ofTree directory (g.fill [inner.fill []])).map fun s =>
          { s with logging := { s.logging with level := contentOf e } }) ∧
      (inner.IsFree "file" → ∀ e : Element, e.isNamed "file" = true →
        ofTree directory (g.fill [inner.fill [e]]) = (ofTree directory (g.fill [inner.fill []])).map fun s =>
          { s with logging := { s.logging with
            file := if contentOf e = "" then none else some (logFilePath directory (contentOf e)) } })) := by
  refine ⟨?_, ?_, ?_⟩
  · intro tag htag hfree e he
    exact ⟨fun _ _ hfront hback => ofTree_padded hfree he htag hfront hback, ofTree_blank hfree he htag⟩
  · intro hfree e he
    exact ⟨fun hsome _ _ hfront hback => ofTree_padded_title hfree he hsome hfront hback,
      ofTree_blank_title hfree he⟩
  · intro hfree inner hinner
    exact ⟨fun hlevel _ he => ofTree_level hfree hinner hlevel he,
      fun hfile _ he => ofTree_file hfree hinner hfile he⟩

def sampleGap : Gap := ⟨⟨"", "widget", ""⟩, none, [leaf "limit" "3"], [leaf "colour" "red"]⟩

def sampleLogging : Gap := ⟨⟨"", "logging", ""⟩, none, [leaf "file" "/var/log/wall.log"], []⟩

theorem sampleGap_isFree : ∀ tag ∈ ["style", "timeout", "title", "logging"], sampleGap.IsFree tag := by
  unfold Gap.IsFree
  intro tag htag x hx
  simp only [sampleGap, List.cons_append, List.nil_append, List.mem_cons, List.not_mem_nil, or_false] at htag hx
  rcases hx with rfl | rfl <;> rcases htag with rfl | rfl | rfl | rfl <;> decide

/-- Padded and blank settings in the gaps. -/
theorem blanks_in_sampleGap :
    ofTree [] (sampleGap.fill [padded "\n  " "\n" (leaf "style" "grid-cards")]) =
      ofTree [] (sampleGap.fill [leaf "style" "grid-cards"]) ∧
    ofTree [] (sampleGap.fill [leaf "timeout" "\t"]) = ofTree [] (sampleGap.fill []) ∧
    ofTree [] (sampleGap.fill [padded " " "\n" (leaf "title" "Noon")]) =
      ofTree [] (sampleGap.fill [leaf "title" "Noon"]) ∧
    ofTree [] (sampleGap.fill [sampleLogging.fill [leaf "level" " DEBUG "]]) =
      (ofTree [] (sampleGap.fill [sampleLogging.fill []])).map fun s =>
        { s with logging := { s.logging with level := " DEBUG " } } := by
  obtain ⟨htexts, htitle, hlogging⟩ := blanks_count_in_title_and_logging_only [] sampleGap
  have hfree := sampleGap_isFree
  refine ⟨?_, ?_, ?_, ?_⟩
  · exact (htexts "style" (by decide) (hfree _ (by decide)) (leaf "style" "grid-cards") rfl).1 _ _ (by decide) (by decide)
  · exact (htexts "timeout" (by decide) (hfree _ (by decide)) (leaf "timeout" "\t") rfl).2 (by decide)
  · exact (htitle (hfree _ (by decide)) (leaf "title" "Noon") rfl).1 (by decide) _ _ (by decide) (by decide)
  · have hlevel : sampleLogging.IsFree "level" := by
      intro x hx
      obtain rfl := List.mem_singleton.mp hx
      decide
    exact (hlogging (hfree _ (by decide)) sampleLogging rfl).1 hlevel (leaf "level" " DEBUG ") rfl

def noticeTree (e : Element) : Element := plain "widget" none [plain "logging" none [e]]

/-- Blanks around the log level and behind the log file make other settings, an empty log level is not the one of
settings without it, and a title of blanks is not the one of settings without a title. -/
theorem blanks_make_other_settings :
    (ofTree [] (noticeTree (leaf "level" "DEBUG"))).isOk = true ∧
    ofTree [] (noticeTree (padded " " " " (leaf "level" "DEBUG"))) ≠ ofTree [] (noticeTree (leaf "level" "DEBUG")) ∧
    ofTree [] (noticeTree (padded "" "\n" (leaf "file" "/var/log/wall.log"))) ≠
      ofTree [] (noticeTree (leaf "file" "/var/log/wall.log")) ∧
    ofTree [] (noticeTree (leaf "level" "")) ≠ ofTree [] (plain "widget" none [plain "logging" none []]) ∧
    ofTree [] (plain "widget" none [leaf "title" " "]) ≠ ofTree [] (plain "widget" none []) := by
  refine ⟨rfl, ?_, ?_, ?_, ?_⟩
  · exact fun h => absurd (congrArg (fun r => r.toOption.map fun s => s.logging.level) h) (by decide)
  · exact fun h => absurd (congrArg (fun r => r.toOption.map fun s => s.logging.file) h) (by decide)
  · exact fun h => absurd (congrArg (fun r => r.toOption.map fun s => s.logging.level) h) (by decide)
  · exact fun h => absurd (congrArg (fun r => r.toOption.map fun s => s.title) h) (by decide)

end VideoWall.Settings
