import VideoWall.Proofs.Text.Replacing
import VideoWall.VideoLink

/-!
# Filled templates

A replacement can make a new occurrence of its pattern, across the seam between the text and what is put
into it. If the pattern is framed by two characters, such an occurrence begins and ends in the text, so that
a substitute without these characters lies in it as a whole. Hence no mark is left in a template that is
filled with an identifier, unless the identifier is a piece of what stands between the braces of the mark.
Main statement: `no_mark_survives_iff`.
-/

namespace VideoWall

namespace Text

/-! ## 1. Seams -/

variable {before out sub inner cs : List Char} {l r : Char}

/-- An occurrence that ends behind `sub` ends in what follows it, and has all of `sub` in it if it begins
before. -/
theorem infix_inner_of_crossing {xs ys : List Char} (hr : r ∉ sub) (hne : xs ≠ [])
    (hframed : l :: inner ++ [r] = xs ++ ys) (hys : ys ≠ []) (hstart : ys <+: sub ++ out) :
    sub <:+: inner := by
  obtain ⟨x, xs, rfl⟩ := List.exists_cons_of_ne_nil hne
  obtain rfl | ⟨ys, y, rfl⟩ := List.eq_nil_or_concat ys
  · exact absurd rfl hys
  rw [List.concat_eq_append] at hframed hstart
  rw [List.cons_append, List.cons_append, List.cons.injEq, ← List.append_assoc,
    List.append_singleton_inj] at hframed
  obtain ⟨-, rfl, rfl⟩ := hframed
  have hlast : r ∈ ys ++ [r] := List.mem_append_right ys (List.mem_singleton_self r)
  rcases List.prefix_or_prefix_of_prefix hstart (List.prefix_append sub out) with h | ⟨zs, hzs⟩
  · -- The last character would be one of `sub`.
    exact absurd (h.subset hlast) hr
  · obtain rfl | ⟨zs, z, rfl⟩ := List.eq_nil_or_concat zs
    · rw [List.append_nil] at hzs
      rw [hzs] at hr
      exact absurd hlast hr
    · rw [List.concat_eq_append, ← List.append_assoc, List.append_singleton_inj] at hzs
      rw [← hzs.1, ← List.append_assoc]
      exact List.infix_append xs sub zs

/-- A framed text that occurs neither before a substitute nor behind it does not occur across the seams
either. -/
theorem framed_absent_append (hl : l ∉ sub) (hr : r ∉ sub) (hsub : ¬ sub <:+: inner)
    (hbefore : ¬ l :: inner ++ [r] <:+: before) (hout : ¬ l :: inner ++ [r] <:+: out) :
    ¬ l :: inner ++ [r] <:+: before ++ (sub ++ out) := by
  have hbehind : ¬ l :: inner ++ [r] <:+: sub ++ out := by
    rw [List.infix_append_iff_ne_nil]
    rintro (h | h | ⟨xs, ys, hxs, -, hframed, hsuffix, -⟩)
    · exact hl (h.subset List.mem_cons_self)
    · exact hout h
    · -- It would begin in the substitute.
      obtain ⟨x, xs, rfl⟩ := List.exists_cons_of_ne_nil hxs
      obtain ⟨rfl, -⟩ := List.cons.inj hframed
      exact hl (hsuffix.subset List.mem_cons_self)
  rw [List.infix_append_iff_ne_nil]
  rintro (h | h | ⟨xs, ys, hxs, hys, hframed, -, hstart⟩)
  · exact hbefore h
  · exact hbehind h
  · exact hsub (infix_inner_of_crossing hr hxs hframed hys hstart)

theorem Replaces.framed_absent (h : Replaces (l :: inner ++ [r]) sub cs out) (hl : l ∉ sub) (hr : r ∉ sub)
    (hsub : ¬ sub <:+: inner) : ¬ l :: inner ++ [r] <:+: out := by
  induction h with
  | none h => exact h
  | @first before behind out hfirst _ ih =>
    have hbefore : ¬ l :: inner ++ [r] <:+: before :=
      fun h => hfirst (h.trans (List.prefix_append _ _).isInfix)
    rw [List.append_assoc]
    exact framed_absent_append hl hr hsub hbefore ih

/-- A substitute that is a piece of a framed pattern completes the pattern in some text. -/
theorem exists_framed_survives (hne : l ≠ r) (hl : l ∉ inner) (hr : r ∉ inner) (hsub : sub <:+: inner) :
    ∃ cs, cs ≠ [] ∧ replaceAll (l :: inner ++ [r]) sub cs = l :: inner ++ [r] := by
  obtain ⟨a, b, rfl⟩ := hsub
  simp only [List.mem_append, not_or] at hl hr
  refine ⟨l :: a ++ (l :: (a ++ sub ++ b) ++ [r]) ++ (b ++ [r]), by simp, ?_⟩
  -- The pattern ends with a character that comes first at the end of its first occurrence.
  have hbefore : ¬ l :: (a ++ sub ++ b) ++ [r] <:+:
      l :: a ++ (l :: (a ++ sub ++ b) ++ [r]).dropLast := by
    intro h
    have hmem := h.subset (List.mem_append_right _ (List.mem_singleton_self r))
    rw [List.dropLast_concat] at hmem
    simp only [List.mem_append, List.mem_cons] at hmem
    grind
  have hbehind : ¬ l :: (a ++ sub ++ b) ++ [r] <:+: b ++ [r] := by
    intro h
    have hmem := h.subset List.mem_cons_self
    rw [List.mem_append, List.mem_singleton] at hmem
    exact hmem.elim hl.2 hne
  rw [replaceAll_append (by simp) hbefore, replaceAll_of_absent hbehind]
  simp

end Text

namespace VideoLink

/-! ## 2. Marks in links -/

theorem viaTemplate_of_id {link param : String} {v : List Char} (hid : id link.toList param.toList = .ok v)
    {template : String} (htemplate : template ≠ "") :
    viaTemplate link template param = pure (String.ofList (fill template.toList v)) := by
  rw [viaTemplate, if_neg (by simpa using htemplate), through, hid]
  rfl

theorem mark_eq : mark = '\x7b' :: "VIDEO-ID".toList ++ ['\x7d'] := by decide

/-- Whatever a template is, no mark stands in a link through it, if the identifier has no brace in it and is
no piece of what stands between the braces of a mark. Of the identifiers without a brace only these have this
property; all with more than eight characters do, and an empty one does not. -/
theorem no_mark_survives_iff (link param : String) (v : List Char)
    (hid : id link.toList param.toList = .ok v) (hopen : '\x7b' ∉ v) (hclose : '\x7d' ∉ v) :
    ((∀ template : String, template ≠ "" →
        ∃ url, viaTemplate link template param = pure url ∧ ¬ mark <:+: url.toList) ↔
      ¬ v <:+: "VIDEO-ID".toList) ∧
    (8 < v.length → ¬ v <:+: "VIDEO-ID".toList) ∧ (¬ v <:+: "VIDEO-ID".toList → v ≠ []) := by
  refine ⟨⟨?_, ?_⟩, ?_, ?_⟩
  · intro hall hpiece
    obtain ⟨cs, hcs, hsurvives⟩ := Text.exists_framed_survives (l := '\x7b') (r := '\x7d') (by decide)
      (by decide) (by decide) hpiece
    obtain ⟨url, hurl, habsent⟩ := hall (String.ofList cs) (by simpa using hcs)
    rw [viaTemplate_of_id hid (by simpa using hcs)] at hurl
    obtain rfl : String.ofList (fill (String.ofList cs).toList v) = url := congrArg Logged.value hurl
    have hmark : (String.ofList (fill (String.ofList cs).toList v)).toList = mark := by
      rw [String.toList_ofList, String.toList_ofList, fill, mark_eq, hsurvives]
    rw [hmark] at habsent
    exact habsent List.infix_rfl
  · intro hpiece template htemplate
    refine ⟨_, viaTemplate_of_id hid htemplate, ?_⟩
    have hreplaces : Text.Replaces mark v template.toList (fill template.toList v) :=
      (Text.replaces_iff (by decide)).mpr rfl
    rw [mark_eq] at hreplaces
    rw [String.toList_ofList, mark_eq]
    exact hreplaces.framed_absent hopen hclose hpiece
  · intro hlong hpiece
    have hlength : v.length ≤ 8 := hpiece.length_le
    omega
  · rintro hpiece rfl
    exact hpiece List.nil_infix

/-- A template whose fragments close to a mark around some identifiers. -/
def nestedTemplate : String := "\x7bVI\x7bVIDEO-ID\x7d-ID\x7d\x7b\x7bVIDEO-ID\x7d\x7d"

/-- Around the identifier of a video it does not; around a piece of the mark some template does. -/
theorem nested_template_keeps_no_mark :
    id "https://www.youtube.com/watch?v=dQw4w9WgXcQ".toList idParameter.toList = .ok "dQw4w9WgXcQ".toList ∧
    (∃ url, viaTemplate "https://www.youtube.com/watch?v=dQw4w9WgXcQ" nestedTemplate idParameter = pure url ∧
      ¬ mark <:+: url.toList) ∧
    id "https://www.youtube.com/watch?v=DEO".toList idParameter.toList = .ok "DEO".toList ∧
    ¬ ∀ template : String, template ≠ "" →
      ∃ url, viaTemplate "https://www.youtube.com/watch?v=DEO" template idParameter = pure url ∧
        ¬ mark <:+: url.toList := by
  have hid : id "https://www.youtube.com/watch?v=dQw4w9WgXcQ".toList idParameter.toList =
      .ok "dQw4w9WgXcQ".toList := by rfl
  have hpiece : id "https://www.youtube.com/watch?v=DEO".toList idParameter.toList = .ok "DEO".toList := by
    rfl
  obtain ⟨hall, hlong, -⟩ := no_mark_survives_iff _ _ _ hid (by decide) (by decide)
  obtain ⟨hsome, -⟩ := no_mark_survives_iff _ _ _ hpiece (by decide) (by decide)
  refine ⟨hid, ?_, hpiece, ?_⟩
  · exact hall.mpr (hlong (by decide)) nestedTemplate (by decide)
  · intro h
    exact hsome.mp h ⟨"VI".toList, "-ID".toList, rfl⟩

end VideoLink

end VideoWall
