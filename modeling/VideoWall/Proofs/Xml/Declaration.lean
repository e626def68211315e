import VideoWall.Proofs.Except
import VideoWall.Proofs.Text.Trimming
import VideoWall.Xml.Grammar

/-!
# What declarations are read from

The declarations that are read with an encoding are those of the grammar. Main statements:
`Declaration.namesEncoding_of_read` and `Declaration.read_of_namesEncoding`.
-/

namespace VideoWall.Xml

variable {c : Char} {cs rest space : List Char}

/-! ## 1. White space -/

theorem isSpace_iff : isSpace c = true ↔ c ∈ [' ', '\t', '\n', '\r'] := by
  unfold isSpace
  simp only [Bool.or_eq_true, beq_iff_eq, List.mem_cons, List.not_mem_nil, or_false, or_assoc]

theorem areSpaces_takeWhile (cs : List Char) : AreSpaces (cs.takeWhile isSpace) :=
  List.all_eq_true.mp List.all_takeWhile

theorem dropWhile_spaces (h : AreSpaces space) (hc : isSpace c = false) (cs : List Char) :
    (space ++ c :: cs).dropWhile isSpace = c :: cs := by
  rw [List.dropWhile_append_of_pos h, List.dropWhile_cons_of_neg (by rw [hc]; exact Bool.false_ne_true)]

theorem exists_spaces (cs : List Char) :
    ∃ space, AreSpaces space ∧ cs = space ++ cs.dropWhile isSpace :=
  ⟨_, areSpaces_takeWhile cs, List.takeWhile_append_dropWhile.symm⟩

theorem dropWhile_isSpace_eq_nil_iff : cs.dropWhile isSpace = [] ↔ AreSpaces cs := by
  constructor
  · intro h
    obtain ⟨space, hspace, hcs⟩ := exists_spaces cs
    rw [h, List.append_nil] at hcs
    exact hcs ▸ hspace
  · exact Text.dropWhile_eq_nil

theorem exists_spaces_cons (hc : isSpace c = true) (cs : List Char) :
    ∃ space, space ≠ [] ∧ AreSpaces space ∧ c :: cs = space ++ (c :: cs).dropWhile isSpace := by
  refine ⟨(c :: cs).takeWhile isSpace, ?_, areSpaces_takeWhile _, List.takeWhile_append_dropWhile.symm⟩
  rw [List.takeWhile_cons_of_pos hc]
  exact List.cons_ne_nil _ _

namespace Declaration

/-! ## 2. Values -/

variable {quote : Char} {value : List Char}

theorem not_isValueChar_of_quote (h : quote = '"' ∨ quote = '\'') : isValueChar quote = false := by
  rcases h with rfl | rfl <;> decide

theorem not_isSpace_of_quote (h : quote = '"' ∨ quote = '\'') : isSpace quote = false := by
  rcases h with rfl | rfl <;> decide

theorem readValue_value (hquote : quote = '"' ∨ quote = '\'') (hvalue : ∀ c ∈ value, isValueChar c = true)
    (rest : List Char) : readValue quote (value ++ quote :: rest) = .ok (value, rest) := by
  induction value with
  | nil => rw [List.nil_append, readValue, beq_self_eq_true, if_pos rfl]
  | cons c value ih =>
    obtain ⟨hc, hvalue⟩ := List.forall_mem_cons.mp hvalue
    have hne : ¬ (c == quote) = true := by
      intro heq
      rw [eq_of_beq heq, not_isValueChar_of_quote hquote] at hc
      cases hc
    rw [List.cons_append, readValue, if_neg hne, if_pos hc, ih hvalue]
    rfl

theorem eq_of_readValue (h : readValue quote cs = .ok (value, rest)) :
    (∀ c ∈ value, isValueChar c = true) ∧ cs = value ++ quote :: rest := by
  induction cs generalizing value with
  | nil => cases h
  | cons c cs ih =>
    rw [readValue] at h
    split at h
    next heq =>
      obtain ⟨rfl, rfl⟩ := Prod.mk.inj (Except.ok.inj h)
      rw [eq_of_beq heq]
      exact ⟨fun _ hc => absurd hc List.not_mem_nil, rfl⟩
    next =>
      split at h
      next hc =>
        obtain ⟨read, hread, h⟩ := exists_of_map h
        obtain ⟨rfl, rfl⟩ := Prod.mk.inj h
        obtain ⟨hvalue, rfl⟩ := ih hread
        exact ⟨List.forall_mem_cons.mpr ⟨hc, hvalue⟩, rfl⟩
      next => cases h

/-! ## 3. Fields -/

variable {name nameRest body : List Char} {f : Field}

theorem readQuoted_value (hspace : AreSpaces space) (hquote : quote = '"' ∨ quote = '\'')
    (hvalue : ∀ c ∈ value, isValueChar c = true) (name nameRest rest : List Char) :
    ∃ valueRest, readQuoted name nameRest (space ++ quote :: (value ++ quote :: rest)) =
      .ok (some ⟨name, nameRest, value, valueRest⟩, rest) := by
  have hq : (quote == '"' || quote == '\'') = true := by
    rcases hquote with rfl | rfl <;> rfl
  unfold readQuoted
  rw [dropWhile_spaces hspace (not_isSpace_of_quote hquote)]
  dsimp only
  rw [if_pos hq, readValue_value hquote hvalue]
  exact ⟨_, rfl⟩

theorem eq_of_readQuoted (h : readQuoted name nameRest cs = .ok (some f, rest)) :
    ∃ space quote, AreSpaces space ∧ (quote = '"' ∨ quote = '\'') ∧
      (∀ c ∈ f.value, isValueChar c = true) ∧ f.name = name ∧
      cs = space ++ quote :: (f.value ++ quote :: rest) := by
  obtain ⟨space, hspace, hcs⟩ := exists_spaces cs
  unfold readQuoted at h
  split at h
  next => cases h
  next q behind hrest =>
    split at h
    next hq =>
      have hquote : q = '"' ∨ q = '\'' := by simpa using hq
      obtain ⟨read, hread, h⟩ := exists_of_map h
      obtain ⟨hf, rfl⟩ := Prod.mk.inj h
      obtain rfl := Option.some.inj hf
      obtain ⟨hvalue, hbehind⟩ := eq_of_readValue hread
      refine ⟨space, q, hspace, hquote, hvalue, rfl, ?_⟩
      rw [hcs, hrest, hbehind]
    next => cases h

theorem not_isSpace_of_fieldName (h : isFieldNameChar c = true) : isSpace c = false := by
  unfold isFieldNameChar at h
  simpa using (Bool.and_eq_true_iff.mp h).2

theorem not_isFieldNameChar_of_isSpace (h : isSpace c = true) : isFieldNameChar c = false := by
  cases hc : isFieldNameChar c with
  | false => rfl
  | true => exact absurd h (by rw [not_isSpace_of_fieldName hc]; exact Bool.false_ne_true)

theorem cut_fieldName {before : List Char} (hname : ∀ c ∈ name, isFieldNameChar c = true)
    (hbefore : AreSpaces before) (rest : List Char) :
    (name ++ (before ++ '=' :: rest)).takeWhile isFieldNameChar = name ∧
      (name ++ (before ++ '=' :: rest)).dropWhile isFieldNameChar = before ++ '=' :: rest := by
  have hstop : ∃ d behind, before ++ '=' :: rest = d :: behind ∧ ¬ isFieldNameChar d = true := by
    cases before with
    | nil => exact ⟨'=', rest, rfl, by decide⟩
    | cons d before =>
      have hd := not_isFieldNameChar_of_isSpace (hbefore d List.mem_cons_self)
      exact ⟨d, before ++ '=' :: rest, rfl, by rw [hd]; exact Bool.false_ne_true⟩
  obtain ⟨d, behind, hcut, hd⟩ := hstop
  rw [hcut, List.takeWhile_append_of_pos hname, List.dropWhile_append_of_pos hname,
    List.takeWhile_cons_of_neg hd, List.dropWhile_cons_of_neg hd, List.append_nil]
  exact ⟨rfl, rfl⟩

theorem Writes.append_eq {field : List Char} (h : Writes name value field) (rest : List Char) :
    ∃ space before behind quote, space ≠ [] ∧ AreSpaces space ∧ AreSpaces before ∧ AreSpaces behind ∧
      (quote = '"' ∨ quote = '\'') ∧ (∀ c ∈ value, isValueChar c = true) ∧
      field ++ rest =
        space ++ (name ++ (before ++ '=' :: (behind ++ quote :: (value ++ quote :: rest)))) := by
  obtain ⟨hne, hspace, hbefore, hbehind, hquote, hvalue⟩ := h
  refine ⟨_, _, _, _, hne, hspace, hbefore, hbehind, hquote, hvalue, ?_⟩
  simp only [List.append_assoc, List.cons_append, List.nil_append]

theorem readField_writes {field : List Char} (h : Writes name value field) (hname : name ≠ [])
    (hchars : ∀ c ∈ name, isFieldNameChar c = true) (rest : List Char) :
    ∃ f, readField (field ++ rest) = .ok (some f, rest) ∧ f.name = name ∧ f.value = value := by
  obtain ⟨space, before, behind, quote, hne, hspace, hbefore, hbehind, hquote, hvalue, hfield⟩ :=
    h.append_eq rest
  rw [hfield]
  obtain ⟨htake, hdrop⟩ := cut_fieldName hchars hbefore (behind ++ quote :: (value ++ quote :: rest))
  generalize hstart : name ++ (before ++ '=' :: (behind ++ quote :: (value ++ quote :: rest))) = start
    at htake hdrop
  obtain ⟨valueRest, hread⟩ := readQuoted_value hbehind hquote hvalue name start rest
  obtain ⟨c, space, rfl⟩ := List.exists_cons_of_ne_nil hne
  obtain ⟨n, name', rfl⟩ := List.exists_cons_of_ne_nil hname
  have hskip : (c :: space ++ start).dropWhile isSpace = start := by
    rw [← hstart]
    exact dropWhile_spaces hspace (not_isSpace_of_fieldName (hchars n List.mem_cons_self)) _
  have hstart' : start.isEmpty = false := by
    rw [← hstart]
    rfl
  have hc : isSpace c = true := hspace c List.mem_cons_self
  refine ⟨⟨n :: name', start, value, valueRest⟩, ?_, rfl, rfl⟩
  rw [List.cons_append] at hskip ⊢
  simp only [readField, hc, hskip, hstart', htake, Bool.not_true, Bool.false_eq_true, if_false]
  -- The reader goes another way if blanks stand in front of the sign.
  cases before with
  | nil =>
    rw [hdrop]
    exact hread
  | cons d before =>
    rw [hdrop]
    have hd : isSpace d = true := hbefore d List.mem_cons_self
    have hspaces : (before ++ '=' :: (behind ++ quote :: (value ++ quote :: rest))).dropWhile isSpace = _ :=
      dropWhile_spaces (fun c hc => hbefore c (List.mem_cons_of_mem _ hc)) (by decide) _
    have hne : d ≠ '=' := by
      rintro rfl
      cases hd
    simp only [List.cons_append, hd, hspaces, if_true]
    exact hread

theorem exists_writes_of_readQuoted {before : List Char} (hne : space ≠ []) (hspace : AreSpaces space)
    (hbefore : AreSpaces before) (h : readQuoted name nameRest cs = .ok (some f, rest)) :
    ∃ field, Writes f.name f.value field ∧ space ++ (name ++ (before ++ '=' :: cs)) = field ++ rest := by
  obtain ⟨behind, quote, hbehind, hquote, hvalue, rfl, rfl⟩ := eq_of_readQuoted h
  refine ⟨_, .field hne hspace hbefore hbehind hquote hvalue, ?_⟩
  simp only [List.append_assoc, List.cons_append, List.nil_append]

theorem exists_writes_of_readField (h : readField cs = .ok (some f, rest)) :
    ∃ field, Writes f.name f.value field ∧ cs = field ++ rest := by
  unfold readField at h
  split at h
  next => cases h
  next c cs =>
    dsimp only at h
    split at h
    next => cases h
    next hc =>
      have hc : isSpace c = true := by simpa using hc
      obtain ⟨space, hne, hspace, hcs⟩ := exists_spaces_cons hc cs
      generalize (c :: cs).dropWhile isSpace = start at h hcs
      have hstart := List.takeWhile_append_dropWhile (p := isFieldNameChar) (l := start)
      rw [hcs]
      split at h
      next => cases h
      next =>
        split at h
        next => cases h
        next behind hdrop =>
          split at h
          next => cases h
          next =>
            -- The sign stands right behind the name.
            have hnone : AreSpaces [] := fun _ hd => absurd hd List.not_mem_nil
            rw [hdrop] at hstart
            rw [← hstart]
            exact exists_writes_of_readQuoted hne hspace hnone h
        next d behind _ hdrop =>
          split at h
          next hd =>
            -- Blanks stand between the name and the sign.
            obtain ⟨before, hbefore, hbehind⟩ := exists_spaces behind
            split at h
            next rest' hrest' =>
              have hbefore : AreSpaces (d :: before) := List.forall_mem_cons.mpr ⟨hd, hbefore⟩
              rw [hrest'] at hbehind
              rw [hdrop, hbehind] at hstart
              rw [← hstart]
              exact exists_writes_of_readQuoted hne hspace hbefore h
            next => cases h
          next => cases h

theorem readQuoted_ne_none : readQuoted name nameRest cs ≠ .ok (none, rest) := by
  unfold readQuoted
  split
  next => nofun
  next q behind _ =>
    split
    next =>
      cases readValue q behind <;> nofun
    next => nofun

theorem readField_spaces (h : AreSpaces cs) : readField cs = .ok (none, cs) := by
  cases cs with
  | nil => rfl
  | cons c cs =>
    have hc : isSpace c = true := h c List.mem_cons_self
    have hstart : (c :: cs).dropWhile isSpace = [] := dropWhile_isSpace_eq_nil_iff.mpr h
    simp only [readField, hc, hstart, Bool.not_true, Bool.false_eq_true, if_false, List.isEmpty_nil, if_true]

theorem areSpaces_of_readField (h : readField cs = .ok (none, rest)) : AreSpaces cs := by
  unfold readField at h
  split at h
  next => exact fun _ hc => absurd hc List.not_mem_nil
  next c cs =>
    dsimp only at h
    split at h
    next => cases h
    next =>
      split at h
      next hstart => exact dropWhile_isSpace_eq_nil_iff.mp (List.isEmpty_iff.mp hstart)
      next =>
        split at h
        next => cases h
        next =>
          split at h
          next => cases h
          next => exact absurd h readQuoted_ne_none
        next =>
          split at h
          next =>
            split at h
            next => exact absurd h readQuoted_ne_none
            next => cases h
          next => cases h

/-! ## 4. Declarations -/

variable {encoding : Option (List Char × List Char)} {d : Declaration}

theorem eq_toList_of_ofList {s : String} (h : String.ofList cs = s) : cs = s.toList := by
  rw [← h, String.toList_ofList]

theorem readStandalone_closes (h : Closes cs) (encoding : Option (List Char × List Char)) :
    ∃ field rest d, readField cs = .ok (field, rest) ∧ readStandalone encoding field rest = .ok d ∧
      d.encoding = encoding := by
  cases h with
  | bare hspace => exact ⟨none, _, _, readField_spaces hspace, rfl, rfl⟩
  | standalone hvalue hwrites hspace =>
    rename_i value field space
    obtain ⟨f, hread, hname, rfl⟩ := readField_writes hwrites (by decide) (List.all_eq_true.mp rfl) space
    have hname : (String.ofList f.name != "standalone") = false := by
      rw [hname]
      rfl
    have hyes : (String.ofList f.value != "yes" && String.ofList f.value != "no") = false := by
      rcases hvalue with hvalue | hvalue <;> rw [hvalue] <;> rfl
    have hnil : space.dropWhile isSpace = [] := dropWhile_isSpace_eq_nil_iff.mpr hspace
    refine ⟨some f, space, ⟨encoding, String.ofList f.value == "yes"⟩, hread, ?_, rfl⟩
    simp only [readStandalone, hname, hyes, hnil, Bool.false_eq_true, if_false, List.isEmpty_nil, if_true]

theorem closes_of_readStandalone {field : Option Field} (hfield : readField cs = .ok (field, rest))
    (h : readStandalone encoding field rest = .ok d) : Closes cs ∧ d.encoding = encoding := by
  cases field with
  | none =>
    obtain rfl := Except.ok.inj h
    exact ⟨.bare (areSpaces_of_readField hfield), rfl⟩
  | some f =>
    obtain ⟨field, hwrites, rfl⟩ := exists_writes_of_readField hfield
    simp only [readStandalone] at h
    split at h
    next => cases h
    next hname =>
      have hname : String.ofList f.name = "standalone" := by simpa using hname
      have hname := eq_toList_of_ofList hname
      split at h
      next => cases h
      next hvalue =>
        have hvalue : String.ofList f.value = "yes" ∨ String.ofList f.value = "no" := by
          simpa [Decidable.imp_iff_not_or] using hvalue
        have hvalue := hvalue.imp eq_toList_of_ofList eq_toList_of_ofList
        split at h
        next hspace =>
          obtain rfl := Except.ok.inj h
          have hspace := dropWhile_isSpace_eq_nil_iff.mp (List.isEmpty_iff.mp hspace)
          exact ⟨.standalone hvalue (hname ▸ hwrites) hspace, rfl⟩
        next => cases h

theorem namesEncoding_of_read {nameRest : List Char} (h : read cs = .ok d)
    (hd : d.encoding = some (name, nameRest)) : NamesEncoding name cs := by
  obtain ⟨⟨first, behind⟩, hfirst, hbody⟩ := exists_of_bind h
  cases first with
  | none => cases hbody
  | some version =>
    dsimp only at hbody
    split at hbody
    next => cases hbody
    next hversion =>
      have hversion : String.ofList version.name = "version" := by simpa using hversion
      have hversion := eq_toList_of_ofList hversion
      obtain ⟨⟨second, rest⟩, hsecond, hbehind⟩ := exists_of_bind hbody
      cases second with
      | none =>
        obtain rfl := Except.ok.inj hbehind
        cases hd
      | some f =>
        dsimp only at hbehind
        split at hbehind
        next hencoding =>
          have hencoding := eq_toList_of_ofList (eq_of_beq hencoding)
          split at hbehind
          next hhead =>
            obtain ⟨⟨third, last⟩, hthird, hlast⟩ := exists_of_bind hbehind
            obtain ⟨hcloses, hshown⟩ := closes_of_readStandalone hthird hlast
            rw [hd] at hshown
            obtain ⟨rfl, -⟩ := Prod.mk.inj (Option.some.inj hshown)
            obtain ⟨field, hfield, rfl⟩ := exists_writes_of_readField hfirst
            obtain ⟨field', hfield', rfl⟩ := exists_writes_of_readField hsecond
            exact .behind (hversion ▸ hfield) (hencoding ▸ hfield') hhead hcloses
          next => cases hbehind
        next =>
          -- The second field is the last one then, and names no encoding.
          obtain ⟨-, hshown⟩ := closes_of_readStandalone hsecond hbehind
          rw [hd] at hshown
          cases hshown

theorem read_of_namesEncoding (h : NamesEncoding name cs) :
    ∃ d nameRest, read cs = .ok d ∧ d.encoding = some (name, nameRest) := by
  obtain ⟨hversion, hencoding, hhead, hcloses⟩ := h
  rename_i version field field' rest
  obtain ⟨f, hread, hname, -⟩ :=
    readField_writes hversion (by decide) (List.all_eq_true.mp rfl) (field' ++ rest)
  obtain ⟨f', hread', hname', rfl⟩ :=
    readField_writes hencoding (by decide) (List.all_eq_true.mp rfl) rest
  obtain ⟨last, behind, d, hlast, hd, hshown⟩ :=
    readStandalone_closes hcloses (some (f'.value, f'.valueRest))
  refine ⟨d, f'.valueRest, ?_, hshown⟩
  have hversion : (String.ofList f.name != "version") = false := by
    rw [hname]
    rfl
  have hencoding : (String.ofList f'.name == "encoding") = true := by
    rw [hname']
    rfl
  unfold read
  rw [hread]
  show (if _ then _ else _) = _
  rw [hversion, if_neg Bool.false_ne_true, hread']
  show (if _ then _ else _) = _
  rw [hencoding, if_pos rfl, if_pos hhead, hlast]
  exact hd

end Declaration

end VideoWall.Xml
