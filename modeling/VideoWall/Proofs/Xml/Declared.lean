import VideoWall.Proofs.Xml.Declaration
import VideoWall.Xml.Reader

/-!
# Declared encodings

A document is given up for the name of its encoding exactly if it declares one that is of no use. Main
statement: `readDocument_eq_encodingName_iff`.
-/

namespace VideoWall.Xml

variable {c : Char} {cs rest body name value : List Char}

/-! ## 1. The characters of a declaration -/

/-- Whether a character may stand in an instruction and does not end it. -/
def IsInner (c : Char) : Prop := isXmlChar c = true ∧ c ≠ '?'

theorem isInner_of_isSpace (h : isSpace c = true) : IsInner c := by
  have hall : [' ', '\t', '\n', '\r'].all (fun c => isXmlChar c && c != '?') = true := by decide
  have hc := List.all_eq_true.mp hall c (isSpace_iff.mp h)
  simpa [IsInner] using hc

theorem isInner_of_isValueChar (h : Declaration.isValueChar c = true) : IsInner c := by
  unfold Declaration.isValueChar Text.isAsciiLetter Text.isAsciiDigit at h
  simp only [Bool.or_eq_true, Bool.and_eq_true, decide_eq_true_eq, beq_iff_eq] at h
  have hmark : ('?' : Char).toNat = 0x3F := rfl
  have hrange : 0x20 ≤ c.toNat ∧ c.toNat ≤ 0x7A ∧ c.toNat ≠ 0x3F := by
    rcases h with (((h | h) | rfl) | rfl) | rfl
    · omega
    · omega
    · decide
    · decide
    · decide
  refine ⟨?_, ?_⟩
  · unfold isXmlChar
    simp only [Bool.or_eq_true, Bool.and_eq_true, decide_eq_true_eq, bne_iff_ne, beq_iff_eq]
    omega
  · rintro rfl
    omega

/-- Whether a text is what may stand behind the target of an instruction: nothing, or white space first and
then no end of the instruction. -/
def IsBody (cs : List Char) : Prop := (∀ c ∈ cs, IsInner c) ∧ cs.head?.all isSpace = true

theorem Declaration.Writes.isBody {field : List Char} (h : Declaration.Writes name value field)
    (hname : ∀ c ∈ name, IsInner c) : IsBody field ∧ field ≠ [] := by
  obtain ⟨hne, hspace, hbefore, hbehind, hquote, hvalue⟩ := h
  rename_i space before behind quote
  have hquote : IsInner quote := by rcases hquote with rfl | rfl <;> exact ⟨by decide, by decide⟩
  have hequals : IsInner '=' := ⟨by decide, by decide⟩
  obtain ⟨c, space, rfl⟩ := List.exists_cons_of_ne_nil hne
  refine ⟨⟨?_, hspace c List.mem_cons_self⟩, List.cons_ne_nil _ _⟩
  intro d hd
  simp only [List.mem_append, List.mem_cons (a := d), List.not_mem_nil, or_false] at hd
  rcases hd with hd | hd | hd | rfl | hd | rfl | hd | rfl
  · exact isInner_of_isSpace (hspace d (List.mem_cons.mpr hd))
  · exact hname d hd
  · exact isInner_of_isSpace (hbefore d hd)
  · exact hequals
  · exact isInner_of_isSpace (hbehind d hd)
  · exact hquote
  · exact isInner_of_isValueChar (hvalue d hd)
  · exact hquote

theorem IsBody.append {cs ds : List Char} (h : IsBody cs) (h' : IsBody ds) : IsBody (cs ++ ds) := by
  refine ⟨fun c hc => (List.mem_append.mp hc).elim (h.1 c) (h'.1 c), ?_⟩
  cases cs with
  | nil => exact h'.2
  | cons c cs => exact h.2

theorem isBody_of_namesEncoding (h : Declaration.NamesEncoding name body) :
    IsBody body ∧ body ≠ [] := by
  have hspaces : ∀ {space}, AreSpaces space → IsBody space := fun {space} hspace =>
    ⟨fun c hc => isInner_of_isSpace (hspace c hc), by
      cases space with
      | nil => rfl
      | cons c space => exact hspace c List.mem_cons_self⟩
  have hletters : ∀ {word : String}, word.toList.all Declaration.isValueChar = true →
      ∀ c ∈ word.toList, IsInner c :=
    fun hword c hc => isInner_of_isValueChar (List.all_eq_true.mp hword c hc)
  obtain ⟨hversion, hencoding, -, hcloses⟩ := h
  rename_i version field field' rest
  obtain ⟨hfield, hne⟩ := hversion.isBody (hletters rfl)
  obtain ⟨hfield', -⟩ := hencoding.isBody (hletters rfl)
  have hrest : IsBody rest := by
    cases hcloses with
    | bare hspace => exact hspaces hspace
    | standalone _ hwrites hspace =>
      exact (hwrites.isBody (hletters rfl)).1.append (hspaces hspace)
  refine ⟨hfield.append (hfield'.append hrest), ?_⟩
  intro hnil
  exact hne (List.append_eq_nil_iff.mp hnil).1

/-! ## 2. Instructions -/

theorem scanInstructionBody_append (h : ∀ c ∈ body, IsInner c) (rest : List Char) :
    scanInstructionBody (body ++ '?' :: '>' :: rest) = .ok (body, rest) := by
  induction body with
  | nil => rfl
  | cons c body ih =>
    obtain ⟨⟨hchar, hne⟩, hbody⟩ := List.forall_mem_cons.mp h
    have hstep : scanInstructionBody (c :: (body ++ '?' :: '>' :: rest)) =
        (scanInstructionBody (body ++ '?' :: '>' :: rest)).map fun read => (c :: read.1, read.2) := by
      rw [scanInstructionBody, if_pos hchar]
      · exact fun hc => absurd hc hne
      · exact fun _ hc => absurd hc hne
    rw [List.cons_append, hstep, ih hbody]
    rfl

theorem eq_of_scanInstructionBody (h : scanInstructionBody cs = .ok (body, rest)) :
    cs = body ++ '?' :: '>' :: rest := by
  induction cs using scanInstructionBody.induct generalizing body with
  | case1 => cases h
  | case2 => cases h
  | case3 rest' =>
    obtain ⟨rfl, rfl⟩ := Prod.mk.inj (Except.ok.inj h)
    rfl
  | case4 c cs hend hclose hchar ih =>
    rw [scanInstructionBody, if_pos hchar] at h
    · obtain ⟨read, hread, hbody⟩ := exists_of_map h
      obtain ⟨rfl, rfl⟩ := Prod.mk.inj hbody
      rw [ih hread]
      rfl
    · exact hend
    · exact hclose
  | case5 c cs hend hclose hchar =>
    rw [scanInstructionBody, if_neg hchar] at h
    · cases h
    · exact hend
    · exact hclose

theorem not_isNameChar_of_isSpace (h : isSpace c = true) : ¬ isNameChar c = true := by
  have hall : [' ', '\t', '\n', '\r'].all (fun c => !isNameChar c) = true := by decide
  have hc := List.all_eq_true.mp hall c (isSpace_iff.mp h)
  simpa using hc

theorem takeName_xml (hc : isSpace c = true) (cs : List Char) :
    takeName ('x' :: 'm' :: 'l' :: c :: cs) = (['x', 'm', 'l'], c :: cs) := by
  have hname : ∀ d ∈ ['x', 'm', 'l'], isNameChar d = true := List.all_eq_true.mp rfl
  have hstop := not_isNameChar_of_isSpace hc
  show (List.takeWhile isNameChar (['x', 'm', 'l'] ++ c :: cs),
    List.dropWhile isNameChar (['x', 'm', 'l'] ++ c :: cs)) = _
  rw [List.takeWhile_append_of_pos hname, List.dropWhile_append_of_pos hname,
    List.takeWhile_cons_of_neg hstop, List.dropWhile_cons_of_neg hstop, List.append_nil]

theorem scanInstruction_declaration (hbody : IsBody body) (hne : body ≠ []) (rest : List Char) :
    scanInstruction ('x' :: 'm' :: 'l' :: (body ++ '?' :: '>' :: rest)) = .ok (.declaration body, rest) := by
  obtain ⟨c, body, rfl⟩ := List.exists_cons_of_ne_nil hne
  have hc : isSpace c = true := hbody.2
  have hinner := fun d hd => hbody.1 d (List.mem_cons_of_mem _ hd)
  rw [List.cons_append]
  have hstart : (!isNameStart 'x') = false := rfl
  have hreserved : (['x', 'm', 'l'].map Text.asciiLower == ['x', 'm', 'l'] &&
      !(['x', 'm', 'l'] == ['x', 'm', 'l'])) = false := rfl
  simp only [scanInstruction, hstart, takeName_xml hc, hreserved, hc, Bool.false_eq_true, if_false, if_true,
    scanInstructionBody_append hinner]
  rfl

theorem eq_of_kind {target inner : List Char}
    (h : (if target == ['x', 'm', 'l'] then Instruction.declaration inner else .other) = .declaration body) :
    target = ['x', 'm', 'l'] ∧ inner = body := by
  split at h
  next htarget => exact ⟨eq_of_beq htarget, Instruction.declaration.inj h⟩
  next => cases h

theorem eq_of_scanInstruction (h : scanInstruction cs = .ok (.declaration body, rest)) :
    cs = 'x' :: 'm' :: 'l' :: (body ++ '?' :: '>' :: rest) := by
  cases cs with
  | nil => cases h
  | cons c cs =>
    have hcut : (takeName (c :: cs)).1 ++ (takeName (c :: cs)).2 = c :: cs := List.takeWhile_append_dropWhile
    rw [← hcut]
    -- Behind the name there is a blank and a body, or at once the end.
    unfold scanInstruction at h
    dsimp only at h
    split at h
    next => cases h
    next =>
      split at h
      next => cases h
      next d behind hbehind =>
        split at h
        next =>
          split at h
          next => cases h
          next =>
            obtain ⟨⟨inner, rest'⟩, hinner, hread⟩ := exists_of_map h
            obtain ⟨hkind, rfl⟩ := Prod.mk.inj hread
            obtain ⟨htarget, rfl⟩ := eq_of_kind hkind
            rw [htarget, hbehind, eq_of_scanInstructionBody hinner]
            rfl
        next =>
          split at h
          next hmark =>
            split at h
            next => cases h
            next rest' =>
              obtain ⟨hkind, rfl⟩ := Prod.mk.inj (Except.ok.inj h)
              obtain ⟨htarget, rfl⟩ := eq_of_kind hkind
              obtain ⟨hd, -⟩ := Bool.and_eq_true_iff.mp hmark
              rw [htarget, hbehind, eq_of_beq hd]
              rfl
            next => cases h
          next => cases h

/-! ## 3. Tokens -/

def Prolog.Token.IsInstruction : Prolog.Token → Prop
  | .instruction _ => True
  | _ => False

namespace Prolog

variable {t u : Token}

theorem not_isInstruction_of_ok {ε : Type} {ds : List Char} (hu : ¬ u.IsInstruction)
    (h : (Except.ok (u, ds) : Except ε (Token × List Char)) = .ok (t, rest)) : ¬ t.IsInstruction := by
  obtain ⟨rfl, -⟩ := Prod.mk.inj (Except.ok.inj h)
  exact hu

theorem eq_of_endWord (h : endWord t cs = .ok (u, rest)) : u = t ∨ u = .countedName := by
  unfold endWord at h
  split at h
  next => exact .inl (Prod.mk.inj (Except.ok.inj h)).1.symm
  next =>
    split at h
    next => exact .inl (Prod.mk.inj (Except.ok.inj h)).1.symm
    next =>
      split at h
      next =>
        split at h
        next => cases h
        next => exact .inr (Prod.mk.inj (Except.ok.inj h)).1.symm
      next => cases h

theorem not_isInstruction_of_endWord (ht : ¬ t.IsInstruction) (h : endWord t cs = .ok (u, rest)) :
    ¬ u.IsInstruction := by
  rcases eq_of_endWord h with rfl | rfl
  · exact ht
  · exact id

theorem not_isInstruction_of_scanPlainWord (h : scanPlainWord cs = .ok (t, rest)) : ¬ t.IsInstruction :=
  not_isInstruction_of_endWord id h

theorem not_isInstruction_of_scanWordToken (h : scanWordToken cs = .ok (t, rest)) : ¬ t.IsInstruction := by
  unfold scanWordToken at h
  dsimp only at h
  split at h
  next => cases h
  next =>
    split at h
    next =>
      split at h
      next => exact not_isInstruction_of_scanPlainWord h
      next => exact not_isInstruction_of_endWord id h
    next => exact not_isInstruction_of_scanPlainWord h
  next => exact not_isInstruction_of_endWord id h

theorem not_isInstruction_of_scanPercent (h : scanPercent cs = .ok (t, rest)) : ¬ t.IsInstruction := by
  unfold scanPercent at h
  split at h
  next => cases h
  next =>
    split at h
    next => exact not_isInstruction_of_ok id h
    next =>
      split at h
      next =>
        split at h
        next => cases h
        next => exact not_isInstruction_of_ok id h
        next => cases h
      next => cases h

theorem not_isInstruction_of_scanHashName (h : scanHashName cs = .ok (t, rest)) : ¬ t.IsInstruction := by
  unfold scanHashName at h
  split at h
  next => cases h
  next =>
    split at h
    next =>
      dsimp only at h
      split at h
      next => exact not_isInstruction_of_ok id h
      next =>
        split at h
        next => exact not_isInstruction_of_ok id h
        next => cases h
    next => cases h

theorem not_isInstruction_of_scanCloseParen (h : scanCloseParen cs = .ok (t, rest)) : ¬ t.IsInstruction := by
  unfold scanCloseParen at h
  split at h
  case h_5 =>
    split at h
    next => exact not_isInstruction_of_ok id h
    next => cases h
  all_goals exact not_isInstruction_of_ok id h

theorem eq_of_scanAngle {all : List Char} {i : Instruction} (h : scanAngle all cs = .ok (.instruction i, rest)) :
    ∃ tail, cs = '?' :: tail ∧ scanInstruction tail = .ok (i, rest) := by
  unfold scanAngle at h
  split at h
  next => cases h
  next =>
    split at h
    next => cases h
    next =>
      obtain ⟨read, -, hread⟩ := exists_of_map h
      cases hread
    next => cases h
    next =>
      split at h
      next =>
        obtain ⟨read, -, hread⟩ := exists_of_map h
        cases hread
      next => cases h
  next tail =>
    obtain ⟨read, hscan, hread⟩ := exists_of_map h
    obtain ⟨hi, rfl⟩ := Prod.mk.inj hread
    obtain rfl := Token.instruction.inj hi
    exact ⟨tail, rfl, hscan⟩
  next =>
    split at h
    next => cases h
    next => cases h

theorem eq_of_scan {i : Instruction} (h : scan cs = .ok (.instruction i, rest)) :
    ∃ tail, cs = '<' :: '?' :: tail ∧ scanInstruction tail = .ok (i, rest) := by
  unfold scan at h
  split at h
  case h_4 =>
    obtain ⟨tail, rfl, hscan⟩ := eq_of_scanAngle h
    exact ⟨tail, rfl, hscan⟩
  case h_2 | h_3 =>
    obtain ⟨read, -, hread⟩ := exists_of_map h
    cases hread
  case h_5 => exact absurd trivial (not_isInstruction_of_scanPercent h)
  case h_6 => exact absurd trivial (not_isInstruction_of_scanHashName h)
  case h_15 => exact absurd trivial (not_isInstruction_of_scanCloseParen h)
  case h_16 =>
    split at h
    next => cases h
    next =>
      split at h
      next => exact absurd trivial (not_isInstruction_of_scanWordToken h)
      next =>
        split at h
        next => exact absurd trivial (not_isInstruction_of_scanPlainWord h)
        next => cases h
  all_goals cases h

end Prolog

theorem eq_of_scan_declaration (h : Prolog.scan cs = .ok (.instruction (.declaration body), rest)) :
    cs = "<?xml".toList ++ (body ++ ("?>".toList ++ rest)) := by
  obtain ⟨tail, rfl, hscan⟩ := Prolog.eq_of_scan h
  rw [eq_of_scanInstruction hscan]
  rfl

theorem scan_declaration (hbody : IsBody body) (hne : body ≠ []) (rest : List Char) :
    Prolog.scan ("<?xml".toList ++ (body ++ ("?>".toList ++ rest))) =
      .ok (.instruction (.declaration body), rest) := by
  show ((scanInstruction ('x' :: 'm' :: 'l' :: (body ++ '?' :: '>' :: rest))).map
    fun read => (Prolog.Token.instruction read.1, read.2)) = _
  rw [scanInstruction_declaration hbody hne]
  rfl

/-! ## 4. The prolog -/

namespace Prolog

/-- Whether a step leads behind the start of a document and declares nothing. -/
def IsLate (next : Place × Meaning) : Prop :=
  next.1 ≠ .start ∧ ∀ body, next.2 ≠ .declaration body

variable {p : Part} {t : Token} {next : Place × Meaning} {at_ : Place}

theorem isLate_of_doctypeStep (h : doctypeStep p t = some next) : IsLate next := by
  unfold doctypeStep at h
  repeat' split at h
  all_goals cases h
  all_goals exact ⟨nofun, nofun⟩

theorem isLate_of_entityStep (h : entityStep p t = some next) : IsLate next := by
  unfold entityStep at h
  repeat' split at h
  all_goals cases h
  all_goals exact ⟨nofun, nofun⟩

theorem isLate_of_attlistStep (h : attlistStep p t = some next) : IsLate next := by
  unfold attlistStep at h
  repeat' split at h
  all_goals cases h
  all_goals exact ⟨nofun, nofun⟩

theorem isLate_of_elementStep (h : elementStep p t = some next) : IsLate next := by
  unfold elementStep at h
  repeat' split at h
  all_goals cases h
  all_goals exact ⟨nofun, nofun⟩

theorem isLate_of_notationStep (h : notationStep p t = some next) : IsLate next := by
  unfold notationStep at h
  repeat' split at h
  all_goals cases h
  all_goals exact ⟨nofun, nofun⟩

theorem cases_of_orElse {α : Type} {x y : Option α} {a : α} (h : (x <|> y) = some a) :
    x = some a ∨ y = some a := by
  cases x with
  | none => exact .inr h
  | some b => exact .inl h

theorem isLate_of_insideStep (h : insideStep p t = some next) : IsLate next := by
  unfold insideStep at h
  split at h
  · cases h
    exact ⟨nofun, nofun⟩
  · cases h
    exact ⟨nofun, nofun⟩
  · rcases cases_of_orElse h with h | h
    · exact isLate_of_doctypeStep h
    rcases cases_of_orElse h with h | h
    · exact isLate_of_entityStep h
    rcases cases_of_orElse h with h | h
    · exact isLate_of_attlistStep h
    rcases cases_of_orElse h with h | h
    · exact isLate_of_elementStep h
    · exact isLate_of_notationStep h

theorem isLate_of_subsetStep (h : subsetStep t = some next) : IsLate next := by
  unfold subsetStep at h
  split at h
  case h_4 =>
    obtain ⟨p, -, rfl⟩ := Option.map_eq_some_iff.mp h
    exact ⟨nofun, nofun⟩
  all_goals cases h
  all_goals exact ⟨nofun, nofun⟩

theorem ne_start (at_ : Place) : (if at_ = .start then .beforeDoctype else at_) ≠ Place.start := by
  split
  · nofun
  · assumption

/-- A step outside of the document type leads behind the start and declares nothing, but for the root, which
may be the first token, and a declaration, which has to be. -/
theorem cases_of_outsideStep (h : outsideStep at_ t = some next) :
    IsLate next ∨ next.2 = .root ∨ at_ = .start ∧ ∃ body, t = .instruction (.declaration body) := by
  unfold outsideStep at h
  dsimp only at h
  split at h
  case h_4 body =>
    split at h
    next hstart => exact .inr (.inr ⟨hstart, body, rfl⟩)
    next => cases h
  case h_5 =>
    split at h
    next =>
      cases h
      exact .inl ⟨nofun, nofun⟩
    next => cases h
  case h_6 =>
    cases h
    exact .inr (.inl rfl)
  all_goals cases h
  all_goals exact .inl ⟨ne_start at_, nofun⟩

theorem cases_of_step (h : step at_ t = some next) :
    IsLate next ∨ next.2 = .root ∨ at_ = .start ∧ ∃ body, t = .instruction (.declaration body) := by
  unfold step at h
  split at h
  next => exact .inl (isLate_of_insideStep h)
  next => exact .inl (isLate_of_subsetStep h)
  all_goals exact cases_of_outsideStep h

end Prolog

variable {e : Ending} {d : Declaration} {t : Prolog.Token}

theorem not_isInstruction_of_tokenBeforeBytes {isCut : Bool}
    (h : Prolog.tokenBeforeBytes? isCut cs = some (t, rest)) : ¬ t.IsInstruction := by
  unfold Prolog.tokenBeforeBytes? at h
  repeat' split at h
  all_goals cases h
  all_goals exact id

theorem eq_withHalfUnit (hasHalf : Bool) (ht : (if hasHalf then t.withHalfUnit else t).IsInstruction) :
    t = if hasHalf then t.withHalfUnit else t := by
  cases hasHalf with
  | false => rfl
  | true =>
    cases t
    case name => exact ht.elim
    case hashName => exact ht.elim
    all_goals rfl

theorem scan_of_readToken (ht : t.IsInstruction) (h : readToken e cs = .ok (t, rest)) :
    Prolog.scan cs = .ok (t, rest) := by
  unfold readToken at h
  dsimp only at h
  split at h
  next =>
    split at h
    next read hread =>
      cases h
      split at hread
      next => exact absurd ht (not_isInstruction_of_tokenBeforeBytes hread)
      next => cases hread
    next => cases h
  next u hscan =>
    split at h
    next => cases h
    next =>
      obtain ⟨rfl, rfl⟩ := Prod.mk.inj (Except.ok.inj h)
      rw [hscan, ← eq_withHalfUnit (e == .halfUnit) ht]
  next hscan =>
    rw [hscan, Except.ok.inj h]

theorem readToken_instruction {i : Instruction} (h : Prolog.scan cs = .ok (.instruction i, rest)) :
    readToken e cs = .ok (.instruction i, rest) := by
  cases rest <;> simp only [readToken, h, Prolog.Token.endStop?, Prolog.Token.withHalfUnit, ite_self]

/-- A document is declared by its first token or not at all. -/
theorem readProlog_ne_declared {fuel : Nat} {s : PrologState} (hs : s.place ≠ .start) :
    readProlog e fuel s cs ≠ .ok (.declared d rest) := by
  induction fuel generalizing e s cs with
  | zero => cases cs <;> nofun
  | succ fuel ih =>
    cases cs with
    | nil => nofun
    | cons c cs =>
      intro h
      simp only [readProlog] at h
      split at h
      next => cases h
      next t behind _ =>
        split at h
        next => cases h
        next => cases h
        next place body hstep =>
          -- Only the place at the start takes a declaration, and no step leads back there.
          rcases Prolog.cases_of_step hstep with hlate | hroot | ⟨hstart, -⟩
          · exact hlate.2 body rfl
          · cases hroot
          · exact hs hstart
        next place meaning hroot _ hstep =>
          have hplace : place ≠ .start := by
            rcases Prolog.cases_of_step hstep with hlate | hmeaning | ⟨hstart, -⟩
            · exact hlate.1
            · exact absurd hmeaning hroot
            · exact absurd hstart hs
          split at h
          next => cases h
          next next _ => exact ih hplace h

theorem step_declaration (body : List Char) : Prolog.step .start (.instruction (.declaration body)) =
    some (.beforeDoctype, .declaration body) := rfl

theorem readProlog_eq_declared_iff {fuel : Nat} :
    readProlog e (fuel + 1) {} cs = .ok (.declared d rest) ↔
      ∃ body, Prolog.scan cs = .ok (.instruction (.declaration body), rest) ∧ Declaration.read body = .ok d := by
  cases cs with
  | nil =>
    constructor
    · nofun
    · rintro ⟨body, hscan, -⟩
      cases hscan
  | cons c cs =>
    constructor
    · intro h
      simp only [readProlog] at h
      split at h
      next => cases h
      next t behind htoken =>
        split at h
        next => cases h
        next => cases h
        next place body hstep =>
          rcases Prolog.cases_of_step hstep with hlate | hroot | ⟨-, body', rfl⟩
          · exact absurd rfl (hlate.2 body)
          · cases hroot
          · rw [step_declaration] at hstep
            cases hstep
            split at h
            next => cases h
            next hread =>
              cases h
              exact ⟨body, scan_of_readToken trivial htoken, hread⟩
        -- Any other first token leads on to places where nothing is declared.
        next place meaning hroot hdeclaration hstep =>
          split at h
          next => cases h
          next next _ =>
            rcases Prolog.cases_of_step hstep with hlate | hmeaning | ⟨-, body, rfl⟩
            · exact absurd h (readProlog_ne_declared hlate.1)
            · exact absurd hmeaning hroot
            · rw [step_declaration] at hstep
              cases hstep
              exact absurd rfl (hdeclaration body)
    · rintro ⟨body, hscan, hread⟩
      simp only [readProlog, readToken_instruction hscan, step_declaration, hread]

/-! ## 5. Documents -/

/-- Whether a fault of a name gives a document up. The others are faults in the document. -/
def Encoding.NameFault.GivesUp (fault : Encoding.NameFault) : Prop :=
  fault ≠ .foreign ∧ fault ≠ .conflicting

variable {recognised : Encoding} {text : List Char} {fault : Encoding.NameFault} {o : ReaderOptions}

theorem declaredEncoding_eq_encodingName_iff :
    declaredEncoding recognised text rest d = .error (.encodingName fault) ↔
      ∃ name nameRest, d.encoding = some (name, nameRest) ∧
        Encoding.ofName recognised name = .error fault ∧ fault.GivesUp := by
  unfold declaredEncoding
  cases hencoding : d.encoding with
  | none =>
    constructor
    · nofun
    · rintro ⟨name, nameRest, hd, -⟩
      cases hd
  | some named =>
    obtain ⟨name, nameRest⟩ := named
    constructor
    · intro h
      dsimp only at h
      split at h
      next => cases h
      next => cases h
      next => cases h
      next fault' hforeign hconflicting hname =>
        cases h
        exact ⟨name, nameRest, rfl, hname, hforeign, hconflicting⟩
    · rintro ⟨name', nameRest', hd, hname, hforeign, hconflicting⟩
      cases hd
      simp only [hname]

theorem readBehind_ne_encodingName {standalone : Bool} :
    readBehind o standalone text e rest ≠ .error (.encodingName fault) := by
  unfold readBehind
  dsimp only
  split
  next => nofun
  next => nofun
  next =>
    split
    next => nofun
    next => nofun

theorem readDocument_eq_encodingName_iff {bytes : List UInt8} :
    readDocument o bytes = .error (.encodingName fault) ↔
      ∃ recognised hasMark behind body rest name,
        Encoding.recognise bytes = .encoded recognised hasMark behind ∧
        (recognised.decode behind).chars = "<?xml".toList ++ (body ++ ("?>".toList ++ rest)) ∧
        Declaration.NamesEncoding name body ∧ Encoding.ofName recognised name = .error fault ∧
        fault.GivesUp := by
  constructor
  · intro h
    unfold readDocument at h
    split at h
    next => cases h
    next recognised hasMark behind hrecognise =>
      dsimp only at h
      split at h
      next => cases h
      next =>
        split at h
        next => cases h
        next => cases h
      next d rest hprolog =>
        obtain ⟨body, hscan, hread⟩ := readProlog_eq_declared_iff.mp hprolog
        -- The text only gives faults their places.
        generalize marked hasMark recognised recognised (recognised.decode behind).chars = text at h
        cases hdeclared : declaredEncoding recognised text rest d with
        | ok encoding =>
          rw [hdeclared] at h
          exact absurd h readBehind_ne_encodingName
        | error f =>
          rw [hdeclared] at h
          cases h
          obtain ⟨name, nameRest, hencoding, hname, hfault⟩ := declaredEncoding_eq_encodingName_iff.mp hdeclared
          exact ⟨recognised, hasMark, behind, body, rest, name, hrecognise, eq_of_scan_declaration hscan,
            Declaration.namesEncoding_of_read hread hencoding, hname, hfault⟩
  · rintro ⟨recognised, hasMark, behind, body, rest, name, hrecognise, hchars, hnames, hname, hfault⟩
    obtain ⟨hbody, hne⟩ := isBody_of_namesEncoding hnames
    obtain ⟨d, nameRest, hread, hencoding⟩ := Declaration.read_of_namesEncoding hnames
    have hscan := scan_declaration hbody hne rest
    rw [← hchars] at hscan
    have hprolog : readProlog (recognised.decode behind).ending ((recognised.decode behind).chars.length + 1) {}
        (recognised.decode behind).chars = .ok (.declared d rest) :=
      readProlog_eq_declared_iff.mpr ⟨body, hscan, hread⟩
    have hdeclared : ∀ text, declaredEncoding recognised text rest d = .error (.encodingName fault) :=
      fun text => declaredEncoding_eq_encodingName_iff.mpr ⟨name, nameRest, hencoding, hname, hfault⟩
    simp only [readDocument, hrecognise, hprolog, hdeclared]
    rfl

/-! ## 6. Names -/

namespace Encoding

def IsVain : Except NameFault Encoding → Prop
  | .error (.unknown _) | .error (.notText _) => True
  | _ => False

theorem IsVain.exists_eq {found : Except NameFault Encoding} (h : IsVain found) :
    ∃ fault, found = .error fault ∧ fault.GivesUp := by
  match found with
  | .error (.unknown _) | .error (.notText _) => exact ⟨_, rfl, nofun, nofun⟩

theorem not_special_of_transformation {listed : String} (h : listed ∈ Text.CodePage.transformationNames) :
    listed ∉ ["idna", "undefined", "punycode"] := by
  have hall : ∀ n ∈ Text.CodePage.transformationNames, n ∉ ["idna", "undefined", "punycode"] := by decide
  exact hall listed h

theorem isVain_ofNormalName_iff {name shown : String} :
    IsVain (ofNormalName name shown) ↔ ¬ IsListed (listedName name) := by
  unfold ofNormalName
  generalize listedName name = listed
  dsimp only
  split
  next p hp =>
    have hlisted : IsListed listed :=
      .inl ⟨p, List.mem_of_find?_eq_some hp, by simpa using List.find?_some hp⟩
    split
    next => exact iff_of_false id (not_not_intro hlisted)
    next => exact iff_of_false id (not_not_intro hlisted)
  next hpages =>
    have hpages : ¬ ∃ p ∈ Text.CodePage.all, listed ∈ p.names := by
      rintro ⟨p, hp, hlisted⟩
      exact absurd (List.contains_iff_mem.mpr hlisted) (List.find?_eq_none.mp hpages p hp)
    simp only [List.contains_iff_mem, beq_iff_eq]
    split
    next h => exact iff_of_false id (not_not_intro (.inr (.inl h)))
    split
    next h => exact iff_of_false id (not_not_intro (.inr (.inr (.inl h))))
    split
    next h => exact iff_of_false id (not_not_intro (.inr (.inr (.inr (.inl h)))))
    -- None of the tables has the name, so it is a special one or is not listed.
    have hspecial : IsListed listed ↔ listed ∈ ["idna", "undefined", "punycode"] := by
      constructor
      · rintro (h | h | h | h | h)
        all_goals first | exact h | contradiction
      · exact fun h => .inr (.inr (.inr (.inr h)))
    rw [hspecial]
    split
    next h => exact iff_of_true trivial (not_special_of_transformation h)
    split
    next h => exact iff_of_false id (not_not_intro (by simp [h]))
    split
    next h => exact iff_of_false id (not_not_intro (by simp [h]))
    split
    next h => exact iff_of_false id (not_not_intro (by simp [h]))
    next hidna hundefined hpunycode =>
      exact iff_of_true trivial (by simp [hidna, hundefined, hpunycode])

theorem isVain_ofName_iff {name : List Char} : IsVain (ofName recognised name) ↔ ¬ IsKnown name := by
  unfold ofName IsKnown
  generalize String.ofList (name.map Text.asciiLower) = lower
  dsimp only
  split
  case h_7 h1 h2 h3 h4 h5 h6 =>
    have hplain : lower ∉ plainNames := by simpa [plainNames] using ⟨h1, h2, h3, h4, h5, h6⟩
    rw [isVain_ofNormalName_iff, or_iff_right hplain]
  all_goals refine iff_of_false ?_ (not_not_intro (.inl (by decide)))
  -- The plain names stand for an encoding or conflict with the one that has been recognised.
  all_goals
    cases recognised with
    | utf16 isBigEndian => cases isBigEndian <;> exact id
    | utf8 | latin1 | ascii | page upper => exact id

end Encoding

/-- A document is given up for a name that is looked up in vain exactly if it declares one that is not
known. -/
theorem exists_unknown_declared_iff {bytes : List UInt8} :
    (∃ fault : Encoding.NameFault, readDocument o bytes = .error (.encodingName fault) ∧
      Encoding.IsVain (.error fault)) ↔ ∃ name, Declares bytes name ∧ ¬ Encoding.IsKnown name := by
  constructor
  · rintro ⟨fault, hread, hvain⟩
    obtain ⟨recognised, hasMark, behind, body, rest, name, hrecognise, hchars, hnames, hname, -⟩ :=
      readDocument_eq_encodingName_iff.mp hread
    refine ⟨name, ⟨recognised, hasMark, behind, body, rest, hrecognise, hchars, hnames⟩, ?_⟩
    exact Encoding.isVain_ofName_iff.mp (hname ▸ hvain)
  · rintro ⟨name, ⟨recognised, hasMark, behind, body, rest, hrecognise, hchars, hnames⟩, hunknown⟩
    have hvain : Encoding.IsVain (Encoding.ofName recognised name) := Encoding.isVain_ofName_iff.mpr hunknown
    obtain ⟨fault, hname, hfault⟩ := hvain.exists_eq
    refine ⟨fault, ?_, hname ▸ hvain⟩
    exact readDocument_eq_encodingName_iff.mpr
      ⟨recognised, hasMark, behind, body, rest, name, hrecognise, hchars, hnames, hname, hfault⟩

end VideoWall.Xml
