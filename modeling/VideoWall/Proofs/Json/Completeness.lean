import VideoWall.Json.Grammar
import VideoWall.Proofs.Text.Digits

/-!
# Every JSON text is read

The reader takes each text of the grammar to the value that it denotes, with what stands behind it. The
induction is on the depth that the reader may go to; a value is no deeper than its text is long. Main
statements: `readsAt` and `isDecoder_ofText?`.
-/

namespace VideoWall.JsonValue

variable {v : JsonValue} {n : Nat} {bs cs ds rest : List Char}

/-! ## 1. Blanks -/

theorem skip_append (h : AreBlank bs) (cs : List Char) : skip (bs ++ cs) = skip cs :=
  List.dropWhile_append_of_pos h

theorem skip_of_not_blank {c : Char} (hc : isBlank c = false) (cs : List Char) : skip (c :: cs) = c :: cs := by
  rw [skip, List.dropWhile_cons, hc]
  rfl

theorem value?_congr (h : skip cs = skip ds) : value? n cs = value? n ds := by
  cases n with
  | zero => rfl
  | succ n => rw [value?, value?, h]

/-! ## 2. Strings -/

theorem not_surrogate (c : Char) : isHigh c.toNat = false ∧ isLow c.toNat = false := by
  have hscalar : c.toNat < 0xD800 ∨ 0xDFFF < c.toNat ∧ c.toNat < 0x110000 := c.valid
  simp only [isHigh, isLow, Bool.and_eq_false_iff, decide_eq_false_iff_not]
  omega

theorem escaped?_of_mem_letters {l c : Char} (h : (l, c) ∈ letters) : escaped? l = some c ∧ l ≠ 'u' := by
  have hall : ∀ p ∈ letters, escaped? p.1 = some p.2 ∧ p.1 ≠ 'u' := by decide
  exact hall (l, c) h

theorem stringBody?_of_spellsChar {c : Char} (h : SpellsChar c cs) (rest : List Char) :
    stringBody? (cs ++ rest) = (stringBody? rest).map (push c) := by
  cases h with
  | plain hcontrol hquote hslash =>
    rw [List.cons_append, List.nil_append, stringBody?.eq_5 _ _ hquote (fun _ _ _ _ _ h _ => hslash h)
      (fun _ _ h _ => hslash h), if_neg]
    simp only [Bool.or_eq_true, decide_eq_true_eq, beq_iff_eq, not_or]
    exact ⟨by omega, hslash⟩
  | letter hl =>
    -- The letter is not the one that announces a unit, which the reader tries first.
    obtain ⟨hescaped, hu⟩ := escaped?_of_mem_letters hl
    rw [List.cons_append, List.cons_append, List.nil_append,
      stringBody?.eq_4 _ _ (fun _ _ _ _ _ h _ => hu h), hescaped]
  | unit hunit =>
    obtain ⟨hhigh, hlow⟩ := not_surrogate c
    simp only [List.cons_append, List.nil_append, stringBody?, hunit, hhigh, hlow, Char.ofNat_toNat,
      Bool.false_eq_true, if_false]
  | @pair w x y z w' x' y' z' high low hunit hunit' hhigh hlow hvalue =>
    -- The first unit is taken for the first half of a pair only.
    have hnotLow : isLow high = false := by
      simp only [isHigh, isLow, Bool.and_eq_true, Bool.and_eq_false_iff, decide_eq_true_eq,
        decide_eq_false_iff_not] at hhigh ⊢
      omega
    have hchar : pairChar high low = c := by rw [pairChar, ← hvalue, Char.ofNat_toNat]
    simp only [List.cons_append, List.nil_append, stringBody?, hunit, hunit', hnotLow, hhigh, hlow, hchar,
      Bool.false_eq_true, if_false, if_true]

theorem stringBody?_of_spellsChars {s : List Char} (h : SpellsChars s cs) (rest : List Char) :
    stringBody? (cs ++ '"' :: rest) = some (s, rest) := by
  induction h with
  | nil => rw [List.nil_append, stringBody?]
  | cons hc _ ih => rw [List.append_assoc, stringBody?_of_spellsChar hc, ih]; rfl

theorem string?_of_spellsChars {s : String} (h : SpellsChars s.toList cs) (rest : List Char) :
    string? ('"' :: (cs ++ '"' :: rest)) = some (s, rest) := by
  rw [string?, stringBody?_of_spellsChars h, Option.map_some]
  dsimp only
  rw [String.ofList_toList]

/-! ## 3. Integers -/

/-- Whether a text does not go on with a number that stands in front of it. -/
def EndsNumber (rest : List Char) : Prop :=
  ∀ c ∈ rest.head?, Text.isAsciiDigit c = false ∧ c ≠ '.' ∧ c ≠ 'e' ∧ c ≠ 'E'

theorem natural?_of_spells {m : Nat} (h : SpellsNatural m cs) (hrest : EndsNumber rest) :
    natural? (cs ++ rest) = some (m, rest) := by
  have htake : (cs ++ rest).takeWhile Text.isAsciiDigit = cs := by
    rw [List.takeWhile_append_of_pos h.digits]
    cases rest with
    | nil => exact List.append_nil cs
    | cons d rest => rw [List.takeWhile_cons_of_neg (by rw [(hrest d rfl).1]; decide), List.append_nil]
  have hdrop : (cs ++ rest).dropWhile Text.isAsciiDigit = rest := by
    rw [List.dropWhile_append_of_pos h.digits]
    cases rest with
    | nil => rfl
    | cons d rest => rw [List.dropWhile_cons_of_neg (by rw [(hrest d rfl).1]; decide)]
  unfold natural?
  rw [htake, hdrop]
  dsimp only
  rw [h.value]
  -- The reader turns down no digits and a zero in front, and looks at what follows the digits.
  split
  · exact absurd rfl h.nonempty
  · cases h.no_zero_in_front rfl
  · cases rest with
    | nil => rfl
    | cons d rest =>
      obtain ⟨-, hpoint, he, hE⟩ := hrest d rfl
      simp [hpoint, he, hE]

theorem SpellsInt.head {i : Int} (h : SpellsInt i cs) :
    ∃ c ds, cs = c :: ds ∧ (c = '-' ∨ Text.isAsciiDigit c = true) := by
  cases h with
  | plain h =>
    obtain ⟨c, ds, rfl⟩ := List.exists_cons_of_ne_nil h.nonempty
    exact ⟨c, ds, rfl, .inr (h.digits c List.mem_cons_self)⟩
  | minus h => exact ⟨_, _, rfl, .inl rfl⟩

theorem integer?_of_spells {i : Int} (h : SpellsInt i cs) (hrest : EndsNumber rest) :
    integer? (cs ++ rest) = some (i, rest) := by
  cases h with
  | plain h =>
    have hread := natural?_of_spells h hrest
    obtain ⟨c, ds, rfl⟩ := List.exists_cons_of_ne_nil h.nonempty
    have hsign : c ≠ '-' := by
      rintro rfl
      cases h.digits '-' List.mem_cons_self
    rw [List.cons_append] at hread ⊢
    rw [integer?.eq_2 _ (by simpa using hsign), hread]
    rfl
  | minus h =>
    rw [List.cons_append, integer?, natural?_of_spells h hrest]
    rfl

/-! ## 4. The start of a value -/

theorem SpellsInt.head_ne {i : Int} (h : SpellsInt i cs) :
    ∃ c ds, cs = c :: ds ∧ isBlank c = false ∧ ∀ d ∈ ['n', 't', 'f', '"', '[', '\x7b', ']'], c ≠ d := by
  obtain ⟨c, ds, rfl, hc⟩ := h.head
  refine ⟨c, ds, rfl, ?_⟩
  rcases hc with rfl | hdigit
  · exact ⟨rfl, by simp⟩
  have hother : ∀ d, Text.isAsciiDigit d = false → c ≠ d := by
    rintro d hd rfl
    rw [hdigit] at hd
    cases hd
  have hnone : ∀ d ∈ ['n', 't', 'f', '"', '[', '\x7b', ']'], Text.isAsciiDigit d = false := by
    simp [Text.isAsciiDigit]
  refine ⟨?_, fun d hd => hother d (hnone d hd)⟩
  simp only [isBlank, Bool.or_eq_false_iff, beq_eq_false_iff_ne]
  exact ⟨⟨⟨hother _ rfl, hother _ rfl⟩, hother _ rfl⟩, hother _ rfl⟩

theorem value?_of_spellsInt (n : Nat) {i : Int} (h : SpellsInt i cs) (hrest : EndsNumber rest) :
    value? (n + 1) (cs ++ rest) = some (.int i, rest) := by
  have hread := integer?_of_spells h hrest
  obtain ⟨c, ds, rfl, hblank, hc⟩ := h.head_ne
  simp only [List.forall_mem_cons] at hc
  obtain ⟨hn, ht, hf, hquote, hbracket, hbrace, -⟩ := hc
  rw [List.cons_append] at hread ⊢
  rw [value?, skip_of_not_blank hblank]
  -- One case for each first character of another value; what is left is read as a number.
  split <;> rename_i heq
  · exact absurd (List.cons.inj heq).1 hn
  · exact absurd (List.cons.inj heq).1 ht
  · exact absurd (List.cons.inj heq).1 hf
  · exact absurd (List.cons.inj heq).1 hquote
  · exact absurd (List.cons.inj heq).1 hbracket
  · exact absurd (List.cons.inj heq).1 hbrace
  · rw [hread, Option.map_some]

theorem Spells.head (h : Spells v cs) : ∃ c ds, cs = c :: ds ∧ isBlank c = false ∧ c ≠ ']' := by
  cases h with
  | int h =>
    obtain ⟨c, ds, rfl, hblank, hc⟩ := h.head_ne
    exact ⟨c, ds, rfl, hblank, hc ']' (by decide)⟩
  | null | yes | no | string _ | emptyArray _ | array _ | emptyObject _ | object _ =>
    exact ⟨_, _, rfl, by decide⟩

theorem Spells.length_pos (h : Spells v cs) : 0 < cs.length := by
  obtain ⟨c, ds, rfl, -⟩ := h.head
  exact Nat.succ_pos _

/-! ## 5. Values -/

/-- Whether the texts that are short enough are read at a depth, with what stands behind them: values, and
the rest of an array from an item on and of an object from a field on. -/
structure ReadsAt (n : Nat) : Prop where
  value : ∀ {v : JsonValue} {cs : List Char} (rest : List Char), Spells v cs → cs.length < n →
    EndsNumber rest → value? n (cs ++ rest) = some (v, rest)
  items : ∀ {vs : List JsonValue} {cs : List Char} (rest : List Char), SpellsItems vs cs → cs.length + 1 < n →
    items? n (cs ++ ']' :: rest) = some (vs, rest)
  fields : ∀ {fs : List (String × JsonValue)} {cs : List Char} (rest : List Char), SpellsFields fs cs →
    cs.length + 1 < n → fields? n (cs ++ '\x7d' :: rest) = some (fs, rest)

theorem EndsNumber.blanks_append (hbs : AreBlank bs) (hrest : EndsNumber rest) : EndsNumber (bs ++ rest) := by
  have hblank : ∀ d, isBlank d = true → Text.isAsciiDigit d = false ∧ d ≠ '.' ∧ d ≠ 'e' ∧ d ≠ 'E' := by
    intro d hd
    simp only [isBlank, Bool.or_eq_true, beq_iff_eq] at hd
    rcases hd with ((rfl | rfl) | rfl) | rfl
    all_goals decide
  cases bs with
  | nil => exact hrest
  | cons b bs =>
    intro d hd
    cases hd
    exact hblank _ (hbs _ List.mem_cons_self)

theorem endsNumber_of_mark {c : Char} (hc : c ∈ [',', ']', '\x7d']) (rest : List Char) : EndsNumber (c :: rest) := by
  have hmarks : ∀ d ∈ [',', ']', '\x7d'], Text.isAsciiDigit d = false ∧ d ≠ '.' ∧ d ≠ 'e' ∧ d ≠ 'E' := by
    simp [Text.isAsciiDigit]
  intro d hd
  cases hd
  exact hmarks c hc

theorem ReadsAt.spaced (hn : ReadsAt n) (h : SpellsSpaced v cs) (hlength : cs.length < n) {c : Char}
    (hc : c ∈ [',', ']', '\x7d']) (rest : List Char) :
    ∃ bs, AreBlank bs ∧ value? n (cs ++ c :: rest) = some (v, bs ++ c :: rest) := by
  cases h with
  | @mk _ before body after hbefore hbody hafter =>
    simp only [List.length_append] at hlength
    refine ⟨after, hafter, ?_⟩
    simp only [List.append_assoc]
    rw [value?_congr (skip_append hbefore _)]
    exact hn.value _ hbody (by omega) (EndsNumber.blanks_append hafter (endsNumber_of_mark hc rest))

theorem value?_quote (n : Nat) (cs : List Char) :
    value? (n + 1) ('"' :: cs) = (string? ('"' :: cs)).map fun (s, rest) => (.string s, rest) := by
  rw [value?, skip_of_not_blank (by decide)]
  rfl

theorem value?_bracket (n : Nat) (cs : List Char) :
    value? (n + 1) ('[' :: cs) = match skip cs with
      | ']' :: rest => some (.array [], rest)
      | cs => (items? n cs).map fun (vs, rest) => (.array vs, rest) := by
  rw [value?, skip_of_not_blank (by decide)]
  rfl

theorem value?_brace (n : Nat) (cs : List Char) :
    value? (n + 1) ('\x7b' :: cs) = match skip cs with
      | '\x7d' :: rest => some (.object [], rest)
      | cs => (fields? n cs).map fun (fs, rest) => (.object fs, rest) := by
  rw [value?, skip_of_not_blank (by decide)]
  rfl

theorem SpellsSpaced.skip_eq (h : SpellsSpaced v cs) (rest : List Char) :
    ∃ c ds, skip (cs ++ rest) = c :: ds ∧ isBlank c = false ∧ c ≠ ']' := by
  cases h with
  | mk hbefore hbody _ =>
    obtain ⟨c, ds, rfl, hblank, hc⟩ := hbody.head
    rw [List.append_assoc, skip_append hbefore, List.append_assoc, List.cons_append, skip_of_not_blank hblank]
    exact ⟨c, _, rfl, hblank, hc⟩

theorem SpellsItems.skip_eq {vs : List JsonValue} (h : SpellsItems vs cs) (rest : List Char) :
    ∃ c ds, skip (cs ++ rest) = c :: ds ∧ isBlank c = false ∧ c ≠ ']' := by
  cases h with
  | last h => exact h.skip_eq rest
  | more h _ =>
    rw [List.append_assoc]
    exact h.skip_eq _

theorem SpellsField.skip_eq {k : String} (h : SpellsField k v cs) (rest : List Char) :
    ∃ ds, skip (cs ++ rest) = '"' :: ds := by
  cases h with
  | mk hbefore _ _ _ =>
    rw [List.append_assoc, skip_append hbefore, List.cons_append, skip_of_not_blank (by decide)]
    exact ⟨_, rfl⟩

theorem SpellsFields.skip_eq {fs : List (String × JsonValue)} (h : SpellsFields fs cs) (rest : List Char) :
    ∃ ds, skip (cs ++ rest) = '"' :: ds := by
  cases h with
  | last h => exact h.skip_eq rest
  | more h _ =>
    rw [List.append_assoc]
    exact h.skip_eq _

/-! ## 6. One call deeper -/

theorem items?_congr (h : skip cs = skip ds) : items? n cs = items? n ds := by
  cases n with
  | zero => rfl
  | succ n => rw [items?, items?, value?_congr h]

theorem fields?_congr (h : skip cs = skip ds) : fields? n cs = fields? n ds := by
  cases n with
  | zero => rfl
  | succ n => rw [fields?, fields?, h]

theorem value?_array (hn : ReadsAt n) {vs : List JsonValue} (h : SpellsItems vs cs) (hlength : cs.length + 1 < n)
    (rest : List Char) : value? (n + 1) ('[' :: (cs ++ ']' :: rest)) = some (.array vs, rest) := by
  have hitems := hn.items rest h hlength
  obtain ⟨c, ds, hskip, hblank, hc⟩ := h.skip_eq (']' :: rest)
  have hsame : skip (c :: ds) = skip (cs ++ ']' :: rest) := by rw [skip_of_not_blank hblank, hskip]
  rw [value?_bracket, hskip]
  -- The first item does not begin with the end of the array.
  split
  · rename_i heq
    exact absurd (List.cons.inj heq).1 hc
  · rw [items?_congr hsame, hitems]
    rfl

theorem value?_object (hn : ReadsAt n) {fs : List (String × JsonValue)} (h : SpellsFields fs cs)
    (hlength : cs.length + 1 < n) (rest : List Char) :
    value? (n + 1) ('\x7b' :: (cs ++ '\x7d' :: rest)) = some (.object fs, rest) := by
  have hfields := hn.fields rest h hlength
  obtain ⟨ds, hskip⟩ := h.skip_eq ('\x7d' :: rest)
  have hsame : skip ('"' :: ds) = skip (cs ++ '\x7d' :: rest) := by rw [skip_of_not_blank (by decide), hskip]
  rw [value?_brace, hskip]
  show (fields? n ('"' :: ds)).map _ = _
  rw [fields?_congr hsame, hfields]
  rfl

theorem value?_succ (hn : ReadsAt n) (rest : List Char) (h : Spells v cs) (hlength : cs.length < n + 1)
    (hrest : EndsNumber rest) : value? (n + 1) (cs ++ rest) = some (v, rest) := by
  cases h with
  | null | yes | no => simp [value?, skip_of_not_blank, isBlank]
  | int h => exact value?_of_spellsInt n h hrest
  | string h =>
    simp only [List.cons_append, List.append_assoc, List.nil_append]
    rw [value?_quote, string?_of_spellsChars h]
    rfl
  | emptyArray h =>
    simp only [List.cons_append, List.append_assoc, List.nil_append]
    rw [value?_bracket, skip_append h, skip_of_not_blank (by decide)]
    rfl
  | array h =>
    simp only [List.length_cons, List.length_append, List.length_nil] at hlength
    simp only [List.cons_append, List.append_assoc, List.nil_append]
    exact value?_array hn h (by omega) rest
  | emptyObject h =>
    simp only [List.cons_append, List.append_assoc, List.nil_append]
    rw [value?_brace, skip_append h, skip_of_not_blank (by decide)]
    rfl
  | object h =>
    simp only [List.length_cons, List.length_append, List.length_nil] at hlength
    simp only [List.cons_append, List.append_assoc, List.nil_append]
    exact value?_object hn h (by omega) rest

theorem SpellsSpaced.length_pos (h : SpellsSpaced v cs) : 0 < cs.length := by
  cases h with
  | mk _ hbody _ =>
    have hpos := hbody.length_pos
    simp only [List.length_append]
    omega

theorem items?_succ (hn : ReadsAt n) {vs : List JsonValue} (rest : List Char) (h : SpellsItems vs cs)
    (hlength : cs.length + 1 < n + 1) : items? (n + 1) (cs ++ ']' :: rest) = some (vs, rest) := by
  cases h with
  | last h =>
    obtain ⟨bs, hbs, hvalue⟩ := hn.spaced h (by omega) (c := ']') (by decide) rest
    rw [items?, hvalue, Option.bind_eq_bind, Option.bind_some]
    dsimp only
    rw [skip_append hbs, skip_of_not_blank (by decide)]
    rfl
  | @more _ _ ds es h hmore =>
    have hpos := h.length_pos
    simp only [List.length_append, List.length_cons] at hlength
    obtain ⟨bs, hbs, hvalue⟩ := hn.spaced h (by omega) (c := ',') (by decide) (es ++ ']' :: rest)
    rw [List.append_assoc, List.cons_append, items?, hvalue, Option.bind_eq_bind, Option.bind_some]
    dsimp only
    rw [skip_append hbs, skip_of_not_blank (by decide)]
    show (items? n _).map _ = _
    rw [hn.items rest hmore (by omega)]
    rfl

theorem fields?_of_field (hn : ReadsAt n) {k : String} (h : SpellsField k v cs) (hlength : cs.length < n + 1)
    {c : Char} (hc : c ∈ [',', ']', '\x7d']) (rest : List Char) :
    fields? (n + 1) (cs ++ c :: rest) = match c :: rest with
      | ',' :: cs => (fields? n cs).map fun (fs, rest) => ((k, v) :: fs, rest)
      | '\x7d' :: rest => some ([(k, v)], rest)
      | _ => none := by
  cases h with
  | mk hbefore hkey hafter hvalue =>
    simp only [List.length_append, List.length_cons] at hlength
    obtain ⟨bs, hbs, hread⟩ := hn.spaced hvalue (by omega) hc rest
    have hmarks : ∀ d ∈ [',', ']', '\x7d'], isBlank d = false := by simp [isBlank]
    have hmark : skip (bs ++ c :: rest) = c :: rest := by
      rw [skip_append hbs, skip_of_not_blank (hmarks c hc)]
    simp only [List.append_assoc, List.cons_append]
    rw [fields?, skip_append hbefore, skip_of_not_blank (by decide), string?_of_spellsChars hkey,
      Option.bind_eq_bind, Option.bind_some]
    dsimp only
    rw [skip_append hafter, skip_of_not_blank (by decide)]
    show (value? n _).bind _ = _
    rw [hread, Option.bind_some]
    dsimp only
    generalize skip (bs ++ c :: rest) = behind at hmark ⊢
    subst hmark
    rfl

theorem fields?_succ (hn : ReadsAt n) {fs : List (String × JsonValue)} (rest : List Char) (h : SpellsFields fs cs)
    (hlength : cs.length + 1 < n + 1) : fields? (n + 1) (cs ++ '\x7d' :: rest) = some (fs, rest) := by
  cases h with
  | last h => exact fields?_of_field hn h (by omega) (by decide) rest
  | more h hmore =>
    simp only [List.length_append, List.length_cons] at hlength
    rw [List.append_assoc, List.cons_append, fields?_of_field hn h (by omega) (by decide)]
    show (fields? n _).map _ = _
    rw [hn.fields rest hmore (by omega)]
    rfl

theorem readsAt (n : Nat) : ReadsAt n := by
  induction n with
  | zero => exact ⟨fun _ _ h => absurd h (Nat.not_lt_zero _), fun _ _ h => absurd h (Nat.not_lt_zero _),
      fun _ _ h => absurd h (Nat.not_lt_zero _)⟩
  | succ n ih => exact ⟨value?_succ ih, items?_succ ih, fields?_succ ih⟩

theorem isDecoder_ofText? : IsDecoder ofText? := by
  rintro v cs ⟨hbefore, hbody, hafter⟩
  rename_i before body after
  -- The reader starts deep enough for the whole text, and so for what is between its blanks.
  have hlength : body.length < 2 * (String.ofList (before ++ (body ++ after))).length + 2 := by
    simp only [String.length_ofList, List.length_append]
    omega
  have hends : EndsNumber (after ++ []) := EndsNumber.blanks_append hafter (by nofun)
  have hskip : skip (after ++ []) = [] := skip_append hafter []
  rw [List.append_nil] at hends hskip
  rw [ofText?, String.toList_ofList, value?_congr (skip_append hbefore _),
    (readsAt _).value after hbody hlength hends]
  dsimp only
  rw [hskip]
  rfl

end VideoWall.JsonValue
