import VideoWall.Proofs.Json.Completeness

/-!
# Written JSON is read back

The text of a value is a text of the grammar, so every decoder takes it back to the value. Main statements:
`isSpelled` and `decode_toText`.
-/

namespace VideoWall.JsonValue

variable {v : JsonValue} {vs : List JsonValue}

/-! ## 1. Blanks, characters and numbers -/

theorem areBlank_nil : AreBlank [] := nofun

theorem areBlank_newline (level : Nat) : AreBlank (newline level) := by
  intro c hc
  rcases List.mem_cons.mp hc with rfl | hc
  · rfl
  · rw [List.eq_of_mem_replicate hc]
    rfl

theorem spellsChar_escapeChar (c : Char) : SpellsChar c (escapeChar c) := by
  have hletter : ∀ {l d : Char}, (l, d) ∈ letters → c = d → SpellsChar c ['\\', l] := by
    rintro l d hl rfl
    exact .letter hl
  unfold escapeChar
  simp only [beq_iff_eq]
  split
  · exact hletter (d := '"') (by decide) ‹_›
  split
  · exact hletter (d := '\\') (by decide) ‹_›
  split
  · exact hletter (d := '\n') (by decide) ‹_›
  split
  · exact hletter (d := '\r') (by decide) ‹_›
  split
  · exact hletter (d := '\t') (by decide) ‹_›
  split
  · exact hletter (d := '\x08') (by decide) (Char.toNat_inj.1 ‹_›)
  split
  · exact hletter (d := '\x0c') (by decide) (Char.toNat_inj.1 ‹_›)
  split
  · obtain ⟨w, x, y, z, hhex, hunit⟩ := unit?_hex (n := c.toNat) (by omega)
    rw [hhex]
    exact .unit hunit
  · rename_i hquote hslash _ _ _ _ _ hcontrol
    exact .plain (by omega) hquote hslash

theorem spellsChars_flatMap (cs : List Char) : SpellsChars cs (cs.flatMap escapeChar) := by
  induction cs with
  | nil => exact .nil
  | cons c cs ih => exact .cons (spellsChar_escapeChar c) ih

theorem spellsNatural_decimal (n : Nat) : SpellsNatural n (Text.decimal n) := by
  obtain ⟨c, cs, hcs, hzero⟩ := Text.exists_decimal n
  constructor
  · rw [hcs]
    exact List.cons_ne_nil c cs
  · exact Text.isAsciiDigit_of_mem_decimal n
  · rw [hcs]
    intro h
    cases h
    rw [hzero rfl]
  · exact Text.ofDigits_decimal n

theorem spellsInt_decimalInt (i : Int) : SpellsInt i (Text.decimalInt i) := by
  have hnatural := spellsNatural_decimal i.natAbs
  unfold Text.decimalInt
  split
  · have hvalue : i = -(i.natAbs : Int) := by omega
    rw [hvalue, Int.natAbs_neg, Int.natAbs_natCast]
    exact .minus hnatural
  · have hvalue : i = (i.natAbs : Int) := by omega
    rw [hvalue, Int.natAbs_natCast]
    exact .plain hnatural

/-! ## 2. Values -/

def IsSpelled (v : JsonValue) : Prop := ∀ level, Spells v (chars level v)

theorem IsSpelled.spaced (h : IsSpelled v) (level : Nat) {bs : List Char} (hbs : AreBlank bs) :
    SpellsSpaced v (newline level ++ (chars level v ++ bs)) :=
  .mk (areBlank_newline level) (h level) hbs

theorem spellsItems_itemsChars (level outer : Nat) (h : ∀ w ∈ v :: vs, IsSpelled w) :
    SpellsItems (v :: vs) (newline level ++ (chars level v ++ (itemsChars level vs ++ newline outer))) := by
  induction vs generalizing v with
  | nil =>
    rw [itemsChars, List.nil_append]
    exact .last ((h v List.mem_cons_self).spaced level (areBlank_newline outer))
  | cons w ws ih =>
    have hfirst := (h v List.mem_cons_self).spaced level areBlank_nil
    have hmore := ih fun x hx => h x (List.mem_cons_of_mem v hx)
    have hitems := SpellsItems.more hfirst hmore
    simpa only [itemsChars, List.append_assoc, List.cons_append, List.nil_append] using hitems

theorem IsSpelled.field (h : IsSpelled v) (level : Nat) (k : String) {bs : List Char} (hbs : AreBlank bs) :
    SpellsField k v (newline level ++ (stringChars k ++ ':' :: ' ' :: (chars level v ++ bs))) := by
  have hvalue : SpellsSpaced v ([' '] ++ (chars level v ++ bs)) := .mk (by simp [AreBlank, isBlank]) (h level) hbs
  have hfield := SpellsField.mk (areBlank_newline level) (spellsChars_flatMap k.toList) areBlank_nil
    hvalue
  simpa only [stringChars, List.append_assoc, List.cons_append, List.nil_append] using hfield

theorem spellsFields_fieldsChars (level outer : Nat) (k : String) {fs : List (String × JsonValue)}
    (hv : IsSpelled v) (h : ∀ f ∈ fs, IsSpelled f.2) :
    SpellsFields ((k, v) :: fs) (newline level ++ (stringChars k ++ ':' :: ' ' :: (chars level v ++
      (fieldsChars level fs ++ newline outer)))) := by
  induction fs generalizing k v with
  | nil =>
    rw [fieldsChars, List.nil_append]
    exact .last (hv.field level k (areBlank_newline outer))
  | cons f fs ih =>
    obtain ⟨l, w⟩ := f
    rw [List.forall_mem_cons] at h
    have hfields := SpellsFields.more (hv.field level k areBlank_nil) (ih l h.1 h.2)
    simpa only [fieldsChars, List.append_assoc, List.cons_append, List.nil_append] using hfields

theorem isSpelled (v : JsonValue) : IsSpelled v := by
  intro level
  match v with
  | .null => exact .null
  | .bool true => exact .yes
  | .bool false => exact .no
  | .int i => exact .int (spellsInt_decimalInt i)
  | .string s => exact .string (spellsChars_flatMap s.toList)
  | .array [] => exact .emptyArray areBlank_nil
  | .array (w :: ws) =>
    have hws : ∀ x ∈ w :: ws, IsSpelled x := fun x hx => isSpelled x
    have hitems := Spells.array (spellsItems_itemsChars (level + 1) level hws)
    rw [chars]
    simpa only [List.append_assoc, List.cons_append, List.nil_append] using hitems
  | .object [] => exact .emptyObject areBlank_nil
  | .object ((k, w) :: fs) =>
    have hfs : ∀ f ∈ fs, IsSpelled f.2 := fun f hf => isSpelled f.2
    have hfields := Spells.object (spellsFields_fieldsChars (level + 1) level k (isSpelled w) hfs)
    rw [chars]
    simpa only [List.append_assoc, List.cons_append, List.nil_append] using hfields
termination_by sizeOf v
decreasing_by
  · have hsize := List.sizeOf_lt_of_mem hx
    simp only [JsonValue.array.sizeOf_spec]
    omega
  · have hsize := List.sizeOf_lt_of_mem hf
    have hpair : sizeOf f = 1 + sizeOf f.1 + sizeOf f.2 := by cases f; rfl
    simp only [JsonValue.object.sizeOf_spec, List.cons.sizeOf_spec]
    omega
  · simp only [JsonValue.object.sizeOf_spec, List.cons.sizeOf_spec, Prod.mk.sizeOf_spec]
    omega

/-- Every decoder reads a value back from its text. -/
theorem decode_toText {decode : String → Option JsonValue} (hdecode : IsDecoder decode) (v : JsonValue) :
    decode v.toText = some v := by
  have hspaced : SpellsSpaced v ([] ++ (chars 0 v ++ [])) := .mk areBlank_nil (isSpelled v 0) areBlank_nil
  rw [List.nil_append, List.append_nil] at hspaced
  exact hdecode v _ hspaced

theorem ofText?_toText (v : JsonValue) : ofText? v.toText = some v :=
  decode_toText isDecoder_ofText? v

end VideoWall.JsonValue
