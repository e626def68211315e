import VideoWall.Proofs.Text.Utf8
import VideoWall.Url.Query

/-!
# Parameters survive a query

An escaped text has no delimiter of a query in it and is read back as it was; so the parameters that a query
was put together from are found in it again, but for those without a value. Main statement:
`parameters_queryOf`.
-/

namespace VideoWall.Url

variable {c : Char} {cs : List Char}

/-! ## 1. Escapes -/

theorem hexValue?_upperHexChar {d : Nat} (h : d < 16) : Text.hexValue? (upperHexChar d) = some d := by
  have all : ∀ d < 16, Text.hexValue? (upperHexChar d) = some d := by decide
  exact all d h

theorem isUnreserved_upperHexChar {d : Nat} (h : d < 16) : isUnreserved (upperHexChar d) = true := by
  have all : ∀ d < 16, isUnreserved (upperHexChar d) = true := by decide
  exact all d h

theorem ascii_of_isUnreserved (h : isUnreserved c = true) : c.toNat < 0x80 := by
  simp only [isUnreserved, Text.isAsciiLetter, Text.isAsciiDigit, Bool.or_eq_true, Bool.and_eq_true,
    decide_eq_true_eq, beq_iff_eq] at h
  rcases h with ((((h | h) | rfl) | rfl) | rfl) | rfl
  · omega
  · omega
  all_goals decide

theorem unreserved_of_mem_escape (h : c ∈ escape cs) : isUnreserved c = true ∨ c = '%' := by
  obtain ⟨x, -, hc⟩ := List.mem_flatMap.mp h
  unfold escapeChar at hc
  split at hc
  · rename_i hx
    rw [List.mem_singleton] at hc
    exact .inl (hc ▸ hx)
  · obtain ⟨b, -, hc⟩ := List.mem_flatMap.mp hc
    have hb : b.toNat < 256 := b.toNat_lt
    simp only [escapeByte, List.mem_cons, List.not_mem_nil, or_false] at hc
    rcases hc with rfl | rfl | rfl
    · exact .inr rfl
    · exact .inl (isUnreserved_upperHexChar (by omega))
    · exact .inl (isUnreserved_upperHexChar (by omega))

theorem ascii_of_mem_escape (h : c ∈ escape cs) : c.toNat < 0x80 := by
  rcases unreserved_of_mem_escape h with h | rfl
  · exact ascii_of_isUnreserved h
  · decide

theorem not_mem_escape (hc : isUnreserved c = false) (hpercent : c ≠ '%') : c ∉ escape cs := by
  intro h
  rcases unreserved_of_mem_escape h with h | h
  · rw [hc] at h
    cases h
  · exact hpercent h

/-! ## 2. Reading escapes -/

theorem unescapeBytes_escapeByte (b : UInt8) (rest : List Char) :
    unescapeBytes (escapeByte b ++ rest) = b :: unescapeBytes rest := by
  have hb : b.toNat < 256 := b.toNat_lt
  have hvalue : 16 * (b.toNat / 16) + b.toNat % 16 = b.toNat := by omega
  simp only [escapeByte, List.cons_append, List.nil_append]
  rw [unescapeBytes, hexValue?_upperHexChar (by omega), hexValue?_upperHexChar (by omega)]
  simp only [hvalue, UInt8.ofNat_toNat]

theorem unescapeBytes_escapeBytes (bs : List UInt8) (rest : List Char) :
    unescapeBytes (bs.flatMap escapeByte ++ rest) = bs ++ unescapeBytes rest := by
  induction bs with
  | nil => rfl
  | cons b bs ih => rw [List.flatMap_cons, List.append_assoc, unescapeBytes_escapeByte, ih, List.cons_append]

theorem unescapeBytes_cons (h : c ≠ '%') (rest : List Char) :
    unescapeBytes (c :: rest) = c.toNat.toUInt8 :: unescapeBytes rest := by
  rw [unescapeBytes.eq_2]
  rintro a b cs rfl
  exact absurd rfl h

theorem unescapeBytes_escapeChar (c : Char) (rest : List Char) :
    unescapeBytes (escapeChar c ++ rest) = Text.Utf8.encodeChar c ++ unescapeBytes rest := by
  unfold escapeChar
  split
  · rename_i hc
    have hpercent : c ≠ '%' := by
      rintro rfl
      cases hc
    rw [Text.Utf8.encodeChar, if_pos (ascii_of_isUnreserved hc)]
    exact unescapeBytes_cons hpercent rest
  · exact unescapeBytes_escapeBytes _ rest

theorem unescapeBytes_escape (cs : List Char) : unescapeBytes (escape cs) = Text.Utf8.encode cs := by
  induction cs with
  | nil => rfl
  | cons c cs ih => rw [escape, List.flatMap_cons, unescapeBytes_escapeChar, ← escape, ih]; rfl

theorem unescapeRuns_of_ascii (run : List Char) (h : ∀ c ∈ cs, c.toNat < 0x80) :
    unescapeRuns run cs = Text.Utf8.decodeLossy (unescapeBytes (run ++ cs)) := by
  induction cs generalizing run with
  | nil => rw [unescapeRuns, List.append_nil]
  | cons c cs ih =>
    rw [List.forall_mem_cons] at h
    rw [unescapeRuns, if_pos h.1, ih _ h.2, List.append_assoc, List.singleton_append]

theorem unescape_escape (cs : List Char) : unescape (escape cs) = cs := by
  -- A plus sign is escaped, so none of the signs in an escaped text is a space.
  have hplus : (escape cs).map (fun c => if c == '+' then ' ' else c) = (escape cs).map id := by
    apply List.map_congr_left
    intro c hc
    rw [if_neg, id]
    rw [beq_iff_eq]
    rintro rfl
    exact not_mem_escape rfl (by decide) hc
  rw [unescape, hplus, List.map_id, unescapeRuns_of_ascii [] fun c => ascii_of_mem_escape, List.nil_append,
    unescapeBytes_escape, Text.Utf8.decodeLossy_encode]

theorem escape_eq_nil : escape cs = [] ↔ cs = [] := by
  constructor
  · intro h
    rw [← unescape_escape cs, h]
    rfl
  · rintro rfl
    rfl

/-! ## 3. Parameters -/

theorem parameter?_escape (name value : List Char) :
    parameter? (escape name ++ '=' :: escape value) =
      if value.isEmpty then none else some (name, value) := by
  -- The first equals sign is the one behind the name.
  have hname : ∀ c ∈ escape name, (c == '=') = false := by
    intro c hc
    rw [beq_eq_false_iff_ne]
    rintro rfl
    exact not_mem_escape rfl (by decide) hc
  have hempty : (escape value).isEmpty = value.isEmpty := by
    rw [Bool.eq_iff_iff, List.isEmpty_iff, List.isEmpty_iff, escape_eq_nil]
  rw [parameter?, Text.cutAt?_append_cons hname rfl]
  simp only [hempty, unescape_escape]

theorem filterMap_parameter? (params : List (List Char × List Char)) :
    params.filterMap (fun p => parameter? (escape p.1 ++ '=' :: escape p.2)) =
      params.filter fun p => !p.2.isEmpty := by
  induction params with
  | nil => rfl
  | cons p params ih =>
    rw [List.filterMap_cons, parameter?_escape, ih]
    by_cases hp : p.2.isEmpty = true
    · rw [if_pos hp, List.filter_cons_of_neg (by simp [hp])]
    · rw [if_neg hp, List.filter_cons_of_pos (by simp [hp])]

/-- The parameters of a query are those that it lists, without the ones whose value is empty. -/
theorem parameters_queryOf (params : List (List Char × List Char)) :
    parameters (queryOf params) = params.filter fun p => !p.2.isEmpty := by
  by_cases hne : params = []
  · rw [hne]
    rfl
  -- The mark between the pieces stands in none of them.
  have hpieces : ∀ piece ∈ params.map (fun p => escape p.1 ++ '=' :: escape p.2), '&' ∉ piece := by
    intro piece hpiece
    obtain ⟨p, -, rfl⟩ := List.mem_map.mp hpiece
    simp only [List.mem_append, List.mem_cons, not_or]
    exact ⟨not_mem_escape rfl (by decide), by decide, not_mem_escape rfl (by decide)⟩
  rw [parameters, queryOf, Text.splitAt_intercalate (by simpa using hne) hpieces, List.filterMap_map]
  exact filterMap_parameter? params

theorem not_mem_queryOf (hc : isUnreserved c = false) (hmark : c ∉ ['%', '=', '&'])
    (params : List (List Char × List Char)) : c ∉ queryOf params := by
  simp only [List.mem_cons, List.not_mem_nil, or_false, not_or] at hmark
  obtain ⟨hpercent, hequals, hand⟩ := hmark
  intro h
  rcases Text.mem_of_mem_intercalate h with h | ⟨piece, hpiece, h⟩
  · exact hand (List.mem_singleton.mp h)
  · obtain ⟨p, -, rfl⟩ := List.mem_map.mp hpiece
    rcases List.mem_append.mp h with h | h
    · exact not_mem_escape hc hpercent h
    · rcases List.mem_cons.mp h with h | h
      · exact hequals h
      · exact not_mem_escape hc hpercent h

theorem firstValue_queryOf (name : List Char) (params : List (List Char × List Char)) :
    firstValue name (queryOf params) =
      ((params.find? fun p => p.1 == name && !p.2.isEmpty).map Prod.snd).getD [] := by
  have hfind : (params.filter fun p => !p.2.isEmpty).find? (·.1 == name) =
      params.find? fun p => p.1 == name && !p.2.isEmpty := by
    rw [List.find?_filter]
    congr 1
    funext p
    rw [Bool.decide_and, Bool.decide_coe, Bool.decide_coe, Bool.and_comm]
  rw [firstValue, parameters_queryOf, hfind]
  cases params.find? fun p => p.1 == name && !p.2.isEmpty <;> rfl

end VideoWall.Url
