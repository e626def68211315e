import VideoWall.Text.Utf8

/-!
# Text survives UTF-8

The bytes of a character read as that character, whatever stands behind them; so a text is read back from its
bytes, and none of them is broken. Main statement: `decodeLossy_encode`.
-/

namespace VideoWall.Text.Utf8

theorem toNat_toUInt8 {n : Nat} (h : n < 256) : n.toUInt8.toNat = n :=
  Nat.mod_eq_of_lt h

theorem readBytes_next {acc low high x : Nat} (need : Nat) (hx : x < 0x40) (hlow : low ≤ 0x80 + x)
    (hhigh : 0x80 + x ≤ high) (bs : List UInt8) :
    readBytes (need + 1) acc low high ((0x80 + x).toUInt8 :: bs) =
      if need = 0 then some (Char.ofNat (acc * 64 + x)) :: readBytes 0 0 0 0 bs
      else readBytes need (acc * 64 + x) 0x80 0xBF bs := by
  have hbyte : (0x80 + x).toUInt8.toNat = 0x80 + x := toNat_toUInt8 (by omega)
  rw [readBytes, hbyte, if_pos (by simp [hlow, hhigh])]
  simp only [Nat.add_sub_cancel_left]

theorem readBytes_lead {b need acc low high : Nat} (hb : 0x80 ≤ b) (hb' : b < 256)
    (hlead : lead? b.toUInt8 = some (need, acc, low, high)) (bs : List UInt8) :
    readBytes 0 0 0 0 (b.toUInt8 :: bs) = readBytes need acc low high bs := by
  rw [readBytes, toNat_toUInt8 hb', if_neg (by omega), hlead]

theorem lead?_two {x : Nat} (hlow : 2 ≤ x) (hhigh : x < 0x20) :
    lead? (0xC0 + x).toUInt8 = some (1, x, 0x80, 0xBF) := by
  rw [lead?, toNat_toUInt8 (by omega)]
  simp only [Nat.add_sub_cancel_left]
  rw [if_pos (by simp; omega)]

/-- The first byte of three keeps out long forms and surrogates by the range of the second. -/
theorem lead?_three {n : Nat} (hlow : 0x800 ≤ n) (hhigh : n < 0x10000) (hscalar : n < 0xD800 ∨ 0xDFFF < n) :
    ∃ low high, lead? (0xE0 + n / 4096).toUInt8 = some (2, n / 4096, low, high) ∧
      low ≤ 0x80 + n / 64 % 64 ∧ 0x80 + n / 64 % 64 ≤ high := by
  rw [lead?, toNat_toUInt8 (by omega)]
  simp only [Bool.and_eq_true, decide_eq_true_eq, beq_iff_eq]
  rw [if_neg (by omega)]
  -- Behind 0xE0 small values are kept out, behind 0xED surrogates.
  by_cases hfirst : n / 4096 = 0
  · rw [if_pos (by omega), hfirst]
    exact ⟨_, _, rfl, by omega, by omega⟩
  by_cases hsurrogate : n / 4096 = 0xD
  · rw [if_neg (by omega), if_pos (by omega), hsurrogate]
    exact ⟨_, _, rfl, by omega, by omega⟩
  · rw [if_neg (by omega), if_neg (by omega), if_pos (by omega), Nat.add_sub_cancel_left]
    exact ⟨_, _, rfl, by omega, by omega⟩

theorem lead?_four {n : Nat} (hlow : 0x10000 ≤ n) (hhigh : n < 0x110000) :
    ∃ low high, lead? (0xF0 + n / 262144).toUInt8 = some (3, n / 262144, low, high) ∧
      low ≤ 0x80 + n / 4096 % 64 ∧ 0x80 + n / 4096 % 64 ≤ high := by
  rw [lead?, toNat_toUInt8 (by omega)]
  simp only [Bool.and_eq_true, decide_eq_true_eq, beq_iff_eq]
  rw [if_neg (by omega), if_neg (by omega), if_neg (by omega), if_neg (by omega)]
  -- Behind 0xF0 small values are kept out, behind 0xF4 large ones.
  by_cases hfirst : n / 262144 = 0
  · rw [if_pos (by omega), hfirst]
    exact ⟨_, _, rfl, by omega, by omega⟩
  by_cases hlast : n / 262144 = 4
  · rw [if_neg (by omega), if_neg (by omega), if_pos (by omega), hlast]
    exact ⟨_, _, rfl, by omega, by omega⟩
  · rw [if_neg (by omega), if_pos (by omega), Nat.add_sub_cancel_left]
    exact ⟨_, _, rfl, by omega, by omega⟩

theorem readBytes_encodeChar (c : Char) (bs : List UInt8) :
    readBytes 0 0 0 0 (encodeChar c ++ bs) = some c :: readBytes 0 0 0 0 bs := by
  have hscalar : c.toNat < 0xD800 ∨ 0xDFFF < c.toNat ∧ c.toNat < 0x110000 := c.valid
  -- One case for each number of bytes: the bits of the value are those of the bytes, six at a time.
  by_cases hone : c.toNat < 0x80
  · exact readBytes_ascii c hone bs
  by_cases htwo : c.toNat < 0x800
  · have hvalue : c.toNat / 64 * 64 + c.toNat % 64 = c.toNat := by omega
    rw [encodeChar, if_neg hone, if_pos htwo, List.cons_append, List.cons_append, List.nil_append,
      readBytes_lead (by omega) (by omega) (lead?_two (by omega) (by omega)),
      readBytes_next 0 (by omega) (by omega) (by omega), if_pos rfl, hvalue, Char.ofNat_toNat]
  by_cases hthree : c.toNat < 0x10000
  · obtain ⟨low, high, hlead, hlow, hhigh⟩ := lead?_three (by omega) hthree (by omega)
    have hvalue : (c.toNat / 4096 * 64 + c.toNat / 64 % 64) * 64 + c.toNat % 64 = c.toNat := by omega
    rw [encodeChar, if_neg hone, if_neg htwo, if_pos hthree]
    simp only [List.cons_append, List.nil_append]
    rw [readBytes_lead (by omega) (by omega) hlead, readBytes_next 1 (by omega) hlow hhigh, if_neg (by decide),
      readBytes_next 0 (by omega) (by omega) (by omega), if_pos rfl, hvalue, Char.ofNat_toNat]
  · obtain ⟨low, high, hlead, hlow, hhigh⟩ := lead?_four (n := c.toNat) (by omega) (by omega)
    have hvalue : ((c.toNat / 262144 * 64 + c.toNat / 4096 % 64) * 64 + c.toNat / 64 % 64) * 64 +
        c.toNat % 64 = c.toNat := by omega
    rw [encodeChar, if_neg hone, if_neg htwo, if_neg hthree]
    simp only [List.cons_append, List.nil_append]
    rw [readBytes_lead (by omega) (by omega) hlead, readBytes_next 2 (by omega) hlow hhigh, if_neg (by decide),
      readBytes_next 1 (by omega) (by omega) (by omega), if_neg (by decide),
      readBytes_next 0 (by omega) (by omega) (by omega), if_pos rfl, hvalue, Char.ofNat_toNat]

theorem read_encode (cs : List Char) : read (encode cs) = cs.map some := by
  induction cs with
  | nil => rfl
  | cons c cs ih =>
    rw [encode, List.flatMap_cons, read, readBytes_encodeChar, List.map_cons, ← ih]
    rfl

theorem decodeLossy_encode (cs : List Char) : decodeLossy (encode cs) = cs := by
  rw [decodeLossy, read_encode, List.map_map]
  exact List.map_id cs

end VideoWall.Text.Utf8
