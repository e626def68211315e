/-!
# Replacement

Substitution of the occurrences of one text by another, from left to right and without overlap, and
the cutting of a text at a separator.
-/

namespace VideoWall.Text

/-- Substitutes `sub` for each occurrence of `pattern`, after skipping `skip` characters. -/
def replaceSkipping (pattern sub : List Char) : (skip : Nat) → List Char → List Char
  | _, [] => []
  | k + 1, _ :: cs => replaceSkipping pattern sub k cs
  | 0, c :: cs =>
    if pattern.isPrefixOf (c :: cs) then
      sub ++ replaceSkipping pattern sub (pattern.length - 1) cs
    else c :: replaceSkipping pattern sub 0 cs

/-- Substitutes `sub` for each occurrence of a non-empty `pattern`, scanning from the left and going
on behind each occurrence. -/
def replaceAll (pattern sub cs : List Char) : List Char :=
  replaceSkipping pattern sub 0 cs

def occurs (pattern : List Char) : List Char → Bool
  | [] => pattern.isEmpty
  | c :: cs => pattern.isPrefixOf (c :: cs) || occurs pattern cs

/-- The pieces of a text between the occurrences of a separator; always at least one. -/
def splitAt (sep : Char) : List Char → List (List Char)
  | [] => [[]]
  | c :: cs =>
    if c == sep then [] :: splitAt sep cs
    else match splitAt sep cs with
      | [] => [[c]]
      | piece :: pieces => (c :: piece) :: pieces

/-- What stands before and behind the first character of a kind; nothing without one. -/
def cutAt? (p : Char → Bool) (cs : List Char) : Option (List Char × List Char) :=
  match cs.dropWhile (!p ·) with
  | [] => none
  | _ :: rest => some (cs.takeWhile (!p ·), rest)

def cutAtText? (pattern : List Char) : List Char → Option (List Char × List Char)
  | [] => if pattern.isEmpty then some ([], []) else none
  | c :: cs =>
    if pattern.isPrefixOf (c :: cs) then some ([], (c :: cs).drop pattern.length)
    else (cutAtText? pattern cs).map fun (before, behind) => (c :: before, behind)

def dropStart? : (start : List Char) → List Char → Option (List Char)
  | [], cs => some cs
  | _ :: _, [] => none
  | p :: ps, c :: cs => if p == c then dropStart? ps cs else none

def asciiLower (c : Char) : Char :=
  if 0x41 ≤ c.toNat && c.toNat ≤ 0x5A then Char.ofNat (c.toNat + 0x20) else c

def isAsciiLetter (c : Char) : Bool :=
  (0x41 ≤ c.toNat && c.toNat ≤ 0x5A) || (0x61 ≤ c.toNat && c.toNat ≤ 0x7A)

theorem splitAt_of_not_mem {sep : Char} {cs : List Char} (h : sep ∉ cs) : splitAt sep cs = [cs] := by
  induction cs with
  | nil => rfl
  | cons c cs ih =>
    rw [List.mem_cons, not_or] at h
    rw [splitAt, if_neg (by simpa using Ne.symm h.1), ih h.2]

theorem splitAt_append_cons {sep : Char} {cs : List Char} (h : sep ∉ cs) (rest : List Char) :
    splitAt sep (cs ++ sep :: rest) = cs :: splitAt sep rest := by
  induction cs with
  | nil => simp [splitAt]
  | cons c cs ih =>
    rw [List.mem_cons, not_or] at h
    rw [List.cons_append, splitAt, if_neg (by simpa using Ne.symm h.1), ih h.2]

theorem splitAt_intercalate {sep : Char} {pieces : List (List Char)} (hne : pieces ≠ [])
    (h : ∀ piece ∈ pieces, sep ∉ piece) : splitAt sep ([sep].intercalate pieces) = pieces := by
  induction pieces with
  | nil => exact absurd rfl hne
  | cons piece pieces ih =>
    rw [List.forall_mem_cons] at h
    cases pieces with
    | nil => rw [List.intercalate_singleton, splitAt_of_not_mem h.1]
    | cons next pieces =>
      rw [List.intercalate_cons_cons, List.append_assoc, List.singleton_append, splitAt_append_cons h.1,
        ih (List.cons_ne_nil _ _) h.2]

theorem mem_of_mem_intercalate {sep : List Char} {pieces : List (List Char)} {c : Char}
    (h : c ∈ sep.intercalate pieces) : c ∈ sep ∨ ∃ piece ∈ pieces, c ∈ piece := by
  induction pieces with
  | nil => cases h
  | cons piece pieces ih =>
    cases pieces with
    | nil =>
      rw [List.intercalate_singleton] at h
      exact .inr ⟨piece, List.mem_singleton_self piece, h⟩
    | cons next pieces =>
      rw [List.intercalate_cons_cons, List.mem_append, List.mem_append] at h
      rcases h with (h | h) | h
      · exact .inr ⟨piece, List.mem_cons_self, h⟩
      · exact .inl h
      · rcases ih h with h | ⟨other, hother, h⟩
        · exact .inl h
        · exact .inr ⟨other, List.mem_cons_of_mem _ hother, h⟩

theorem cutAt?_append_cons {p : Char → Bool} {cs : List Char} {c : Char} (h : ∀ x ∈ cs, p x = false)
    (hc : p c = true) (rest : List Char) : cutAt? p (cs ++ c :: rest) = some (cs, rest) := by
  have hcs : ∀ x ∈ cs, (!p x) = true := by
    intro x hx
    rw [h x hx]
    rfl
  rw [cutAt?, List.dropWhile_append_of_pos hcs, List.takeWhile_append_of_pos hcs,
    List.dropWhile_cons_of_neg (by simp [hc]), List.takeWhile_cons_of_neg (by simp [hc]), List.append_nil]

theorem dropStart?_append (ps cs : List Char) : dropStart? ps (ps ++ cs) = some cs := by
  induction ps with
  | nil => rfl
  | cons p ps ih => simp [dropStart?, ih]

theorem dropStart?_eq_some_iff {ps cs rest : List Char} :
    dropStart? ps cs = some rest ↔ cs = ps ++ rest := by
  constructor
  · intro h
    induction ps generalizing cs with
    | nil => exact Option.some.inj h
    | cons p ps ih =>
      cases cs with
      | nil => cases h
      | cons c cs =>
        rw [dropStart?] at h
        split at h
        · rename_i hpc
          rw [ih h, beq_iff_eq.mp hpc, List.cons_append]
        · cases h
  · rintro rfl
    exact dropStart?_append ps rest

end VideoWall.Text
