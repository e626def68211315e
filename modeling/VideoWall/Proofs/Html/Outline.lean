import VideoWall.Html.Piece

/-!
# The outline of a page

What a reader of a page takes for markup: its tags with their attributes, without the values of these
and without the text between tags. Text from outside is escaped, so it adds no delimiter to a page; where
it stands between tags or in the value of an attribute it is no part of the outline. Main statements:
`filter_charsOf`, `Encloses.refersOnly_charsOf` and `Encloses.outlineFrom_eq`.
-/

namespace VideoWall.Html

/-! ## 1. Escaped text -/

def isDelimiter (c : Char) : Bool :=
  c == '<' || c == '>' || c == '"' || c == '\''

def references : List (List Char) :=
  [['&', 'a', 'm', 'p', ';'], ['&', 'l', 't', ';'], ['&', 'g', 't', ';'], ['&', '#', '3', '4', ';'],
    ['&', '#', '3', '9', ';']]

/-- Whether every ampersand begins a reference. -/
def RefersOnly (cs : List Char) : Prop :=
  ∀ before behind, cs = before ++ '&' :: behind → ∃ r ∈ references, r <+: '&' :: behind

variable {c : Char} {cs xs ys : List Char}

theorem escapeChar_cases (c : Char) :
    escapeChar c ∈ references ∨ escapeChar c = [c] ∧ c ≠ '&' ∧ isDelimiter c = false := by
  unfold escapeChar
  split
  · exact .inl (by decide)
  · exact .inl (by decide)
  · exact .inl (by decide)
  · exact .inl (by decide)
  · exact .inl (by decide)
  · rename_i hamp hlt hgt hquot hapos
    refine .inr ⟨rfl, hamp, ?_⟩
    simp only [isDelimiter, beq_eq_false_iff_ne.mpr hlt, beq_eq_false_iff_ne.mpr hgt,
      beq_eq_false_iff_ne.mpr hquot, beq_eq_false_iff_ne.mpr hapos, Bool.or_false]

theorem isDelimiter_of_mem_escape (h : c ∈ escape cs) : isDelimiter c = false := by
  obtain ⟨d, -, hc⟩ := List.mem_flatMap.mp h
  rcases escapeChar_cases d with href | ⟨heq, -, hplain⟩
  · have hall : references.all (·.all (!isDelimiter ·)) = true := rfl
    have hnot := List.all_eq_true.mp (List.all_eq_true.mp hall _ href) c hc
    simpa using hnot
  · rw [heq, List.mem_singleton] at hc
    rw [hc, hplain]

theorem refersOnly_of_not_mem (h : '&' ∉ cs) : RefersOnly cs := by
  rintro before behind rfl
  simp at h

theorem RefersOnly.append (hxs : RefersOnly xs) (hys : RefersOnly ys) : RefersOnly (xs ++ ys) := by
  intro before behind h
  rcases List.append_eq_append_iff.mp h with ⟨as, -, heq⟩ | ⟨bs, heq, hbs⟩
  · exact hys as behind heq
  · cases bs with
    | nil => exact hys [] behind hbs.symm
    | cons b bs =>
      -- The ampersand stands in the first text, and so does the reference that it begins.
      obtain ⟨rfl, rfl⟩ := List.cons.inj hbs
      obtain ⟨r, hr, hprefix⟩ := hxs before bs heq
      exact ⟨r, hr, hprefix.trans (List.prefix_append _ _)⟩

theorem refersOnly_of_mem_references (h : cs ∈ references) : RefersOnly cs := by
  have honce : ∀ r ∈ references, '&' ∉ r.tail := by decide
  rintro before behind rfl
  cases before with
  | nil => exact ⟨_, h, List.prefix_refl _⟩
  | cons b before =>
    -- Behind its first character a reference has no ampersand.
    have hnot := honce _ h
    simp at hnot

theorem refersOnly_escape (cs : List Char) : RefersOnly (escape cs) := by
  induction cs with
  | nil => exact refersOnly_of_not_mem List.not_mem_nil
  | cons c cs ih =>
    have hhead : RefersOnly (escapeChar c) := by
      rcases escapeChar_cases c with href | ⟨heq, hne, -⟩
      · exact refersOnly_of_mem_references href
      · rw [heq]
        exact refersOnly_of_not_mem (by simpa using hne.symm)
    exact hhead.append ih

/-! ## 2. Reading -/

inductive Context where
  | betweenTags
  | inTag
  | inValue
deriving DecidableEq

def Context.next : Context → Char → Context
  | betweenTags, c => if c == '<' then inTag else betweenTags
  | inTag, c => if c == '>' then betweenTags else if c == '"' then inValue else inTag
  | inValue, c => if c == '"' then inTag else inValue

def Context.isOutline : Context → Char → Bool
  | betweenTags, c => c == '<'
  | inTag, _ => true
  | inValue, c => c == '"'

def Context.after (x : Context) (cs : List Char) : Context :=
  cs.foldl next x

def outlineFrom : Context → List Char → List Char
  | _, [] => []
  | x, c :: cs => if x.isOutline c then c :: outlineFrom (x.next c) cs else outlineFrom (x.next c) cs

def outline (page : List Char) : List Char :=
  outlineFrom .betweenTags page

variable {x y z : Context}

theorem after_append (x : Context) (xs ys : List Char) : x.after (xs ++ ys) = (x.after xs).after ys :=
  List.foldl_append

theorem outlineFrom_append (x : Context) (xs ys : List Char) :
    outlineFrom x (xs ++ ys) = outlineFrom x xs ++ outlineFrom (x.after xs) ys := by
  induction xs generalizing x with
  | nil => rfl
  | cons c xs ih =>
    simp only [List.cons_append, outlineFrom, ih]
    split
    · rfl
    · rfl

theorem next_of_not_delimiter (hx : x ≠ .inTag) (hc : isDelimiter c = false) :
    x.next c = x ∧ x.isOutline c = false := by
  simp only [isDelimiter, Bool.or_eq_false_iff] at hc
  obtain ⟨⟨⟨hlt, -⟩, hquot⟩, -⟩ := hc
  cases x with
  | betweenTags => simp [Context.next, Context.isOutline, hlt]
  | inTag => exact absurd rfl hx
  | inValue => simp [Context.next, Context.isOutline, hquot]

theorem outlineFrom_of_no_delimiters (hx : x ≠ .inTag) (hcs : ∀ c ∈ cs, isDelimiter c = false) :
    x.after cs = x ∧ outlineFrom x cs = [] := by
  induction cs with
  | nil => exact ⟨rfl, rfl⟩
  | cons c cs ih =>
    obtain ⟨hc, hrest⟩ := List.forall_mem_cons.mp hcs
    obtain ⟨hnext, hout⟩ := next_of_not_delimiter hx hc
    obtain ⟨hafter, hnil⟩ := ih hrest
    simp only [Context.after, List.foldl_cons, outlineFrom, hnext, hout]
    exact ⟨hafter, hnil⟩

/-! ## 3. Pieces -/

def Piece.markup? : Piece → Option String
  | markup m => some m
  | text _ => none

/-- The markup of pieces, with gaps where their texts stand. -/
def shape (ps : List Piece) : List (Option String) :=
  ps.map Piece.markup?

/-- Whether pieces take a reader from one place to another so that every text stands between tags or in
the value of an attribute, and no markup has an ampersand. -/
inductive Encloses : Context → List Piece → Context → Prop where
  | nil (x : Context) : Encloses x [] x
  | markup {x y z : Context} {m : String} {ps : List Piece} : '&' ∉ m.toList →
      x.after m.toList = y → Encloses y ps z → Encloses x (.markup m :: ps) z
  | text {x y : Context} {ps : List Piece} (t : String) : x ≠ .inTag → Encloses x ps y →
      Encloses x (.text t :: ps) y

variable {ps qs : List Piece} {m m' : String}

theorem shape_append (ps qs : List Piece) : shape (ps ++ qs) = shape ps ++ shape qs :=
  List.map_append

theorem Encloses.append (hps : Encloses x ps y) (hqs : Encloses y qs z) : Encloses x (ps ++ qs) z := by
  induction hps with
  | nil => exact hqs
  | markup hamp hafter _ ih => exact .markup hamp hafter (ih hqs)
  | text t hx _ ih => exact .text t hx (ih hqs)

theorem Encloses.joined (h : Encloses x (.markup m :: .markup m' :: ps) z) :
    Encloses x (.markup (m ++ m') :: ps) z := by
  cases h with
  | markup hamp hafter h =>
    cases h with
    | markup hamp' hafter' h =>
      -- The second part is read from where the first one ends.
      refine .markup ?_ ?_ h
      · rw [String.toList_append, List.mem_append]
        exact not_or.mpr ⟨hamp, hamp'⟩
      · rw [String.toList_append, after_append, hafter, hafter']

theorem Encloses.literal (y : Context) (hm : m = String.ofList cs)
    (hcs : cs.contains '&' = false ∧ x.after cs = y) (h : Encloses y ps z) :
    Encloses x (.markup m :: ps) z := by
  have hchars : m.toList = cs := by rw [hm, String.toList_ofList]
  refine .markup ?_ ?_ h
  · rw [hchars]
    simpa using hcs.1
  · rw [hchars]
    exact hcs.2

theorem Encloses.whole (hm : m = String.ofList cs) (hcs : cs.contains '&' = false ∧ x.after cs = y) :
    Encloses x [.markup m] y :=
  .literal y hm hcs (.nil y)

theorem Encloses.blank (n : Nat) (hm : m = String.ofList (List.replicate n ' '))
    (h : Encloses .betweenTags ps z) : Encloses .betweenTags (.markup m :: ps) z := by
  have hblank : ∀ c ∈ List.replicate n ' ', c = ' ' := fun c hc => List.eq_of_mem_replicate hc
  refine .literal .betweenTags hm ⟨?_, ?_⟩ h
  · simp
  · have hplain : ∀ c ∈ List.replicate n ' ', isDelimiter c = false := by
      intro c hc
      rw [hblank c hc]
      rfl
    exact (outlineFrom_of_no_delimiters (by nofun) hplain).1

/-! ## 4. Pages -/

theorem filter_charsOf (ps : List Piece) :
    (charsOf ps).filter isDelimiter =
      (shape ps).flatMap fun m => (m.getD "").toList.filter isDelimiter := by
  unfold charsOf shape
  rw [List.filter_flatMap, List.flatMap_map]
  congr 1
  funext p
  cases p with
  | markup m => rfl
  | text t =>
    apply List.filter_eq_nil_iff.mpr
    intro c hc
    rw [isDelimiter_of_mem_escape hc]
    exact Bool.false_ne_true

theorem Encloses.refersOnly_charsOf (h : Encloses x ps y) : RefersOnly (charsOf ps) := by
  induction h with
  | nil => exact refersOnly_of_not_mem List.not_mem_nil
  | markup hamp _ _ ih => exact (refersOnly_of_not_mem hamp).append ih
  | text t _ _ ih => exact (refersOnly_escape t.toList).append ih

theorem outlineFrom_text (hx : x ≠ .inTag) (t : String) (cs : List Char) :
    outlineFrom x ((Piece.text t).chars ++ cs) = outlineFrom x cs := by
  have hplain : ∀ c ∈ (Piece.text t).chars, isDelimiter c = false :=
    fun c hc => isDelimiter_of_mem_escape hc
  obtain ⟨hafter, hnil⟩ := outlineFrom_of_no_delimiters hx hplain
  rw [outlineFrom_append, hafter, hnil, List.nil_append]

/-- Pieces that differ in their texts only have the same outline. -/
theorem Encloses.outlineFrom_eq (h : Encloses x ps y) (hshape : shape qs = shape ps) :
    outlineFrom x (charsOf qs) = outlineFrom x (charsOf ps) := by
  induction h generalizing qs with
  | nil =>
    obtain rfl := List.map_eq_nil_iff.mp hshape
    rfl
  | @markup x y z m ps _ hafter _ ih =>
    obtain ⟨q, qs, rfl, hq, hqs⟩ := List.map_eq_cons_iff.mp hshape
    cases q with
    | text u => cases hq
    | markup n =>
      obtain rfl := Option.some.inj hq
      show outlineFrom x (n.toList ++ charsOf qs) = outlineFrom x (n.toList ++ charsOf ps)
      rw [outlineFrom_append, outlineFrom_append, hafter, ih hqs]
  | text t hx _ ih =>
    obtain ⟨q, qs, rfl, hq, hqs⟩ := List.map_eq_cons_iff.mp hshape
    cases q with
    | markup n => cases hq
    | text u =>
      -- Both texts are passed over, whatever they are.
      show outlineFrom _ ((Piece.text u).chars ++ charsOf qs) = outlineFrom _ ((Piece.text t).chars ++ _)
      rw [outlineFrom_text hx, outlineFrom_text hx]
      exact ih hqs

end VideoWall.Html
