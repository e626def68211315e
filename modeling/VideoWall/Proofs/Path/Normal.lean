import VideoWall.Path

/-!
# Paths in normal form

An absolute path with one slash between its segments, none of which leads nowhere, is its own normal form. Main
statement: `normal_eq_self`.
-/

namespace VideoWall.Path

variable {path : String} {names : List String}

/-! ## 1. Segments -/

structure IsSegment (s : String) : Prop where
  nonempty : s ≠ ""
  leads : s ≠ "."
  whole : '/' ∉ s.toList

/-- Whether a path is absolute and in normal form. It may start with two slashes, which are another root than
one. -/
def IsNormal (path : String) : Prop :=
  ∃ root ∈ ["/", "//"], ∃ names : List String, (∀ s ∈ names, IsSegment s) ∧
    path = root ++ String.intercalate "/" names

def behindRoot (names : List String) : List Char := ['/'].intercalate (names.map String.toList)

def isKept (piece : List Char) : Bool := !piece.isEmpty && piece != ['.']

theorem isKept_toList {s : String} (h : IsSegment s) : isKept s.toList = true := by
  have hnonempty : s.toList ≠ [] := fun hs => h.nonempty (String.toList_eq_nil_iff.mp hs)
  have hleads : s.toList ≠ ['.'] := fun hs => h.leads (String.toList_injective hs)
  simp [isKept, hnonempty, hleads]

theorem filter_behindRoot (h : ∀ s ∈ names, IsSegment s) :
    (Text.splitAt '/' (behindRoot names)).filter isKept = names.map String.toList := by
  have hkept : ∀ piece ∈ names.map String.toList, isKept piece = true := by
    intro piece hpiece
    obtain ⟨s, hs, rfl⟩ := List.mem_map.mp hpiece
    exact isKept_toList (h s hs)
  cases names with
  | nil => rfl
  | cons s names =>
    have hwhole : ∀ piece ∈ (s :: names).map String.toList, '/' ∉ piece := by
      intro piece hpiece
      obtain ⟨t, ht, rfl⟩ := List.mem_map.mp hpiece
      exact (h t ht).whole
    rw [behindRoot, Text.splitAt_intercalate (by simp) hwhole, List.filter_eq_self.mpr hkept]

theorem head_behindRoot (h : ∀ s ∈ names, IsSegment s) : (behindRoot names).head? ≠ some '/' := by
  cases names with
  | nil => simp [behindRoot]
  | cons s names =>
    have hs := h s List.mem_cons_self
    cases hchars : s.toList with
    | nil => exact absurd (String.toList_eq_nil_iff.mp hchars) hs.nonempty
    | cons c cs =>
      have hne : c ≠ '/' := by
        rintro rfl
        exact hs.whole (by simp [hchars])
      cases names with
      | nil => simpa [behindRoot, hchars] using hne
      | cons t names => simpa [behindRoot, List.intercalate_cons_cons, hchars] using hne

/-! ## 2. Paths -/

theorem rootOf_eq {root : String} (hroot : root ∈ ["/", "//"]) {rest : List Char}
    (hpath : path.toList = root.toList ++ rest) (hrest : rest.head? ≠ some '/') : rootOf path = root := by
  rw [List.mem_cons, List.mem_singleton] at hroot
  rw [rootOf, hpath]
  rcases hroot with rfl | rfl
  · rw [show "/".toList = ['/'] from rfl]
    split <;> grind
  · rw [show "//".toList = ['/', '/'] from rfl]
    split <;> grind

theorem segments_eq {root : String} (hroot : root ∈ ["/", "//"]) (hnames : ∀ s ∈ names, IsSegment s)
    (hpath : path.toList = root.toList ++ behindRoot names) : segments path = names := by
  -- A slash at the start of a text ends an empty piece, which is not kept.
  have hslash : ∀ cs : List Char, (Text.splitAt '/' ('/' :: cs)).filter isKept = (Text.splitAt '/' cs).filter isKept :=
    fun cs => rfl
  have hkept : (Text.splitAt '/' path.toList).filter isKept = names.map String.toList := by
    rw [hpath, ← filter_behindRoot hnames]
    rw [List.mem_cons, List.mem_singleton] at hroot
    rcases hroot with rfl | rfl
    · exact hslash _
    · exact (hslash _).trans (hslash _)
  change ((Text.splitAt '/' path.toList).filter isKept).map String.ofList = names
  rw [hkept]
  simp

theorem normal_eq_self (h : IsNormal path) : isAbsolute path = true ∧ normal path = path := by
  obtain ⟨root, hroot, names, hnames, hpath⟩ := h
  have hchars : path.toList = root.toList ++ behindRoot names := by
    rw [hpath, String.toList_append, String.toList_intercalate]
    rfl
  have hslash : ∃ rest, root.toList = '/' :: rest := by
    rw [List.mem_cons, List.mem_singleton] at hroot
    rcases hroot with rfl | rfl
    · exact ⟨[], rfl⟩
    · exact ⟨['/'], rfl⟩
  obtain ⟨rest, hrest⟩ := hslash
  have hne : path.isEmpty = false := by
    rw [← Bool.not_eq_true, String.isEmpty_iff, ← String.toList_eq_nil_iff, hchars, hrest]
    exact List.cons_ne_nil _ _
  constructor
  · rw [isAbsolute, hchars, hrest]
    rfl
  · rw [normal, textFrom, segments_eq hroot hnames hchars, rootOf_eq hroot hchars (head_behindRoot hnames), ← hpath]
    rw [hne]
    rfl

end VideoWall.Path
