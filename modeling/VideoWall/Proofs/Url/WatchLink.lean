import VideoWall.Proofs.Text.Replacing
import VideoWall.Proofs.Url.Query
import VideoWall.VideoLink

/-!
# The identifier in a link

A link to the page of a video carries its identifier among other parameters. Whatever the parameters and the
fragment of the link are, a template shows the first identifier that is not empty. Main statement:
`template_shows_first_given_id`.
-/

namespace VideoWall

namespace Url

/-! ## 1. The query of a link -/

def watchPage : String := "https://www.youtube.com/watch?"

def fragmentChars : Option String → List Char
  | some f => '#' :: f.toList
  | none => []

def isDropped (c : Char) : Bool := c == '\t' || c == '\r' || c == '\n'

variable {cs : List Char} {fragment : Option String}

theorem cleaned_watchPage (hcs : ∀ c ∈ cs, isDropped c = false) (fragment : Option String) :
    ∃ fragment', cleaned (watchPage.toList ++ (cs ++ fragmentChars fragment)) =
      watchPage.toList ++ (cs ++ fragmentChars fragment') := by
  have hkeep : ∀ c ∈ cs, (c != '\t' && c != '\r' && c != '\n') = true := by
    intro c hc
    have h := hcs c hc
    simp only [isDropped, Bool.or_eq_false_iff] at h
    simp only [bne, h, Bool.not_false, Bool.and_self]
  -- The page begins with a letter and holds nothing that is dropped.
  change ∃ fragment', watchPage.toList ++ (cs ++ fragmentChars fragment).filter _ = _
  rw [List.filter_append, List.filter_eq_self.mpr hkeep]
  cases fragment with
  | none => exact ⟨none, rfl⟩
  | some f =>
    refine ⟨some (String.ofList (f.toList.filter fun c => c != '\t' && c != '\r' && c != '\n')), ?_⟩
    rw [fragmentChars, fragmentChars, String.toList_ofList]
    rfl

theorem queryPart_watchPage (hcs : '#' ∉ cs) :
    queryPart ("/watch?".toList ++ (cs ++ fragmentChars fragment)) = cs := by
  have hkeep : ∀ c ∈ cs, (c != '#') = true := by
    intro c hc
    rw [bne_iff_ne]
    rintro rfl
    exact hcs hc
  have htake : (cs ++ fragmentChars fragment).takeWhile (· != '#') = cs := by
    rw [List.takeWhile_append_of_pos hkeep]
    cases fragment with
    | none => exact List.append_nil cs
    | some f =>
      rw [fragmentChars, List.takeWhile_cons_of_neg (by decide)]
      exact List.append_nil cs
  change (cs ++ fragmentChars fragment).takeWhile (· != '#') = cs
  exact htake

theorem query_watchPage (hcs : ∀ c ∈ cs, isDropped c = false ∧ c ≠ '#') (fragment : Option String) :
    query (watchPage.toList ++ (cs ++ fragmentChars fragment)) = .ok cs := by
  obtain ⟨fragment', hcleaned⟩ := cleaned_watchPage (fun c hc => (hcs c hc).1) fragment
  have hsharp : '#' ∉ cs := fun h => (hcs _ h).2 rfl
  have hhost : takeHost (withoutScheme (watchPage.toList ++ (cs ++ fragmentChars fragment'))) =
      ("www.youtube.com".toList, "/watch?".toList ++ (cs ++ fragmentChars fragment')) := rfl
  rw [query, hcleaned, hhost]
  change Except.ok (queryPart _) = _
  rw [queryPart_watchPage hsharp]

end Url

namespace VideoLink

/-! ## 2. The identifier of a link -/

/-- The link to a video with the given parameters, and with a fragment if there is one. -/
def watchLink (params : List (String × String)) (fragment : Option String) : String :=
  String.ofList (Url.watchPage.toList ++ (Url.queryOf (params.map fun p => (p.1.toList, p.2.toList)) ++
    Url.fragmentChars fragment))

def givesId (p : String × String) : Bool := p.1 == idParameter && !p.2.isEmpty

/-- The identifier that the first such parameter gives; empty if there is none. -/
def givenId (params : List (String × String)) : String :=
  ((params.find? givesId).map Prod.snd).getD ""

variable {params : List (String × String)}

theorem firstValue_params (params : List (String × String)) :
    Url.firstValue idParameter.toList (Url.queryOf (params.map fun p => (p.1.toList, p.2.toList))) =
      (givenId params).toList := by
  have hgives : ((fun p : List Char × List Char => p.1 == idParameter.toList && !p.2.isEmpty) ∘
      fun p : String × String => (p.1.toList, p.2.toList)) = givesId := by
    funext p
    have hname : (p.1.toList == idParameter.toList) = (p.1 == idParameter) := by
      rw [Bool.eq_iff_iff, beq_iff_eq, beq_iff_eq, String.toList_inj]
    have hvalue : p.2.toList.isEmpty = p.2.isEmpty := by
      rw [Bool.eq_iff_iff, List.isEmpty_iff, String.isEmpty_iff, String.toList_eq_nil_iff]
    simp only [Function.comp, hname, hvalue, givesId]
  rw [Url.firstValue_queryOf, List.find?_map, hgives, givenId]
  cases params.find? givesId <;> rfl

theorem id_watchLink (params : List (String × String)) (fragment : Option String) :
    id (watchLink params fragment).toList idParameter.toList = .ok (givenId params).toList := by
  have hclean : ∀ c ∈ Url.queryOf (params.map fun p => (p.1.toList, p.2.toList)),
      Url.isDropped c = false ∧ c ≠ '#' := by
    intro c hc
    have hno : ∀ d ∈ ['\t', '\r', '\n', '#'], c ≠ d := by
      rintro d hd rfl
      revert hc
      simp only [List.mem_cons, List.not_mem_nil, or_false] at hd
      rcases hd with rfl | rfl | rfl | rfl
      all_goals exact Url.not_mem_queryOf rfl (by decide) _
    simp only [List.forall_mem_cons] at hno
    simp only [Url.isDropped, Bool.or_eq_false_iff, beq_eq_false_iff_ne]
    exact ⟨⟨⟨hno.1, hno.2.1⟩, hno.2.2.1⟩, hno.2.2.2.1⟩
  rw [id, watchLink, String.toList_ofList, Url.query_watchPage hclean fragment, ← firstValue_params]
  rfl

theorem viaTemplate_watchLink {template : String} (htemplate : template ≠ "") (params : List (String × String))
    (fragment : Option String) :
    viaTemplate (watchLink params fragment) template idParameter =
      pure (String.ofList (fill template.toList (givenId params).toList)) := by
  rw [viaTemplate, if_neg (by simpa using htemplate), through, id_watchLink]
  rfl

/-- A template that is not empty shows the identifier that a link gives, in the place of every mark. The
parameters of the link may be any texts, and it may have a fragment; another link that gives the same
identifier shows the same. -/
theorem template_shows_first_given_id (params : List (String × String)) (fragment : Option String)
    (template : String) (htemplate : template ≠ "") :
    ∃ url, viaTemplate (watchLink params fragment) template idParameter = pure url ∧
      Text.Replaces mark (givenId params).toList template.toList url.toList ∧
      (∀ out, Text.Replaces mark (givenId params).toList template.toList out → out = url.toList) ∧
      ∀ (params' : List (String × String)) (fragment' : Option String), givenId params' = givenId params →
        viaTemplate (watchLink params' fragment') template idParameter = pure url := by
  have hmark : mark ≠ [] := by decide
  have hchars : (String.ofList (fill template.toList (givenId params).toList)).toList =
      Text.replaceAll mark (givenId params).toList template.toList := String.toList_ofList
  refine ⟨_, viaTemplate_watchLink htemplate params fragment, (Text.replaces_iff hmark).mpr hchars, ?_, ?_⟩
  · intro out hout
    rw [(Text.replaces_iff hmark).mp hout, hchars]
  · intro params' fragment' hsame
    rw [viaTemplate_watchLink htemplate, hsame]

def oddParameters : List (String × String) :=
  [("vv", "x"), ("v", ""), ("list", "a&v=b"), ("v", "a=&#+%\u00e9"), ("v", "second")]

theorem odd_parameters_show_one_id :
    "\x7bVIDEO-ID\x7d?\x7b\x7bVIDEO-ID\x7d\x7d" ≠ "" ∧
    viaTemplate (watchLink oddParameters (some "v=third")) "\x7bVIDEO-ID\x7d?\x7b\x7bVIDEO-ID\x7d\x7d" idParameter =
      pure "a=&#+%\u00e9?\x7ba=&#+%\u00e9\x7d" := by
  have htemplate : "\x7bVIDEO-ID\x7d?\x7b\x7bVIDEO-ID\x7d\x7d" ≠ "" := by decide
  obtain ⟨url, hurl, -, honly, -⟩ := template_shows_first_given_id oddParameters (some "v=third") _ htemplate
  refine ⟨htemplate, ?_⟩
  have hshown : Text.Replaces mark (givenId oddParameters).toList
      "\x7bVIDEO-ID\x7d?\x7b\x7bVIDEO-ID\x7d\x7d".toList "a=&#+%\u00e9?\x7ba=&#+%\u00e9\x7d".toList :=
    (Text.replaces_iff (by decide)).mpr (by decide)
  rw [hurl, String.toList_inj.mp (honly _ hshown)]

end VideoLink

end VideoWall
