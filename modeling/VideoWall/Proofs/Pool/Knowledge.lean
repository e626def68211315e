import VideoWall.Pool.Steps

/-!
# What the caller of a pool knows

The two lists of a pool are filled in the order in which tasks come back, one place at a time. Main
statements: learning an outcome fills exactly the place of its input (`Knows.learn`), whatever the
order of a batch is (`Knows.foldl_learn`), and once no place is unknown the lists are those of the
outcomes in order (`Knows.eq_ofResults`).
-/

namespace VideoWall.Pool

variable {ε β : Type}

/-- Whether two lists hold the outcomes of all inputs but the unknown ones, each at its place. -/
structure Knows (outcomes : List (TaskOutcome ε β)) (known : Returned ε β) (unknown : Nat → Prop) :
    Prop where
  results_length : known.results.length = outcomes.length
  errors_length : known.errors.length = outcomes.length
  blank : ∀ i < outcomes.length, unknown i →
    known.results[i]? = some none ∧ known.errors[i]? = some none
  filled : ∀ i r, ¬ unknown i → outcomes[i]? = some (.done r) →
    known.results[i]? = some r.toOption ∧ known.errors[i]? = some (error? r)

theorem Knows.congr {outcomes : List (TaskOutcome ε β)} {known : Returned ε β} {p q : Nat → Prop}
    (h : Knows outcomes known p) (hpq : ∀ i, p i ↔ q i) : Knows outcomes known q := by
  rwa [show q = p from funext fun i => propext (hpq i).symm]

theorem knows_blank (outcomes : List (TaskOutcome ε β)) :
    Knows outcomes
      ⟨List.replicate outcomes.length none, List.replicate outcomes.length none⟩
      (· < outcomes.length) where
  results_length := List.length_replicate
  errors_length := List.length_replicate
  blank i hi _ := by simp only [List.getElem?_replicate, if_pos hi, and_self]
  filled i r hn ho := by
    obtain ⟨hi, -⟩ := List.getElem?_eq_some_iff.mp ho
    exact absurd hi hn

theorem set_none_of_blank {γ : Type} {l : List (Option γ)} {i : Nat} (h : l[i]? = some none) :
    l.set i none = l := by
  obtain ⟨hi, hval⟩ := List.getElem?_eq_some_iff.mp h
  rw [← hval]
  exact List.set_getElem_self hi

theorem learn_of_blank {outcomes : List (TaskOutcome ε β)} {known : Returned ε β} {i : Nat}
    {r : Except ε β} (ho : outcomes[i]? = some (.done r))
    (hblank : known.results[i]? = some none ∧ known.errors[i]? = some none) :
    known.learn outcomes i =
      ⟨known.results.set i r.toOption, known.errors.set i (error? r)⟩ := by
  simp only [Returned.learn, ho, Option.bind_some, result?]
  cases r with
  | ok b =>
    show (⟨known.results.set i (some b), known.errors⟩ : Returned ε β) =
      ⟨known.results.set i (some b), known.errors.set i none⟩
    rw [set_none_of_blank hblank.2]
  | error e =>
    show (⟨known.results, known.errors.set i (some e)⟩ : Returned ε β) =
      ⟨known.results.set i none, known.errors.set i (some e)⟩
    rw [set_none_of_blank hblank.1]

theorem Knows.learn {outcomes : List (TaskOutcome ε β)} {known : Returned ε β} {p : Nat → Prop}
    (h : Knows outcomes known p) {i : Nat} {r : Except ε β} (hp : p i)
    (ho : outcomes[i]? = some (.done r)) :
    Knows outcomes (known.learn outcomes i) (fun k => p k ∧ k ≠ i) := by
  obtain ⟨hi, -⟩ := List.getElem?_eq_some_iff.mp ho
  rw [learn_of_blank ho (h.blank i hi hp)]
  refine ⟨?_, ?_, ?_, ?_⟩
  · rw [List.length_set, h.results_length]
  · rw [List.length_set, h.errors_length]
  · intro k hk hpk
    rw [List.getElem?_set_ne (Ne.symm hpk.2), List.getElem?_set_ne (Ne.symm hpk.2)]
    exact h.blank k hk hpk.1
  · intro k r' hpk hr'
    by_cases hki : k = i
    · subst hki
      obtain rfl : r = r' := by simpa [ho] using hr'
      rw [List.getElem?_set_self (by rw [h.results_length]; exact hi),
        List.getElem?_set_self (by rw [h.errors_length]; exact hi)]
      exact ⟨rfl, rfl⟩
    · rw [List.getElem?_set_ne (Ne.symm hki), List.getElem?_set_ne (Ne.symm hki)]
      exact h.filled k r' (fun hpk' => hpk ⟨hpk', hki⟩) hr'

/-- A batch of outcomes fills the places of its inputs, in whatever order they are learnt. -/
theorem Knows.foldl_learn {outcomes : List (TaskOutcome ε β)} {known : Returned ε β}
    {p : Nat → Prop} (h : Knows outcomes known p) (arrived : List Nat) (hnodup : arrived.Nodup)
    (harr : ∀ i ∈ arrived, p i ∧ ∃ r, outcomes[i]? = some (.done r)) :
    Knows outcomes (arrived.foldl (Returned.learn outcomes) known)
      (fun k => p k ∧ k ∉ arrived) := by
  induction arrived generalizing known p with
  | nil =>
    exact h.congr fun i => by simp
  | cons i rest ih =>
    obtain ⟨hnot, hrest⟩ := List.nodup_cons.mp hnodup
    obtain ⟨hp, r, ho⟩ := harr i List.mem_cons_self
    have hstep : ∀ k ∈ rest, (p k ∧ k ≠ i) ∧ ∃ r, outcomes[k]? = some (.done r) := by
      intro k hk
      obtain ⟨hpk, hrk⟩ := harr k (List.mem_cons_of_mem _ hk)
      exact ⟨⟨hpk, fun hki => hnot (hki ▸ hk)⟩, hrk⟩
    rw [List.foldl_cons]
    refine (ih (h.learn hp ho) hrest hstep).congr fun k => ?_
    rw [List.mem_cons, not_or, and_assoc]

/-- Once nothing is unknown, the two lists are those of the results of the tasks, in order. -/
theorem Knows.eq_ofResults {rs : List (Except ε β)} {known : Returned ε β} {p : Nat → Prop}
    (h : Knows (rs.map .done) known p) (hp : ∀ i, ¬ p i) : known = .ofResults rs := by
  have hat : ∀ (i : Nat) (r : Except ε β), rs[i]? = some r →
      known.results[i]? = some r.toOption ∧ known.errors[i]? = some (error? r) := by
    intro i r hr
    exact h.filled i r (hp i) (by rw [List.getElem?_map, hr]; rfl)
  have hout : ∀ i : Nat, rs[i]? = none → known.results[i]? = none ∧ known.errors[i]? = none := by
    intro i hr
    have hle : rs.length ≤ i := List.getElem?_eq_none_iff.mp hr
    have hres := h.results_length
    have herr := h.errors_length
    rw [List.length_map] at hres herr
    exact ⟨List.getElem?_eq_none_iff.mpr (by omega), List.getElem?_eq_none_iff.mpr (by omega)⟩
  have hresults : known.results = rs.map Except.toOption := by
    apply List.ext_getElem?
    intro i
    rw [List.getElem?_map]
    cases hr : rs[i]? with
    | none => exact (hout i hr).1
    | some r => exact (hat i r hr).1
  have herrors : known.errors = rs.map error? := by
    apply List.ext_getElem?
    intro i
    rw [List.getElem?_map]
    cases hr : rs[i]? with
    | none => exact (hout i hr).2
    | some r => exact (hat i r hr).2
  show (⟨known.results, known.errors⟩ : Returned ε β) = ⟨rs.map Except.toOption, rs.map error?⟩
  rw [hresults, herrors]

end VideoWall.Pool
