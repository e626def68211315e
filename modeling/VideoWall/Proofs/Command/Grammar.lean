import VideoWall.Command.Grammar
import VideoWall.Proofs.Except

/-!
# The accepted command lines

A command line is accepted if its words spell options that are given one after the other, and what is
read is what comes of them. Main statement: `read_eq_ok_iff`.
-/

namespace VideoWall.Command

/-! ## 1. Names of options -/

namespace OptionName

theorem eq_of_starts_flag {o o' : OptionName} (h : o.flag.toList <+: o'.flag.toList) : o' = o := by
  revert h
  cases o <;> cases o' <;> decide

theorem starts_with_dashes (o : OptionName) : ['-', '-'] <+: o.flag.toList := by
  cases o <;> decide

theorem not_mem_flag (o : OptionName) : '=' ∉ o.flag.toList := by
  cases o <;> decide

theorem isNamedBy_flag (o : OptionName) : o.IsNamedBy o.flag :=
  ⟨List.prefix_rfl, fun _ h => eq_of_starts_flag h⟩

theorem filter_all {p : OptionName → Bool} {o : OptionName} (h : ∀ o', p o' = true ↔ o' = o) :
    all.filter p = [o] := by
  have hp : p = fun o' => decide (o' = o) := by
    funext o'
    rw [Bool.eq_iff_iff, h o', decide_eq_true_iff]
  rw [hp]
  cases o <;> rfl

theorem eq_of_ofFlag? {cs : List Char} {o : OptionName} (h : ofFlag? cs = some o) :
    o.flag.toList = cs := by
  have hflag := List.find?_some h
  exact eq_of_beq hflag

variable {o : OptionName} {written : String}

/-- A name is longer than its dashes, with which every option begins. -/
theorem IsNamedBy.exists_eq (h : o.IsNamedBy written) :
    ∃ c cs, written.toList = '-' :: '-' :: c :: cs := by
  have hlong : ¬ written.toList <+: ['-', '-'] := by
    intro hshort
    have hhelp := h.2 .help (hshort.trans (starts_with_dashes _))
    have hwatch := h.2 .watch (hshort.trans (starts_with_dashes _))
    exact absurd (hhelp.trans hwatch.symm) (by decide)
  rcases List.prefix_or_prefix_of_prefix h.1 (starts_with_dashes o) with hshort | ⟨rest, hrest⟩
  · exact absurd hshort hlong
  · cases rest with
    | nil =>
      rw [List.append_nil] at hrest
      exact absurd (hrest ▸ List.prefix_rfl) hlong
    | cons c cs => exact ⟨c, cs, hrest.symm⟩

theorem IsNamedBy.not_mem (h : o.IsNamedBy written) : '=' ∉ written.toList :=
  fun hmem => o.not_mem_flag (h.1.subset hmem)

end OptionName

/-! ## 2. Single words -/

def suffix : Option String → List Char
  | none => []
  | some argument => '=' :: argument.toList

theorem toList_joined (written argument : String) :
    (written ++ "=" ++ argument).toList = written.toList ++ suffix (some argument) := by
  rw [String.toList_append, String.toList_append, List.append_assoc]
  rfl

variable {o : OptionName} {written word : String} {joined : Option String}

theorem takeWhile_named (h : o.IsNamedBy written) (joined : Option String) :
    (written.toList ++ suffix joined).takeWhile (· != '=') = written.toList := by
  have hall : ∀ c ∈ written.toList, (c != '=') = true := by
    intro c hc
    rw [bne_iff_ne]
    rintro rfl
    exact h.not_mem hc
  rw [List.takeWhile_append_of_pos hall]
  cases joined with
  | none => exact List.append_nil _
  | some argument => exact List.append_nil _

theorem ofList_suffix (joined : Option String) :
    (match suffix joined with
      | _ :: text => some (String.ofList text)
      | [] => none) = joined := by
  cases joined with
  | none => rfl
  | some argument => exact congrArg some String.ofList_toList

theorem suffix_dropWhile (cs : List Char) :
    suffix (match cs.dropWhile (· != '=') with
      | _ :: text => some (String.ofList text)
      | [] => none) = cs.dropWhile (· != '=') := by
  cases hrest : cs.dropWhile (· != '=') with
  | nil => rfl
  | cons c text =>
    have hhead := List.head?_dropWhile_not (· != '=') cs
    rw [hrest] at hhead
    have hc : c = '=' := by simpa using hhead
    rw [hc]
    exact congrArg ('=' :: ·) String.toList_ofList

theorem longKind_named (h : o.IsNamedBy written) (joined : Option String) :
    longKind (written.toList ++ suffix joined) = .ok (.option o joined) := by
  unfold longKind
  simp only [takeWhile_named h, List.drop_left]
  have hjoined := congrArg (fun j => Except.ok (ε := UsageFault) (WordKind.option o j)) (ofList_suffix joined)
  cases hflag : OptionName.ofFlag? written.toList with
  | some o' =>
    have ho' : o' = o := h.2 o' (OptionName.eq_of_ofFlag? hflag ▸ List.prefix_rfl)
    rw [ho']
    exact hjoined
  | none =>
    have hstart : OptionName.startingWith written.toList = [o] := by
      apply OptionName.filter_all
      intro o'
      rw [List.isPrefixOf_iff_prefix]
      exact ⟨h.2 o', fun ho' => ho' ▸ h.1⟩
    rw [hstart]
    exact hjoined

theorem wordKind_named (h : o.IsNamedBy written) (hword : word.toList = written.toList ++ suffix joined) :
    wordKind word = .ok (.option o joined) := by
  obtain ⟨c, cs, hcs⟩ := h.exists_eq
  have hlong := longKind_named h joined
  unfold wordKind
  rw [hcs] at hword hlong
  rw [hword]
  exact hlong

theorem otherKind_ne_option (cs : List Char) : otherKind cs ≠ .option o joined := by
  unfold otherKind
  split <;> exact WordKind.noConfusion

theorem isNamedBy_of_startingWith {cs : List Char} (h : OptionName.startingWith cs = [o]) :
    o.IsNamedBy (String.ofList cs) := by
  have hmem : ∀ o' : OptionName, cs <+: o'.flag.toList ↔ o' = o := by
    intro o'
    have hall : o' ∈ OptionName.all := by cases o' <;> decide
    have hstart : o' ∈ OptionName.startingWith cs ↔ cs <+: o'.flag.toList := by
      rw [OptionName.startingWith, List.mem_filter, List.isPrefixOf_iff_prefix, and_iff_right hall]
    rw [← hstart, h, List.mem_singleton]
  unfold OptionName.IsNamedBy
  rw [String.toList_ofList]
  exact ⟨(hmem o).mpr rfl, fun o' ho' => (hmem o').mp ho'⟩

theorem exists_named_of_longKind {cs : List Char} (h : longKind cs = .ok (.option o joined)) :
    ∃ written, o.IsNamedBy written ∧ cs = written.toList ++ suffix joined := by
  have hwhole := List.takeWhile_append_dropWhile (p := (· != '=')) (l := cs)
  have hcut : cs.drop (cs.takeWhile (· != '=')).length = cs.dropWhile (· != '=') := by
    have hleft := @List.drop_left _ (cs.takeWhile (· != '=')) (cs.dropWhile (· != '='))
    rwa [hwhole] at hleft
  have hnamed : o.IsNamedBy (String.ofList (cs.takeWhile (· != '='))) ∧
      joined = match cs.dropWhile (· != '=') with
        | _ :: text => some (String.ofList text)
        | [] => none := by
    unfold longKind at h
    simp only [hcut] at h
    split at h
    next o' hflag =>
      obtain ⟨rfl, hjoined⟩ := WordKind.option.inj (Except.ok.inj h)
      rw [← OptionName.eq_of_ofFlag? hflag, String.ofList_toList]
      exact ⟨o'.isNamedBy_flag, hjoined.symm⟩
    next o' hflag hstart =>
      obtain ⟨rfl, hjoined⟩ := WordKind.option.inj (Except.ok.inj h)
      exact ⟨isNamedBy_of_startingWith hstart, hjoined.symm⟩
    next => exact absurd (Except.ok.inj h) (otherKind_ne_option cs)
    next => cases h
  refine ⟨_, hnamed.1, ?_⟩
  rw [hnamed.2, suffix_dropWhile, String.toList_ofList, hwhole]

theorem exists_named_of_wordKind (h : wordKind word = .ok (.option o joined)) :
    (∃ written, o.IsNamedBy written ∧ word.toList = written.toList ++ suffix joined) ∨
      o = .help ∧ joined = none := by
  unfold wordKind at h
  split at h
  next => cases h
  next cs _ hword =>
    rw [hword]
    exact .inl (exists_named_of_longKind h)
  next =>
    obtain ⟨rfl, hjoined⟩ := WordKind.option.inj (Except.ok.inj h)
    exact .inr ⟨rfl, hjoined.symm⟩
  next => cases h
  next => cases h
  next => cases h
  next => exact absurd (Except.ok.inj h) (otherKind_ne_option _)
  next => cases h

/-! ## 3. Lists of words -/

def Giving.kinds : Giving → List (String × WordKind)
  | .bare written name => [(written, .option name none)]
  | .joined written name argument => [(written ++ "=" ++ argument, .option name (some argument))]
  | .apart written name argument => [(written, .option name none), (argument, .argument)]

theorem wordKinds_cons {kind : WordKind} (h : wordKind word = .ok kind) (hkind : kind ≠ .separator)
    (words : List String) : wordKinds (word :: words) = (wordKinds words).map ((word, kind) :: ·) := by
  have hrest : wordKinds (word :: words) = do return (word, kind) :: (← wordKinds words) := by
    rw [wordKinds, h]
    cases kind with
    | separator => exact absurd rfl hkind
    | argument => rfl
    | option name joined => rfl
    | helpCluster isAssigned rest => rfl
    | unknown => rfl
  rw [hrest]
  cases wordKinds words <;> rfl

theorem exists_of_wordKinds {words : List String} {kind : WordKind} {rest : List (String × WordKind)}
    (h : wordKinds words = .ok ((word, kind) :: rest)) (hkind : kind ≠ .separator) :
    ∃ words', words = word :: words' ∧ wordKind word = .ok kind ∧ wordKinds words' = .ok rest := by
  cases words with
  | nil => cases h
  | cons word' words =>
    cases hword : wordKind word' with
    | error f =>
      rw [wordKinds, hword] at h
      cases h
    | ok kind' =>
      by_cases hkind' : kind' = .separator
      · rw [wordKinds, hword, hkind'] at h
        obtain ⟨hhead, -⟩ := List.cons.inj (Except.ok.inj h)
        exact absurd (congrArg Prod.snd hhead).symm hkind
      · rw [wordKinds_cons hword hkind'] at h
        cases hrest : wordKinds words with
        | error f =>
          rw [hrest] at h
          cases h
        | ok rest' =>
          rw [hrest] at h
          obtain ⟨hhead, rfl⟩ := List.cons.inj (Except.ok.inj h)
          obtain ⟨rfl, rfl⟩ := Prod.mk.inj hhead
          exact ⟨words, rfl, hword, hrest⟩

theorem wordKinds_words {g : Giving} (h : g.IsSpelled) (words : List String) :
    wordKinds (g.words ++ words) = (wordKinds words).map (g.kinds ++ ·) := by
  cases g with
  | bare written name =>
    have hword : wordKind written = .ok (.option name none) :=
      wordKind_named h (List.append_nil _).symm
    exact wordKinds_cons hword WordKind.noConfusion words
  | joined written name argument =>
    have hword : wordKind (written ++ "=" ++ argument) = .ok (.option name (some argument)) :=
      wordKind_named h (toList_joined written argument)
    exact wordKinds_cons hword WordKind.noConfusion words
  | apart written name argument =>
    have hword : wordKind written = .ok (.option name none) :=
      wordKind_named h.1 (List.append_nil _).symm
    show wordKinds (written :: argument :: words) = _
    rw [wordKinds_cons hword WordKind.noConfusion, wordKinds_cons h.2.2 WordKind.noConfusion]
    cases wordKinds words <;> rfl

theorem wordKinds_spelled {givings : List Giving} (h : ∀ g ∈ givings, g.IsSpelled) :
    wordKinds (givings.flatMap Giving.words) = .ok (givings.flatMap Giving.kinds) := by
  induction givings with
  | nil => rfl
  | cons g givings ih =>
    obtain ⟨hg, hgivings⟩ := List.forall_mem_cons.mp h
    rw [List.flatMap_cons, wordKinds_words hg, ih hgivings]
    rfl

theorem Giving.appliedAll_cons {g : Giving} {o next : Options} (h : g.applied o = .ok next)
    (givings : List Giving) : appliedAll o (g :: givings) = appliedAll next givings := by
  rw [appliedAll, List.foldlM_cons, h]
  rfl

theorem spells_nil : Spells [] [] :=
  ⟨fun _ hg => absurd hg List.not_mem_nil, rfl⟩

theorem Spells.cons {g : Giving} {givings : List Giving} {words : List String} (hg : g.IsSpelled)
    (h : Spells givings words) : Spells (g :: givings) (g.words ++ words) :=
  ⟨List.forall_mem_cons.mpr ⟨hg, h.1⟩, congrArg (g.words ++ ·) h.2⟩

/-! ## 4. Reading -/

namespace Options

theorem readWords_bare {o : Options} {name : OptionName} {rest : List (String × WordKind)}
    (hrest : ∀ text rest', rest ≠ (text, .argument) :: rest') :
    readWords o ((word, .option name none) :: rest) = o.setFlag name >>= (readWords · rest) := by
  cases rest with
  | nil => rfl
  | cons head rest =>
    obtain ⟨text, kind⟩ := head
    cases kind with
    | argument => exact absurd rfl (hrest text rest)
    | separator => rfl
    | option name joined => rfl
    | helpCluster isAssigned rest => rfl
    | unknown => rfl

theorem readWords_apart {o : Options} {name : OptionName} {text : String}
    (hname : name.takesArgument = true) (rest : List (String × WordKind)) :
    readWords o ((word, .option name none) :: (text, .argument) :: rest) =
      o.setWith name text >>= (readWords · rest) := by
  rw [readWords, if_pos hname]

theorem kinds_ne_argument (givings : List Giving) (text : String) (rest : List (String × WordKind)) :
    givings.flatMap Giving.kinds ≠ (text, .argument) :: rest := by
  intro h
  cases givings with
  | nil => cases h
  | cons g givings => cases g <;> cases h

theorem readWords_spelled {givings : List Giving} (h : ∀ g ∈ givings, g.IsSpelled) (o : Options) :
    readWords o (givings.flatMap Giving.kinds) = (Giving.appliedAll o givings).map (·, []) := by
  induction givings generalizing o with
  | nil => rfl
  | cons g givings ih =>
    obtain ⟨hg, hgivings⟩ := List.forall_mem_cons.mp h
    have hstep : readWords o ((g :: givings).flatMap Giving.kinds) =
        g.applied o >>= (readWords · (givings.flatMap Giving.kinds)) := by
      cases g with
      | bare written name => exact readWords_bare (kinds_ne_argument givings)
      | joined written name argument => rfl
      | apart written name argument => exact readWords_apart hg.2.1 _
    cases happlied : g.applied o with
    | error stop =>
      rw [hstep, happlied, Giving.appliedAll, List.foldlM_cons, happlied]
      rfl
    | ok next =>
      rw [hstep, happlied, Giving.appliedAll_cons happlied]
      exact ih hgivings next

theorem eq_nil_of_wordKinds {words : List String} (h : wordKinds words = .ok []) : words = [] := by
  cases words with
  | nil => rfl
  | cons word words =>
    rw [wordKinds] at h
    obtain ⟨kind, -, h⟩ := exists_of_bind h
    split at h
    · cases h
    · obtain ⟨rest, -, h⟩ := exists_of_bind h
      cases h

theorem map_cons_ne (x : Except UsageStop (Options × List String)) (word : String) (o : Options) :
    (x.map fun (o, others) => (o, word :: others)) ≠ .ok (o, []) := by
  intro h
  cases x with
  | error stop => cases h
  | ok read => cases h

theorem exists_named_of_ne_help {o : OptionName} (hword : wordKind word = .ok (.option o joined))
    (ho : o ≠ .help) :
    ∃ written, o.IsNamedBy written ∧ word.toList = written.toList ++ suffix joined := by
  rcases exists_named_of_wordKind hword with hnamed | ⟨hhelp, -⟩
  · exact hnamed
  · exact absurd hhelp ho

theorem exists_spelled_cons {g : Giving} {words : List String} {o next o' : Options} (hg : g.IsSpelled)
    (hnext : g.applied o = .ok next)
    (h : ∃ givings, Spells givings words ∧ Giving.appliedAll next givings = .ok o') :
    ∃ givings, Spells givings (g.words ++ words) ∧ Giving.appliedAll o givings = .ok o' := by
  obtain ⟨givings, hspells, happlied⟩ := h
  exact ⟨g :: givings, hspells.cons hg, (Giving.appliedAll_cons hnext givings).trans happlied⟩

/-- What is read leaves no word over, so every word belongs to an option that is given. -/
theorem exists_spelled {kinds : List (String × WordKind)} {words : List String} {o o' : Options}
    (hkinds : wordKinds words = .ok kinds) (h : readWords o kinds = .ok (o', [])) :
    ∃ givings, Spells givings words ∧ Giving.appliedAll o givings = .ok o' := by
  induction o, kinds using readWords.induct generalizing words with
  | case1 o =>
    obtain rfl := eq_nil_of_wordKinds hkinds
    obtain ⟨rfl, -⟩ := Prod.mk.inj (Except.ok.inj h)
    exact ⟨[], spells_nil, rfl⟩
  -- Words that belong to no option would be left over.
  | case2 o word rest ih => exact absurd h (map_cons_ne _ word o')
  | case3 o word rest ih => exact absurd h (map_cons_ne _ word o')
  | case4 o word rest ih => exact absurd h (map_cons_ne _ word o')
  | case5 o word isAssigned cs rest => cases h
  | case6 o word name text rest ih =>
    obtain ⟨next, hnext, h⟩ := exists_of_bind h
    obtain ⟨words, rfl, hword, hrest⟩ := exists_of_wordKinds hkinds WordKind.noConfusion
    have hname : name ≠ .help := by
      rintro rfl
      cases hnext
    obtain ⟨written, hnamed, hwritten⟩ := exists_named_of_ne_help hword hname
    have hjoined : word = written ++ "=" ++ text :=
      String.ext (hwritten.trans (toList_joined written text).symm)
    rw [hjoined]
    exact exists_spelled_cons (g := .joined written name text) hnamed hnext (ih next hrest h)
  | case7 o word name text rest hname ih =>
    rw [readWords_apart hname] at h
    obtain ⟨next, hnext, h⟩ := exists_of_bind h
    obtain ⟨words, rfl, hword, hrest⟩ := exists_of_wordKinds hkinds WordKind.noConfusion
    obtain ⟨words, rfl, htext, hrest⟩ := exists_of_wordKinds hrest WordKind.noConfusion
    have hhelp : name ≠ .help := by
      rintro rfl
      cases hname
    obtain ⟨written, hnamed, hwritten⟩ := exists_named_of_ne_help hword hhelp
    obtain rfl : word = written := String.ext (hwritten.trans (List.append_nil _))
    exact exists_spelled_cons (g := .apart word name text) ⟨hnamed, hname, htext⟩ hnext
      (ih next hrest h)
  -- An option without a value in front of such a word leaves the word over.
  | case8 o word name text rest hname ih =>
    rw [readWords, if_neg hname] at h
    obtain ⟨next, -, h⟩ := exists_of_bind h
    obtain ⟨read, -, h⟩ := exists_of_bind h
    cases h
  | case9 o word name rest hrest ih =>
    rw [readWords_bare hrest] at h
    obtain ⟨next, hnext, h⟩ := exists_of_bind h
    obtain ⟨words, rfl, hword, hrest⟩ := exists_of_wordKinds hkinds WordKind.noConfusion
    have hhelp : name ≠ .help := by
      rintro rfl
      cases hnext
    obtain ⟨written, hnamed, hwritten⟩ := exists_named_of_ne_help hword hhelp
    obtain rfl : word = written := String.ext (hwritten.trans (List.append_nil _))
    exact exists_spelled_cons (g := .bare word name) hnamed hnext (ih next hrest h)

theorem read_spelled {givings : List Giving} {words : List String} (h : Spells givings words) :
    read words = Giving.appliedAll {} givings := by
  obtain ⟨hspelled, rfl⟩ := h
  unfold read
  rw [wordKinds_spelled hspelled]
  show readWords {} _ >>= _ = _
  rw [readWords_spelled hspelled]
  cases Giving.appliedAll {} givings <;> rfl

theorem read_eq_ok_iff {words : List String} {o : Options} :
    read words = .ok o ↔ ∃ givings, Spells givings words ∧ Giving.appliedAll {} givings = .ok o := by
  constructor
  · intro h
    obtain ⟨kinds, hkinds, h⟩ := exists_of_bind h
    obtain ⟨⟨read, others⟩, hread, h⟩ := exists_of_bind h
    have hwords := mapError_eq_ok.mp hkinds
    cases others with
    | nil =>
      obtain rfl := Except.ok.inj h
      exact exists_spelled hwords hread
    | cons word others => cases h
  · rintro ⟨givings, hspells, happlied⟩
    exact (read_spelled hspells).trans happlied

end Options

end VideoWall.Command
