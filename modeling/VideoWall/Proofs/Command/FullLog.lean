import VideoWall.Proofs.Command.Grammar
import VideoWall.Proofs.Command.Runs

/-!
# Logging everything

What `Options.withFullLog` makes of an accepted command line. A log level that is given under the full name
of its option is left to decide; one that is given under a shorter name only is overruled. Main statement:
`level_in_full_is_kept`.
-/

namespace VideoWall.Command

variable {o next : Options} {g : Giving} {givings : List Giving} {words : List String}

/-! ## 1. The level that is given last -/

theorem logLevel_setFlag {name : OptionName} (h : o.setFlag name = .ok next) :
    next.logLevel = o.logLevel := by
  cases name with
  | watch =>
    obtain rfl := Except.ok.inj h
    rfl
  | help | config | logLevel | logFile | format | timeout => cases h

theorem logLevel_setWith {name : OptionName} {text : String} (h : o.setWith name text = .ok next) :
    next.logLevel = if name = .logLevel then some text else o.logLevel := by
  cases name with
  | help | watch => cases h
  | config | logLevel | logFile =>
    obtain rfl := Except.ok.inj h
    rfl
  | format =>
    have hset : o.set .format text = .ok next := mapError_eq_ok.mp h
    cases htext : OutputFormat.ofWord? text with
    | none =>
      simp only [Options.set, htext] at hset
      cases hset
    | some value =>
      simp only [Options.set, htext] at hset
      obtain rfl := Except.ok.inj hset
      rfl
  | timeout =>
    have hset : o.set .timeout text = .ok next := mapError_eq_ok.mp h
    cases htext : Number.decimal? text with
    | none =>
      simp only [Options.set, htext] at hset
      cases hset
    | some value =>
      simp only [Options.set, htext] at hset
      obtain rfl := Except.ok.inj hset
      rfl

theorem logLevel_applied (h : g.applied o = .ok next) : next.logLevel = g.level?.or o.logLevel := by
  cases g with
  | bare written name => exact logLevel_setFlag h
  | joined written name argument =>
    rw [logLevel_setWith h]
    cases name <;> rfl
  | apart written name argument =>
    rw [logLevel_setWith h]
    cases name <;> rfl

theorem logLevel_appliedAll (h : Giving.appliedAll o givings = .ok next) :
    next.logLevel = (givings.filterMap Giving.level?).getLast?.or o.logLevel := by
  induction givings generalizing o with
  | nil =>
    obtain rfl := Except.ok.inj h
    rfl
  | cons g givings ih =>
    rw [Giving.appliedAll, List.foldlM_cons] at h
    obtain ⟨first, hfirst, h⟩ := exists_of_bind h
    rw [ih h, logLevel_applied hfirst, List.filterMap_cons]
    cases hlevel : g.level? with
    | none => rfl
    | some level =>
      rw [List.getLast?_cons]
      cases (givings.filterMap Giving.level?).getLast? <;> rfl

/-! ## 2. The full name -/

/-- The option for the log level stands in full among the words, or an argument in a word of its own
begins like it. -/
def Giving.ShowsLevelFlag : Giving → Prop
  | .bare _ _ => False
  | .joined written _ _ => written = OptionName.logLevel.flag
  | .apart written _ argument =>
    written = OptionName.logLevel.flag ∨ OptionName.logLevel.flag.toList <+: argument.toList

theorem flag_prefix_iff {o : OptionName} {written : String} (h : o.IsNamedBy written) (o' : OptionName)
    (joined : Option String) :
    o'.flag.toList <+: written.toList ++ suffix joined ↔ written = o'.flag := by
  constructor
  · intro hflag
    have hlong : o'.flag.toList <+: written.toList := by
      rcases List.prefix_or_prefix_of_prefix hflag (List.prefix_append _ _) with hlong | ⟨rest, hrest⟩
      · exact hlong
      · -- What the full name has behind `written` would begin with the equals sign.
        rw [← hrest, List.prefix_append_right_inj] at hflag
        cases rest with
        | nil => exact ⟨[], by rw [← hrest, List.append_nil, List.append_nil]⟩
        | cons c rest =>
          cases joined with
          | none => cases List.prefix_nil.mp hflag
          | some argument =>
            obtain ⟨rfl, -⟩ := List.cons_prefix_cons.mp hflag
            exact absurd (hrest ▸ List.mem_append_right _ List.mem_cons_self) o'.not_mem_flag
    obtain rfl : o = o' := OptionName.eq_of_starts_flag (hlong.trans h.1)
    exact String.ext (h.1.eq_of_length_le hlong.length_le)
  · rintro rfl
    exact List.prefix_append _ _

theorem exists_flag_prefix_iff (hg : g.IsSpelled) (h : g.applied o = .ok next) :
    (∃ word ∈ g.words, OptionName.logLevel.flag.toList <+: word.toList) ↔ g.ShowsLevelFlag := by
  cases g with
  | bare written name =>
    have hflag := flag_prefix_iff hg .logLevel none
    rw [suffix, List.append_nil] at hflag
    refine ⟨?_, False.elim⟩
    rintro ⟨word, hword, hprefix⟩
    obtain rfl := List.mem_singleton.mp hword
    obtain rfl := hflag.mp hprefix
    obtain rfl : OptionName.logLevel = name := hg.2 .logLevel List.prefix_rfl
    cases h
  | joined written name argument =>
    have hflag := flag_prefix_iff hg .logLevel (some argument)
    have hword : (written ++ "=" ++ argument).toList = written.toList ++ suffix (some argument) :=
      toList_joined written argument
    show (∃ word ∈ [written ++ "=" ++ argument], _) ↔ written = _
    rw [← hflag, ← hword]
    simp only [List.mem_singleton, exists_eq_left]
  | apart written name argument =>
    have hflag := flag_prefix_iff hg.1 .logLevel none
    rw [suffix, List.append_nil] at hflag
    show (∃ word ∈ [written, argument], _) ↔ written = _ ∨ _
    rw [← hflag]
    simp only [List.mem_cons, List.not_mem_nil, or_false, exists_eq_or_imp, exists_eq_left]

theorem exists_word_iff (hspelled : ∀ g ∈ givings, g.IsSpelled)
    (h : Giving.appliedAll o givings = .ok next) :
    (∃ word ∈ givings.flatMap Giving.words, OptionName.logLevel.flag.toList <+: word.toList) ↔
      ∃ g ∈ givings, g.ShowsLevelFlag := by
  induction givings generalizing o with
  | nil =>
    constructor
    · rintro ⟨word, hword, -⟩
      cases hword
    · rintro ⟨g, hg, -⟩
      cases hg
  | cons g givings ih =>
    obtain ⟨hg, hspelled⟩ := List.forall_mem_cons.mp hspelled
    rw [Giving.appliedAll, List.foldlM_cons] at h
    obtain ⟨first, hfirst, h⟩ := exists_of_bind h
    have hhead := exists_flag_prefix_iff hg hfirst
    have htail := ih hspelled h
    simp only [List.flatMap_cons, List.mem_append, List.mem_cons, or_and_right, exists_or, exists_eq_left]
    rw [hhead, htail]

theorem any_isPrefixOf_iff (hspells : Spells givings words) (h : Giving.appliedAll o givings = .ok next) :
    words.any (fun w => OptionName.logLevel.flag.toList.isPrefixOf w.toList) = true ↔
      ∃ g ∈ givings, g.ShowsLevelFlag := by
  obtain ⟨hspelled, rfl⟩ := hspells
  rw [← exists_word_iff hspelled h, List.any_eq_true]
  simp only [List.isPrefixOf_iff_prefix]

/-! ## 3. Command lines -/

theorem withFullLog_of_shown (hspells : Spells givings words) (h : Giving.appliedAll o givings = .ok next)
    (hflag : ∃ g ∈ givings, g.ShowsLevelFlag) : Options.withFullLog words = words := by
  rw [Options.withFullLog, if_pos ((any_isPrefixOf_iff hspells h).mpr hflag)]

theorem appliedAll_append_full (h : Giving.appliedAll o givings = .ok next) :
    Giving.appliedAll o (givings ++ [.apart OptionName.logLevel.flag .logLevel "DEBUG"]) =
      .ok { next with logLevel := some "DEBUG" } := by
  unfold Giving.appliedAll at h ⊢
  rw [List.foldlM_append, h]
  rfl

theorem Spells.append_full (h : Spells givings words) :
    Spells (givings ++ [.apart OptionName.logLevel.flag .logLevel "DEBUG"])
      (words ++ [OptionName.logLevel.flag, "DEBUG"]) := by
  obtain ⟨hspelled, rfl⟩ := h
  refine ⟨?_, ?_⟩
  · intro g hg
    rcases List.mem_append.mp hg with hg | hg
    · exact hspelled g hg
    · obtain rfl := List.mem_singleton.mp hg
      exact ⟨OptionName.isNamedBy_flag .logLevel, rfl, rfl⟩
  · rw [List.flatMap_append]
    rfl

theorem read_withFullLog (hspells : Spells givings words) (h : Giving.appliedAll {} givings = .ok next)
    (hflag : ∀ g ∈ givings, ¬ g.ShowsLevelFlag) :
    Options.read (Options.withFullLog words) = .ok { next with logLevel := some "DEBUG" } := by
  have hany : ¬ words.any (fun w => OptionName.logLevel.flag.toList.isPrefixOf w.toList) = true := by
    rw [any_isPrefixOf_iff hspells h]
    rintro ⟨g, hg, hshown⟩
    exact hflag g hg hshown
  rw [Options.withFullLog, if_neg hany, Options.read_spelled hspells.append_full]
  exact appliedAll_append_full h

/-! ## 4. Runs -/

theorem level_of_log {holds : List String → Option Path.Entry} {directory : List String} {level : LogLevel}
    {path : Option String} {log : Log} (h : (Log.start holds directory level path).value = .ok log) :
    log.level = level := by
  unfold Log.start at h
  split at h
  · obtain rfl := Except.ok.inj h
    rfl
  · split at h
    · cases h
    · obtain rfl := Except.ok.inj h
      rfl

theorem level_of_start {w : Surroundings} {p : Plan} (hplan : (start w o).plan = .ok p) {text : String}
    (hlevel : o.logLevel = some text) (htext : text ≠ "") : LogLevel.ofText? text = some p.log.level := by
  cases hload : (Settings.load w.holds w.directory o.config).value with
  | error f =>
    simp only [start, hload] at hplan
    cases hplan
  | ok s =>
    have hgiven : levelText o s = text := by
      have hfilled : (some text).filter (!·.isEmpty) = some text := by simp [Option.filter, htext]
      rw [levelText, firstFilled, hlevel, hfilled]
      rfl
    simp only [start, hload, startLog, hgiven] at hplan
    cases hfound : LogLevel.ofText? text with
    | none =>
      simp only [hfound] at hplan
      cases hplan
    | some level =>
      simp only [hfound] at hplan
      cases hlog : (Log.start w.holds w.directory level (logPath o s)).value with
      | error f =>
        simp only [hlog] at hplan
        cases hplan
      | ok log =>
        simp only [hlog] at hplan
        obtain rfl := Except.ok.inj hplan
        exact congrArg some (level_of_log hlog).symm

/-- Of an accepted command line, a log level under the full name of its option is left to decide, and so is
the level of the settings where an argument looks like that name. Any other command line logs everything. -/
theorem level_in_full_is_kept (w : Surroundings) (waits : Nat) (words : List String) (o : Options)
    (h : Options.read words = .ok o) :
    (∃ givings, Spells givings words) ∧ ∀ givings, Spells givings words →
      o.logLevel = (givings.filterMap Giving.level?).getLast? ∧
      (∀ p text, (start w o).plan = .ok p → o.logLevel = some text → text ≠ "" →
        LogLevel.ofText? text = some p.log.level) ∧
      ((∃ g ∈ givings, g.ShowsLevelFlag) →
        run w waits (Options.withFullLog words) = run w waits words) ∧
      ((∀ g ∈ givings, ¬ g.ShowsLevelFlag) →
        run w waits (Options.withFullLog words) =
            runWith w w.updates waits { o with logLevel := some "DEBUG" } ∧
          ∀ p, (start w { o with logLevel := some "DEBUG" }).plan = .ok p → p.log.level = ⟨"DEBUG", 10⟩) := by
  refine ⟨?_, ?_⟩
  · obtain ⟨givings, hspells, -⟩ := Options.read_eq_ok_iff.mp h
    exact ⟨givings, hspells⟩
  · intro givings hspells
    have happlied : Giving.appliedAll {} givings = .ok o := (Options.read_spelled hspells).symm.trans h
    have hlevel := logLevel_appliedAll happlied
    rw [Option.or_none] at hlevel
    refine ⟨hlevel, fun p text hplan => level_of_start hplan, ?_, ?_⟩
    · intro hflag
      rw [withFullLog_of_shown hspells happlied hflag]
    · intro hflag
      refine ⟨?_, ?_⟩
      · rw [run, read_withFullLog hspells happlied hflag]
      · intro p hplan
        have hdebug := level_of_start hplan rfl (by decide)
        exact (Option.some.inj hdebug).symm

theorem logLevel_isNamedBy_short : OptionName.logLevel.IsNamedBy "--log-l" := by
  refine ⟨by decide, fun o' => ?_⟩
  cases o' <;> decide

theorem run_of_short_level_logs_all :
    Options.read ["--log-l", "ERROR"] = .ok { logLevel := some "ERROR" } ∧
      run bareSurroundings 0 (Options.withFullLog ["--log-l", "ERROR"]) =
        runWith bareSurroundings bareSurroundings.updates 0 { logLevel := some "DEBUG" } := by
  have hread : Options.read ["--log-l", "ERROR"] = .ok { logLevel := some "ERROR" } := rfl
  have hspells : Spells [.apart "--log-l" .logLevel "ERROR"] ["--log-l", "ERROR"] :=
    spells_nil.cons (g := .apart "--log-l" .logLevel "ERROR") ⟨logLevel_isNamedBy_short, rfl, rfl⟩
  have hshort : ∀ g ∈ [Giving.apart "--log-l" .logLevel "ERROR"], ¬ g.ShowsLevelFlag := by
    intro g hg
    obtain rfl := List.mem_singleton.mp hg
    rintro (hname | hprefix)
    · exact absurd hname (by decide)
    · exact absurd hprefix (by decide)
  obtain ⟨-, hall⟩ := level_in_full_is_kept bareSurroundings 0 _ _ hread
  obtain ⟨-, -, -, hdebug⟩ := hall _ hspells
  exact ⟨hread, (hdebug hshort).1⟩

/-- Neither is every level that is given kept, nor does every run without one log everything. -/
theorem levels_are_lost :
    ¬ (∀ words o text, Options.read words = .ok o → o.logLevel = some text → text ≠ "" →
        ∃ o', Options.read (Options.withFullLog words) = .ok o' ∧ ∀ s, levelText o' s = levelText o s) ∧
      ¬ (∀ words o, Options.read words = .ok o → o.logLevel = none →
        ∃ o', Options.read (Options.withFullLog words) = .ok o' ∧ ∀ s, levelText o' s = "DEBUG") := by
  refine ⟨?_, ?_⟩
  · intro hkept
    obtain ⟨o', hread, hlevel⟩ := hkept ["--log-l", "ERROR"] { logLevel := some "ERROR" } "ERROR" rfl rfl
      (by decide)
    have hdebug : Options.read (Options.withFullLog ["--log-l", "ERROR"]) =
        .ok { logLevel := some "DEBUG" } := rfl
    obtain rfl := Except.ok.inj (hdebug.symm.trans hread)
    exact absurd (hlevel .unset) (by decide)
  · intro hfull
    obtain ⟨o', hread, hlevel⟩ := hfull ["--config", "--log-level x"] { config := "--log-level x" } rfl rfl
    have hsame : Options.read (Options.withFullLog ["--config", "--log-level x"]) =
        .ok { config := "--log-level x" } := rfl
    obtain rfl := Except.ok.inj (hsame.symm.trans hread)
    exact absurd (hlevel .unset) (by decide)

end VideoWall.Command
