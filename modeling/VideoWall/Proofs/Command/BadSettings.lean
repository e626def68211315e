import VideoWall.Proofs.Command.Runs
import VideoWall.Proofs.Xml.Declared

/-!
# Settings that cannot be read

Whatever a file of settings holds, it is read, or the run ends with what is wrong with it; only a document
that declares an unknown encoding ends the run as if something unforeseen had happened. Main statement:
`settings_are_read_or_reported`.
-/

namespace VideoWall.Command

open Xml (Declares)

variable {w : Surroundings} {o : Options} {bytes : List UInt8} {f : Settings.Fault} {directory : List String}

/-! ## 1. Faults of settings -/

theorem readTree_eq_encodingName_iff {fault : Xml.Encoding.NameFault} :
    Xml.readTree bytes = .error (.encodingName fault) ↔
      Xml.readDocument Xml.treeOptions bytes = .error (.encodingName fault) := by
  constructor
  · intro h
    unfold Xml.readTree at h
    split at h
    next hread =>
      cases h
      exact hread
    next =>
      split at h
      next => cases h
      next => cases h
  · intro h
    simp only [Xml.readTree, h]

theorem ofSettings_of_timeoutOf {root : Xml.Element} (h : Settings.timeoutOf root = .error f) :
    Halt.ofSettings f = .badValue f.message := by
  unfold Settings.timeoutOf at h
  dsimp only at h
  split at h
  next => cases h
  next =>
    split at h
    next => cases h
    next =>
      cases h
      rfl

theorem ofSettings_of_integerOf {root : Xml.Element} {tag : String} {default : Int}
    (h : Settings.integerOf root tag default = .error f) : Halt.ofSettings f = .badValue f.message := by
  unfold Settings.integerOf at h
  dsimp only at h
  split at h
  next => cases h
  next =>
    split at h
    next => cases h
    next =>
      cases h
      rfl

theorem ofSettings_of_ofTree {root : Xml.Element} (h : Settings.ofTree directory root = .error f) :
    Halt.ofSettings f = .badValue f.message := by
  unfold Settings.ofTree at h
  rcases cases_of_bind_error h with h | ⟨timeout, -, h⟩
  · exact ofSettings_of_timeoutOf h
  rcases cases_of_bind_error h with h | ⟨limit, -, h⟩
  · exact ofSettings_of_integerOf h
  rcases cases_of_bind_error h with h | ⟨collapseAfter, -, h⟩
  · exact ofSettings_of_integerOf h
  rcases cases_of_bind_error h with h | ⟨collapseAfterRows, -, h⟩
  · exact ofSettings_of_integerOf h
  rcases cases_of_bind_error h with h | ⟨concurrency, -, h⟩
  · exact ofSettings_of_integerOf h
  · cases h

/-- A name that is looked up in vain is no wrong value; any other fault of a file is. -/
theorem ofSettings_of_ofBytes (h : Settings.ofBytes directory bytes = .error f) :
    Halt.ofSettings f = .badValue f.message ∨
      ∃ fault, f = .encodingName fault ∧ Xml.Encoding.IsVain (.error fault) ∧
        Xml.readDocument Xml.treeOptions bytes = .error (.encodingName fault) := by
  unfold Settings.ofBytes at h
  split at h
  next fault hread =>
    cases h
    cases fault with
    | notWellFormed at_ => exact .inl rfl
    | encodingName fault =>
      have hread := readTree_eq_encodingName_iff.mp hread
      cases fault with
      | unknown name => exact .inr ⟨_, rfl, trivial, hread⟩
      | notText name => exact .inr ⟨_, rfl, trivial, hread⟩
      | multiByte | strict | refusing | asciiOnly | foreign | conflicting => exact .inl rfl
  next => exact .inl (ofSettings_of_ofTree h)

theorem ofSettings_of_vain {fault : Xml.Encoding.NameFault} (h : Xml.Encoding.IsVain (.error fault)) :
    Halt.ofSettings (.encodingName fault) = .unknown := by
  cases fault with
  | unknown name => rfl
  | notText name => rfl
  | multiByte | strict | refusing | asciiOnly | foreign | conflicting => cases h

theorem exists_fault_of_unknown (h : ∃ name, Declares bytes name ∧ ¬ Xml.Encoding.IsKnown name)
    (directory : List String) :
    ∃ f, Settings.ofBytes directory bytes = .error f ∧ Halt.ofSettings f = .unknown := by
  obtain ⟨fault, hread, hvain⟩ := (Xml.exists_unknown_declared_iff (o := Xml.treeOptions)).mpr h
  refine ⟨.encodingName fault, ?_, ofSettings_of_vain hvain⟩
  simp only [Settings.ofBytes, readTree_eq_encodingName_iff.mpr hread]
  rfl

theorem ofSettings_of_known (h : Settings.ofBytes directory bytes = .error f)
    (hknown : ∀ name, Declares bytes name → Xml.Encoding.IsKnown name) :
    Halt.ofSettings f = .badValue f.message := by
  rcases ofSettings_of_ofBytes h with hhalt | ⟨fault, -, hvain, hread⟩
  · exact hhalt
  · obtain ⟨name, hdeclares, hunknown⟩ := Xml.exists_unknown_declared_iff.mp ⟨fault, hread, hvain⟩
    exact absurd (hknown name hdeclares) hunknown

/-! ## 2. Runs -/

theorem load_file {holds : List String → Option Path.Entry} {path : String}
    (hfile : holds (Path.resolve directory path) = some (.file bytes)) :
    (Settings.load holds directory path).value =
        Settings.ofBytes (Path.resolve directory path).dropLast bytes ∧
      shownAt .initial (Settings.load holds directory path) = [] := by
  cases hread : Settings.ofBytes (Path.resolve directory path).dropLast bytes with
  | error f =>
    simp only [Settings.load, hfile, hread]
    exact ⟨rfl, rfl⟩
  | ok s =>
    simp only [Settings.load, hfile, hread]
    exact ⟨rfl, rfl⟩

variable {words : List String}

theorem run_of_fault (waits : Nat) (hwords : Options.read words = .ok o)
    (hload : (Settings.load w.holds w.directory o.config).value = .error f)
    (hshown : shownAt .initial (Settings.load w.holds w.directory o.config) = []) :
    run w waits words =
      { ending := (Halt.ofSettings f).ending.value, shown := shownAt .initial (Halt.ofSettings f).ending } := by
  have hstart : start w o = .halted .initial (.ofSettings f) := by
    simp only [start, hload, hshown, List.nil_append]
  rw [run, hwords]
  simp only [runWith, hstart]
  rfl

theorem run_of_unknown (waits : Nat) (hwords : Options.read words = .ok o)
    (hfile : w.holds (Path.resolve w.directory o.config) = some (.file bytes))
    (h : ∃ name, Declares bytes name ∧ ¬ Xml.Encoding.IsKnown name) :
    ∃ f, (Settings.load w.holds w.directory o.config).value = .error f ∧ Halt.ofSettings f = .unknown ∧
      run w waits words = { ending := .exits 1, shown := [.unexpected] } := by
  obtain ⟨hload, hshown⟩ := load_file hfile
  obtain ⟨f, hbytes, hhalt⟩ := exists_fault_of_unknown h (Path.resolve w.directory o.config).dropLast
  refine ⟨f, hload.trans hbytes, hhalt, ?_⟩
  rw [run_of_fault waits hwords (hload.trans hbytes) hshown, hhalt]
  rfl

/-- Whatever a file holds, it gives settings or is at fault. A run ends with the fault, unless the document
declares an encoding that is not known. The path leads to the file without symbolic links; a loop of links, which
is found before any file is read, is not among the surroundings. -/
theorem settings_are_read_or_reported (w : Surroundings) (waits : Nat) (words : List String) (o : Options)
    (bytes : List UInt8) (hwords : Options.read words = .ok o)
    (hfile : w.holds (Path.resolve w.directory o.config) = some (.file bytes)) :
    ((∃ name, Declares bytes name ∧ ¬ Xml.Encoding.IsKnown name) →
      ∃ f, (Settings.load w.holds w.directory o.config).value = .error f ∧ Halt.ofSettings f = .unknown ∧
        run w waits words = { ending := .exits 1, shown := [.unexpected] }) ∧
    ((∀ name, Declares bytes name → Xml.Encoding.IsKnown name) →
      (∃ s, (Settings.load w.holds w.directory o.config).value = .ok s) ∨
      ∃ f, (Settings.load w.holds w.directory o.config).value = .error f ∧
        Halt.ofSettings f = .badValue f.message ∧
        run w waits words = { ending := .usage f.message }) := by
  refine ⟨run_of_unknown waits hwords hfile, ?_⟩
  intro hknown
  obtain ⟨hload, hshown⟩ := load_file hfile
  cases hbytes : Settings.ofBytes (Path.resolve w.directory o.config).dropLast bytes with
  | ok s => exact .inl ⟨s, hload.trans hbytes⟩
  | error f =>
    have hhalt := ofSettings_of_known hbytes hknown
    refine .inr ⟨f, hload.trans hbytes, hhalt, ?_⟩
    rw [run_of_fault waits hwords (hload.trans hbytes) hshown, hhalt]
    rfl

/-- A document in an encoding that nothing knows. -/
def klingonDocument : List UInt8 :=
  "<?xml version='1.0' encoding='klingon'?><widget/>".toList.map fun c => UInt8.ofNat c.toNat

def klingonSurroundings : Surroundings :=
  { bareSurroundings with holds := fun _ => some (.file klingonDocument) }

theorem klingonDocument_declares : Declares klingonDocument "klingon".toList := by
  have hnone : Xml.AreSpaces [] := fun _ hc => absurd hc List.not_mem_nil
  have hspace : Xml.AreSpaces [' '] := fun c hc => by
    rw [List.mem_singleton.mp hc]
    rfl
  have hversion : Xml.Declaration.Writes "version".toList "1.0".toList " version='1.0'".toList :=
    .field (List.cons_ne_nil ' ' []) hspace hnone hnone (.inr rfl) (List.all_eq_true.mp rfl)
  have hencoding : Xml.Declaration.Writes "encoding".toList "klingon".toList " encoding='klingon'".toList :=
    .field (List.cons_ne_nil ' ' []) hspace hnone hnone (.inr rfl) (List.all_eq_true.mp rfl)
  have hchars : (Xml.Encoding.utf8.decode klingonDocument).chars =
      "<?xml".toList ++ (" version='1.0' encoding='klingon'".toList ++ ("?>".toList ++ "<widget/>".toList)) := by
    decide +kernel
  have hnames : Xml.Declaration.NamesEncoding "klingon".toList " version='1.0' encoding='klingon'".toList :=
    .behind hversion hencoding rfl (.bare hnone)
  exact ⟨.utf8, false, klingonDocument, _, _, rfl, hchars, hnames⟩

theorem klingonDocument_is_unknown :
    ∃ name, Declares klingonDocument name ∧ ¬ Xml.Encoding.IsKnown name :=
  ⟨"klingon".toList, klingonDocument_declares, by decide +kernel⟩

theorem run_of_klingonDocument :
    Options.read [] = .ok {} ∧
      run klingonSurroundings 0 [] = { ending := .exits 1, shown := [.unexpected] } := by
  obtain ⟨f, -, -, hrun⟩ :=
    (settings_are_read_or_reported klingonSurroundings 0 [] {} klingonDocument rfl rfl).1
      klingonDocument_is_unknown
  exact ⟨rfl, hrun⟩

/-- Not every file that gives no settings is reported as a wrong value, and not every run ends so. -/
theorem bad_settings_are_unforeseen :
    ¬ (∀ bytes, (∃ s, Settings.ofBytes [] bytes = .ok s) ∨
        ∃ f, Settings.ofBytes [] bytes = .error f ∧ Halt.ofSettings f = .badValue f.message) ∧
      run klingonSurroundings 0 [] = { ending := .exits 1, shown := [.unexpected] } := by
  refine ⟨?_, ?_⟩
  · intro hreported
    obtain ⟨f, hbytes, hhalt⟩ := exists_fault_of_unknown klingonDocument_is_unknown []
    rcases hreported klingonDocument with ⟨s, hread⟩ | ⟨f', hread, hbad⟩
    · rw [hbytes] at hread
      cases hread
    · rw [hbytes] at hread
      cases hread
      rw [hhalt] at hbad
      cases hbad
  · have hwords : Options.read [] = .ok {} := rfl
    have hfile : klingonSurroundings.holds (Path.resolve klingonSurroundings.directory "configs/videos.xml") =
        some (.file klingonDocument) := rfl
    obtain ⟨f, -, -, hrun⟩ := run_of_unknown 0 hwords hfile klingonDocument_is_unknown
    exact hrun

end VideoWall.Command
