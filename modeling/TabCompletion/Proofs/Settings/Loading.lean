import Mathlib
import TabCompletion.Proofs.Disk.Way
import TabCompletion.Proofs.Json.Written
import TabCompletion.Proofs.Settings.TakenOver
import TabCompletion.Settings.Files

/-!
# Loading a configuration

A configuration that is not there, cannot be read or is no object of JSON leaves the settings alone.
Some contents are fatal (`FatalConfig`): bytes that are no UTF-8 text, a whole number with too many
digits, and a timeout that is a whole number beyond every double. The first two leave the settings
alone as well; the timeout is found when the log and the strategy were taken over already.

Results:
* `readFrom_error_iff`: loading fails exactly if it cannot be told whether the file is there, or its
  content is fatal.
* `readFrom_not_accepted`: a configuration that is not accepted changes nothing, unless it has such
  a timeout.
* `reload_error_iff`, `reload_not_accepted`: the same where the configuration is laid out first.
* **`loading_spec`**: all of this for settings that can be reached.
* `timeout_half_taken`: a configuration that is not accepted and changes the log level.

Out of scope: settings with half of a surrogate pair in a text, which cannot be written where the
file is laid out first. No `String` has one; reading gives the replacement character instead.
-/

namespace TabCompletion

/-- A content at which loading a configuration fails: it is no UTF-8 text, it writes a whole number
with too many digits, or it has a timeout beyond every double. -/
inductive FatalConfig (bytes : ByteArray) : Prop
  | notText (htext : String.fromUTF8? bytes = none)
  | longInteger {text : String} {digits : Nat} (htext : String.fromUTF8? bytes = some text)
      (hparse : Json.parse text = .error (.longInteger digits))
  | timeout {text : String} {m : Members} (htext : String.fromUTF8? bytes = some text)
      (hparse : Json.parse text = .ok (.object m)) (hm : m.TimeoutBeyond)

/-- A configuration stands in the file at a path. -/
def Host.HasConfig (h : Host) (path : String) (m : Members) : Prop :=
  ∃ bytes text, h.disk.read h.workingDir path = .ok bytes ∧ String.fromUTF8? bytes = some text ∧
    Json.parse text = .ok (.object m)

namespace Settings

variable {c : Settings} {h : Host} {path : String} {m : Members}

/-- What is read where a configuration stands. -/
theorem readFrom_of_hasConfig (hconfig : h.HasConfig path m) :
    c.readFrom h path =
      match c.takeOver m with
      | (c, none) => (c, .ok true)
      | (c, some f) => (c, .error f) := by
  obtain ⟨bytes, text, hread, htext, hparse⟩ := hconfig
  unfold readFrom
  rcases htaken : c.takeOver m with ⟨taken, _ | f⟩ <;>
    simp only [Disk.pathExists_of_read hread, hread, htext, hparse, htaken]

/-- Where no configuration stands, loading changes nothing and does not accept the file. -/
theorem readFrom_of_not_hasConfig (hnone : ∀ m, ¬ h.HasConfig path m) :
    (c.readFrom h path).1 = c ∧ (c.readFrom h path).2 ≠ .ok true := by
  unfold readFrom
  split
  · exact ⟨rfl, nofun⟩
  · exact ⟨rfl, by simp⟩
  · split
    · exact ⟨rfl, by simp⟩
    · rename_i bytes hread
      split
      · exact ⟨rfl, nofun⟩
      · rename_i text htext
        split
        · exact ⟨rfl, by simp⟩
        · exact ⟨rfl, nofun⟩
        · rename_i m hparse
          exact absurd ⟨bytes, text, hread, htext, hparse⟩ (hnone m)
        · exact ⟨rfl, by simp⟩

/-- A fault of loading is one of the host's files, or the content is fatal. -/
theorem readFrom_fault (hc : c.WellShaped) {f : Fault} (hf : (c.readFrom h path).2 = .error f) :
    (∃ g, f = .file g ∧ h.disk.pathExists h.workingDir path = .error g) ∨
      ∃ bytes, h.disk.read h.workingDir path = .ok bytes ∧ FatalConfig bytes := by
  unfold readFrom at hf
  split at hf
  · rename_i g hexists
    cases hf
    exact .inl ⟨g, rfl, hexists⟩
  · cases hf
  · split at hf
    · cases hf
    · rename_i bytes hread
      refine .inr ⟨bytes, hread, ?_⟩
      split at hf
      · rename_i htext
        exact .notText htext
      · rename_i text htext
        split at hf
        · cases hf
        · rename_i digits hparse
          exact .longInteger htext hparse
        · rename_i m hparse
          by_cases hm : Members.TimeoutBeyond m
          · exact .timeout htext hparse hm
          · rw [takeOver_of_not_beyond hc hm] at hf
            cases hf
        · cases hf

/-- A fatal content ends loading in a fault that is none of the host's files. -/
theorem readFrom_of_fatal {bytes : ByteArray} (hread : h.disk.read h.workingDir path = .ok bytes)
    (hfatal : FatalConfig bytes) :
    ∃ f, (c.readFrom h path).2 = .error f ∧ f.isFileFault = false := by
  cases hfatal with
  | notText htext =>
    refine ⟨.notText, ?_, rfl⟩
    unfold readFrom
    rw [Disk.pathExists_of_read hread]
    dsimp only
    rw [hread]
    dsimp only
    rw [htext]
  | @longInteger text digits htext hparse =>
    refine ⟨.longInteger digits, ?_, rfl⟩
    unfold readFrom
    rw [Disk.pathExists_of_read hread]
    dsimp only
    rw [hread]
    dsimp only
    rw [htext]
    dsimp only
    rw [hparse]
  | @timeout text m htext hparse hm =>
    refine ⟨.load .timeoutRange "", ?_, rfl⟩
    rw [readFrom_of_hasConfig ⟨bytes, text, hread, htext, hparse⟩, takeOver_of_beyond hm]

/-- **When loading fails.** -/
theorem readFrom_error_iff (hc : c.WellShaped) :
    (∃ f, (c.readFrom h path).2 = .error f) ↔
      (∃ f, h.disk.pathExists h.workingDir path = .error f) ∨
        ∃ bytes, h.disk.read h.workingDir path = .ok bytes ∧ FatalConfig bytes := by
  constructor
  · rintro ⟨f, hf⟩
    rcases readFrom_fault hc hf with ⟨g, -, hexists⟩ | hfatal
    · exact .inl ⟨g, hexists⟩
    · exact .inr hfatal
  · rintro (⟨f, hexists⟩ | ⟨bytes, hread, hfatal⟩)
    · exact ⟨.file f, by unfold readFrom; rw [hexists]⟩
    · obtain ⟨f, hf, -⟩ := @readFrom_of_fatal c h path bytes hread hfatal
      exact ⟨f, hf⟩

/-- **What a configuration that is not accepted leaves behind**: the settings as they were, unless it
has a timeout beyond every double. -/
theorem readFrom_not_accepted (hc : c.WellShaped) (hr : (c.readFrom h path).2 ≠ .ok true) :
    (c.readFrom h path).1 = c ∨
      ∃ m, h.HasConfig path m ∧ m.TimeoutBeyond ∧ (c.readFrom h path).1 = c.upToTimeout m := by
  by_cases hconfig : ∃ m, h.HasConfig path m
  · obtain ⟨m, hconfig⟩ := hconfig
    rw [readFrom_of_hasConfig hconfig] at hr ⊢
    by_cases hm : m.TimeoutBeyond
    · rw [takeOver_of_beyond hm]
      exact .inr ⟨m, hconfig, hm, rfl⟩
    · rw [takeOver_of_not_beyond hc hm] at hr
      exact absurd rfl hr
  · exact .inl (readFrom_of_not_hasConfig (not_exists.mp hconfig)).1

/-! ## Where the configuration is laid out first -/

variable {paths : ConfigPaths}

/-- Laying out fails with a fault of the host's files. -/
theorem ensure_fault {h' : Host} {f : Fault} (hensure : paths.ensure c h = (h', some f)) :
    ∃ g, f = .file g := by
  unfold ConfigPaths.ensure at hensure
  split at hensure
  · cases hensure
    exact ⟨_, rfl⟩
  · dsimp only at hensure
    split at hensure
    · cases hensure
      exact ⟨_, rfl⟩
    · split at hensure
      · cases hensure
        exact ⟨_, rfl⟩
      · cases hensure
      · cases hensure

/-- Faults of the host's files count as a configuration that was not accepted. -/
def accepted (r : Except Fault Bool) : Except Fault Bool :=
  match r with
  | .error f => if f.isFileFault then .ok false else .error f
  | r => r

theorem accepted_eq_ok_true_iff {r : Except Fault Bool} : accepted r = .ok true ↔ r = .ok true := by
  cases r with
  | error f =>
    unfold accepted
    dsimp only
    split_ifs <;> simp
  | ok b => exact Iff.rfl

theorem accepted_eq_error_iff {r : Except Fault Bool} :
    (∃ f, accepted r = .error f) ↔ ∃ f, r = .error f ∧ f.isFileFault = false := by
  cases r with
  | error f =>
    unfold accepted
    dsimp only
    split_ifs with hf
    · simp [hf]
    · simp [hf]
  | ok b => simp [accepted]

/-- Of the faults of the host's files, only a null character in a path is none of those that are
passed over. -/
theorem isFileFault_eq_false_iff {g : FileFault} :
    (Fault.file g).isFileFault = false ↔ g = .nullInPath := by
  cases g <;> simp [Fault.isFileFault]

theorem reload_of_fault {h' : Host} {f : Fault} (hensure : paths.ensure c h = (h', some f)) :
    c.reload h paths = (c, h', accepted (.error f)) := by
  unfold reload
  rw [hensure]
  rfl

theorem reload_of_ensured {h' : Host} (hensure : paths.ensure c h = (h', none)) :
    c.reload h paths =
      ((c.readFrom h' paths.file).1, h', accepted (c.readFrom h' paths.file).2) := by
  unfold reload
  rw [hensure]
  rfl

/-- **When reloading fails**: the configuration cannot be laid out, as its path has a null character,
or what is there then is fatal. -/
theorem reload_error_iff (hc : c.WellShaped) :
    (∃ f, (c.reload h paths).2.2 = .error f) ↔
      (paths.ensure c h).2 = some (.file .nullInPath) ∨
        (paths.ensure c h).2 = none ∧ ∃ bytes,
          (paths.ensure c h).1.disk.read (paths.ensure c h).1.workingDir paths.file = .ok bytes ∧
            FatalConfig bytes := by
  rcases hensure : paths.ensure c h with ⟨h', r⟩
  cases r with
  | some f =>
    obtain ⟨g, rfl⟩ := ensure_fault hensure
    rw [reload_of_fault hensure]
    dsimp only
    rw [accepted_eq_error_iff]
    constructor
    · rintro ⟨f, hf, hfile⟩
      cases hf
      rw [isFileFault_eq_false_iff] at hfile
      exact .inl (by rw [hfile])
    · rintro (hnull | ⟨hnone, -⟩)
      · exact ⟨_, rfl, isFileFault_eq_false_iff.mpr (by cases hnull; rfl)⟩
      · cases hnone
  | none =>
    rw [reload_of_ensured hensure]
    dsimp only
    rw [accepted_eq_error_iff]
    constructor
    · rintro ⟨f, hf, hfile⟩
      rcases readFrom_fault hc hf with ⟨g, rfl, hexists⟩ | hfatal
      · rw [isFileFault_eq_false_iff.mp hfile] at hexists
        exact absurd hexists Disk.pathExists_ne_nullInPath
      · exact .inr ⟨rfl, hfatal⟩
    · rintro (hnone | ⟨-, bytes, hread, hfatal⟩)
      · cases hnone
      · exact readFrom_of_fatal hread hfatal

/-- **What reloading a configuration that is not accepted leaves behind.** -/
theorem reload_not_accepted (hc : c.WellShaped) (hr : (c.reload h paths).2.2 ≠ .ok true) :
    (c.reload h paths).1 = c ∨
      ∃ m, (paths.ensure c h).1.HasConfig paths.file m ∧ m.TimeoutBeyond ∧
        (c.reload h paths).1 = c.upToTimeout m := by
  rcases hensure : paths.ensure c h with ⟨h', r⟩
  cases r with
  | some f =>
    rw [reload_of_fault hensure]
    exact .inl rfl
  | none =>
    rw [reload_of_ensured hensure] at hr ⊢
    exact readFrom_not_accepted hc fun hok => hr (accepted_eq_ok_true_iff.mpr hok)

end Settings

/-- **Loading a configuration**, for settings that can be reached, from a file and where it is laid
out first. It fails exactly if it cannot be told whether the file is there, or its content is fatal;
laid out first, exactly if the path has a null character, or the content is fatal. A configuration
that is not accepted leaves the settings as they were, unless it has a timeout beyond every double:
then what stands before the timeout is taken over. -/
theorem loading_spec {c : Settings} (hc : Settings.Reachable c) (h : Host) (path : String)
    (paths : ConfigPaths) :
    ((∃ f, (c.readFrom h path).2 = .error f) ↔
      (∃ f, h.disk.pathExists h.workingDir path = .error f) ∨
        ∃ bytes, h.disk.read h.workingDir path = .ok bytes ∧ FatalConfig bytes) ∧
    ((c.readFrom h path).2 ≠ .ok true →
      (c.readFrom h path).1 = c ∨
        ∃ m, h.HasConfig path m ∧ m.TimeoutBeyond ∧ (c.readFrom h path).1 = c.upToTimeout m) ∧
    ((∃ f, (c.reload h paths).2.2 = .error f) ↔
      (paths.ensure c h).2 = some (.file .nullInPath) ∨
        (paths.ensure c h).2 = none ∧ ∃ bytes,
          (paths.ensure c h).1.disk.read (paths.ensure c h).1.workingDir paths.file = .ok bytes ∧
            FatalConfig bytes) ∧
    ((c.reload h paths).2.2 ≠ .ok true →
      (c.reload h paths).1 = c ∨
        ∃ m, (paths.ensure c h).1.HasConfig paths.file m ∧ m.TimeoutBeyond ∧
          (c.reload h paths).1 = c.upToTimeout m) :=
  have hshape := hc.wellShaped
  ⟨Settings.readFrom_error_iff hshape, Settings.readFrom_not_accepted hshape,
    Settings.reload_error_iff hshape, Settings.reload_not_accepted hshape⟩

/-- A host with a configuration of some content in its root directory. -/
def configHost (content : ByteArray) : Host where
  disk := { nodes := [(["config.json"], { entry := .file (.bytes content), modified := 0 })] }
  home := "/"
  workingDir := { path := "/" }

theorem read_configHost (content : ByteArray) :
    (configHost content).disk.read (configHost content).workingDir "/config.json" = .ok content := by
  have hway : Disk.way (configHost content).workingDir "/config.json" =
      .ok ([], ["", "config.json"]) := by rfl
  have hwalk : (configHost content).disk.walk true Disk.maxLinks [] ["", "config.json"] =
      .ok ["config.json"] := by cbv
  exact Disk.read_of_locate (Disk.locate_of_walk hway hwalk) rfl

/-- A text is read from its bytes. -/
theorem fromUTF8?_toUTF8 (s : String) : String.fromUTF8? s.toUTF8 = some s := dif_pos s.isValidUTF8

/-- A configuration that ends early is not accepted, and the shipped settings stay as they are. -/
theorem loading_spec_malformed :
    let h := configHost "\x7boops".toUTF8
    Settings.Reachable {} ∧ (∃ accepted, (Settings.readFrom {} h "/config.json").2 = .ok accepted) ∧
      (Settings.readFrom {} h "/config.json").1 = {} := by
  intro h
  obtain ⟨hfails, hleaves, -, -⟩ := loading_spec .defaults h "/config.json" (.within "/")
  have hread : h.disk.read h.workingDir "/config.json" = .ok "\x7boops".toUTF8 := read_configHost _
  have hparse : Json.parse "\x7boops" = .error .malformed := by cbv
  -- Whatever is read at the path is this text, which writes no value.
  have hvalue {bytes : ByteArray} {text : String}
      (hbytes : h.disk.read h.workingDir "/config.json" = .ok bytes)
      (htext : String.fromUTF8? bytes = some text) : Json.parse text = .error .malformed := by
    rw [hread] at hbytes
    cases hbytes
    rw [fromUTF8?_toUTF8] at htext
    cases htext
    exact hparse
  have hnone (m : Members) : ¬ h.HasConfig "/config.json" m := by
    rintro ⟨bytes, text, hbytes, htext, hm⟩
    rw [hvalue hbytes htext] at hm
    cases hm
  have hok : ∀ f, (Settings.readFrom {} h "/config.json").2 ≠ .error f := by
    intro f hf
    rcases hfails.mp ⟨f, hf⟩ with ⟨g, hexists⟩ | ⟨bytes, hbytes, hfatal⟩
    · rw [Disk.pathExists_of_read hread] at hexists
      cases hexists
    · cases hfatal with
      | notText htext =>
        rw [hread] at hbytes
        cases hbytes
        rw [fromUTF8?_toUTF8] at htext
        cases htext
      | longInteger htext hlong =>
        rw [hvalue hbytes htext] at hlong
        cases hlong
      | timeout htext hm _ =>
        rw [hvalue hbytes htext] at hm
        cases hm
  refine ⟨.defaults, ?_, ?_⟩
  · cases hresult : (Settings.readFrom {} h "/config.json").2 with
    | error f => exact absurd hresult (hok f)
    | ok accepted => exact ⟨accepted, rfl⟩
  · rcases hleaves (Settings.readFrom_of_not_hasConfig hnone).2 with hsame | ⟨m, hm, -, -⟩
    · exact hsame
    · exact absurd hm (hnone m)

/-! ## A configuration that is not accepted and changes the settings -/

/-- A configuration with a log level, and a timeout beyond every double. -/
def hastyConfig : Members :=
  [("general", .object [("log_level", .text "DEBUG")]),
   ("completion", .object [("generator_timeout", .int (10 ^ 400 : Nat))])]

theorem hasConfig_hasty :
    (configHost (Json.object hastyConfig).pretty.toUTF8).HasConfig "/config.json" hastyConfig := by
  have hpower : (10 : Nat) ^ 400 < 10 ^ Json.Parser.maxIntegerDigits :=
    pow_lt_pow_right₀ (by norm_num) (by decide)
  have hshort : Int.natAbs (10 ^ 400 : Nat) < 10 ^ Json.Parser.maxIntegerDigits := by
    rw [Int.natAbs_natCast]
    exact hpower
  have hlegible : (Json.object hastyConfig).Legible :=
    ⟨by decide, ⟨by decide, trivial, trivial⟩, ⟨by decide, hshort, trivial⟩, trivial⟩
  exact ⟨_, _, read_configHost _, fromUTF8?_toUTF8 _, Json.parse_pretty hlegible⟩

theorem timeoutBeyond_hasty : hastyConfig.TimeoutBeyond := by
  have hpositive : 0 < (10 : Nat) ^ 400 := pow_pos (by norm_num) 400
  exact ⟨(10 ^ 400 : Nat), rfl, Int.natCast_pos.mpr hpositive, by decide +kernel⟩

/-- **A configuration that is not accepted, and half taken over**: loading it fails, and the log level
is another one. -/
theorem timeout_half_taken :
    let h := configHost (Json.object hastyConfig).pretty.toUTF8
    Settings.Reachable {} ∧
      Settings.readFrom {} h "/config.json" =
        ({ logLevel := .text "DEBUG" }, .error (.load .timeoutRange "")) := by
  refine ⟨.defaults, ?_⟩
  rw [Settings.readFrom_of_hasConfig hasConfig_hasty, Settings.takeOver_of_beyond timeoutBeyond_hasty]
  rfl

end TabCompletion
