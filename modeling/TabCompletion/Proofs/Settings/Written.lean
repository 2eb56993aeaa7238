import Mathlib
import TabCompletion.Proofs.Disk.Written
import TabCompletion.Proofs.Settings.Loading

/-!
# Written configurations

The configuration that is written for some settings is taken over as a whole by any others: it has a
value for each of the settings in it that is of the shape that is asked for, as settings that can be
reached are well shaped. Icons are added to those in force, and what is not written stays.

Results:
* `merged_written`: what the written configuration leads to, setting by setting.
* `readFrom_written`: a file that was written and is there is read back.
* `reload_missing`: laid out where there is none, a configuration is that of the settings in force.
* `readFrom_twice`: a configuration that is accepted is accepted again, and changes nothing more.
* **`written_reads_back`**: all three, for settings that can be reached.
-/

namespace TabCompletion

/-- The first part of laying out a configuration: its directory and that of grammars. -/
def ConfigPaths.directories (paths : ConfigPaths) (h : Host) : Host × Option Fault :=
  match h.disk.makeDirectoriesAt h.workingDir paths.directory with
  | (disk, some f) => ({ h with disk }, some (.file f))
  | (disk, none) =>
    match disk.makeDirectory h.workingDir paths.specs with
    | .ok disk => ({ h with disk }, none)
    | .error f =>
      match disk.isDirectory h.workingDir paths.specs with
      | .ok true => ({ h with disk }, none)
      | _ => ({ h with disk }, some (.file f))

/-- A configuration is laid out in its directories where there is none. -/
theorem ConfigPaths.ensure_of_missing {paths : ConfigPaths} {h h' : Host} (c : Settings)
    (hdirectories : paths.directories h = (h', none))
    (hmissing : h'.disk.pathExists h'.workingDir paths.file = .ok false) :
    paths.ensure c h = (c.writeTo h' paths.file, none) := by
  unfold directories at hdirectories
  unfold ensure
  rcases hdisk : h.disk.makeDirectoriesAt h.workingDir paths.directory with ⟨disk, _ | f⟩
  · simp only [hdisk] at hdirectories ⊢
    cases hspecs : disk.makeDirectory h.workingDir paths.specs with
    | ok disk' =>
      rw [hspecs] at hdirectories
      cases hdirectories
      dsimp only at hmissing ⊢
      rw [hmissing]
    | error f =>
      simp only [hspecs] at hdirectories ⊢
      rcases hdir : disk.isDirectory h.workingDir paths.specs with g | _ | _
      · simp [hdir] at hdirectories
      · simp [hdir] at hdirectories
      · rw [hdir] at hdirectories
        cases hdirectories
        dsimp only at hmissing ⊢
        rw [hmissing]
  · rw [hdisk] at hdirectories
    cases hdirectories

namespace Settings

/-- Settings with those of others that are written, and the icons of the others added. -/
def overriddenBy (d c : Settings) : Settings :=
  { d with
    logLevel := c.logLevel
    logToFile := c.logToFile
    defaultStrategy := c.defaultStrategy
    generatorTimeout := c.generatorTimeout
    showHidden := c.showHidden
    extraSpecDirs := c.extraSpecDirs
    icons := addedTo d.icons (some c.icons)
    promptSymbol := c.promptSymbol
    autoPopup := c.autoPopup }

variable {c d : Settings} {m : Members} {h h' : Host} {path : String} {paths : ConfigPaths}

/-- The timeout that is written is a double. -/
theorem not_beyond_written (hc : c.WellShaped) (hm : c.toJson = .object m) :
    ¬ m.TimeoutBeyond := by
  rintro ⟨n, hn, -, -⟩
  obtain ⟨x, hx, -⟩ := hc.timeout
  cases hm
  have htimeout : some c.generatorTimeout = some (.int n) := hn
  rw [hx] at htimeout
  cases htimeout

/-- **What a written configuration leads to.** -/
theorem merged_written (hc : c.WellShaped) (hm : c.toJson = .object m) :
    d.merged m = d.overriddenBy c := by
  have hlevel : textOr d.logLevel (some c.logLevel) = c.logLevel := by
    obtain ⟨s, hs⟩ := hc.logLevel
    rw [hs]
    rfl
  have hflag {current v : Json} (hv : ∃ b, v = .bool b) : flagOr current (some v) = v := by
    obtain ⟨b, rfl⟩ := hv
    rfl
  have hstrategy : strategyOr d.defaultStrategy (some c.defaultStrategy) = c.defaultStrategy := by
    rcases hc.strategy with h | h <;> rw [h] <;> rfl
  have htimeout : timeoutOr d.generatorTimeout (some c.generatorTimeout) = c.generatorTimeout := by
    obtain ⟨x, hx, hpositive⟩ := hc.timeout
    simp [timeoutOr, positiveTimeout, hx, hpositive]
  have hdirs : dirsOr d.extraSpecDirs (some c.extraSpecDirs) = c.extraSpecDirs := by
    obtain ⟨dirs, hdirs⟩ := hc.specDirs
    rw [hdirs]
    rfl
  have hmerged : d.merged m =
      { d with
        logLevel := textOr d.logLevel (some c.logLevel)
        logToFile := flagOr d.logToFile (some c.logToFile)
        defaultStrategy := strategyOr d.defaultStrategy (some c.defaultStrategy)
        generatorTimeout := timeoutOr d.generatorTimeout (some c.generatorTimeout)
        showHidden := flagOr d.showHidden (some c.showHidden)
        extraSpecDirs := dirsOr d.extraSpecDirs (some c.extraSpecDirs)
        icons := addedTo d.icons (some c.icons)
        promptSymbol := c.promptSymbol
        autoPopup := flagOr d.autoPopup (some c.autoPopup) } := by
    cases hm
    rfl
  rw [hmerged, hlevel, hflag hc.logToFile, hstrategy, htimeout, hflag hc.showHidden, hdirs,
    hflag hc.autoPopup]
  rfl

/-- Settings with their own ones are as they were. -/
theorem overriddenBy_self (hc : c.WellShaped) : c.overriddenBy c = c := by
  obtain ⟨icons, hicons, hnodup⟩ := hc.icons
  have hadded : addedTo c.icons (some c.icons) = c.icons := by
    rw [hicons]
    exact congrArg Json.object (Members.putAll_self hnodup)
  unfold overriddenBy
  rw [hadded]

/-- The configuration of some settings stands in a file. -/
theorem readFrom_of_written (hc : c.WellShaped) (hd : d.WellShaped) (hm : c.toJson = .object m)
    (hconfig : h.HasConfig path m) : d.readFrom h path = (d.overriddenBy c, .ok true) := by
  rw [readFrom_of_hasConfig hconfig, takeOver_of_not_beyond hd (not_beyond_written hc hm),
    merged_written hc hm]

/-- **A file that was written and is there is read back.** -/
theorem readFrom_written (hc : c.WellShaped) (hd : d.WellShaped)
    (hjson : Json.parse c.toJson.pretty = .ok c.toJson) {disk : Disk}
    (hwrite : h.disk.write h.workingDir path c.toJson.pretty.toUTF8 = .ok disk)
    (hexists : disk.pathExists h.workingDir path = .ok true) :
    d.readFrom (c.writeTo h path) path = (d.overriddenBy c, .ok true) := by
  have hhost : c.writeTo h path = { h with disk } := by
    unfold writeTo
    rw [hwrite]
  have hread : disk.read h.workingDir path = .ok c.toJson.pretty.toUTF8 :=
    Disk.read_of_write hwrite hexists
  rw [hhost]
  exact readFrom_of_written hc hd rfl ⟨_, _, hread, fromUTF8?_toUTF8 _, hjson⟩

/-- **Laid out where there is none**, a configuration is that of the settings in force. It is accepted
if it is there then. -/
theorem reload_missing (hc : c.WellShaped) (hjson : Json.parse c.toJson.pretty = .ok c.toJson)
    (hdirectories : paths.directories h = (h', none))
    (hmissing : h'.disk.pathExists h'.workingDir paths.file = .ok false) :
    (c.reload h paths).1 = c ∧ (c.reload h paths).2.1 = c.writeTo h' paths.file ∧
      ((c.reload h paths).2.2 = .ok true ↔
        (c.writeTo h' paths.file).disk.pathExists h'.workingDir paths.file = .ok true) := by
  rw [reload_of_ensured (ConfigPaths.ensure_of_missing c hdirectories hmissing)]
  dsimp only
  rw [accepted_eq_ok_true_iff]
  by_cases hexists : (c.writeTo h' paths.file).disk.pathExists h'.workingDir paths.file = .ok true
  · -- The file is there only if it was written.
    cases hwrite : h'.disk.write h'.workingDir paths.file c.toJson.pretty.toUTF8 with
    | error f =>
      have hsame : c.writeTo h' paths.file = h' := by
        unfold writeTo
        rw [hwrite]
      rw [hsame, hmissing] at hexists
      cases hexists
    | ok disk =>
      have hdisk : (c.writeTo h' paths.file).disk = disk := by
        unfold writeTo
        rw [hwrite]
      rw [hdisk] at hexists
      rw [readFrom_written hc hc hjson hwrite hexists, hdisk]
      exact ⟨overriddenBy_self hc, rfl, iff_of_true rfl hexists⟩
  · have hbase : (c.writeTo h' paths.file).workingDir = h'.workingDir := by
      unfold writeTo
      split <;> rfl
    have hnone (m : Members) : ¬ (c.writeTo h' paths.file).HasConfig paths.file m := by
      rintro ⟨bytes, text, hread, -, -⟩
      exact hexists (hbase ▸ Disk.pathExists_of_read hread)
    obtain ⟨hsame, hnot⟩ := @readFrom_of_not_hasConfig c _ _ hnone
    exact ⟨hsame, rfl, iff_of_false hnot hexists⟩

/-- **A configuration that is accepted is accepted again**, and changes nothing more. -/
theorem readFrom_twice (hd : d.WellShaped) {e : Settings} (he : d.readFrom h path = (e, .ok true)) :
    e.readFrom h path = (e, .ok true) := by
  by_cases hconfig : ∃ m, h.HasConfig path m
  · obtain ⟨m, hconfig⟩ := hconfig
    rw [readFrom_of_hasConfig hconfig] at he ⊢
    by_cases hm : Members.TimeoutBeyond m
    · rw [takeOver_of_beyond hm] at he
      cases he
    · rw [takeOver_of_not_beyond hd hm] at he
      cases he
      rw [takeOver_of_not_beyond (hd.merged m) hm, merged_merged hd]
  · have hnot := (@readFrom_of_not_hasConfig d h path (not_exists.mp hconfig)).2
    rw [he] at hnot
    exact absurd rfl hnot

end Settings

/-- **Written configurations read back.** If what is written of settings as JSON is what is read from
it, and the settings can be reached, then

* written to a file and read from it by any others, they give these all that is written, their icons
  over those of the others;
* laid out where there is no configuration, they are written, and are what they were.

And a configuration that is accepted by settings that can be reached changes nothing more when it is
read again. -/
theorem written_reads_back {c d : Settings} (hc : Settings.Reachable c) (hd : Settings.Reachable d) :
    (Json.parse c.toJson.pretty = .ok c.toJson →
      (∀ (h : Host) (path : String) (disk : Disk),
        h.disk.write h.workingDir path c.toJson.pretty.toUTF8 = .ok disk →
        disk.pathExists h.workingDir path = .ok true →
        d.readFrom (c.writeTo h path) path = (d.overriddenBy c, .ok true)) ∧
      ∀ (h h' : Host) (paths : ConfigPaths), paths.directories h = (h', none) →
        h'.disk.pathExists h'.workingDir paths.file = .ok false →
        (c.reload h paths).1 = c ∧ (c.reload h paths).2.1 = c.writeTo h' paths.file ∧
          ((c.reload h paths).2.2 = .ok true ↔
            (c.writeTo h' paths.file).disk.pathExists h'.workingDir paths.file = .ok true)) ∧
    ∀ (h : Host) (path : String) (e : Settings), d.readFrom h path = (e, .ok true) →
      e.readFrom h path = (e, .ok true) := by
  refine ⟨fun hjson => ⟨fun h path disk hwrite hexists => ?_, fun h h' paths hdirs hmissing => ?_⟩,
    fun h path e he => ?_⟩
  · exact Settings.readFrom_written hc.wellShaped hd.wellShaped hjson hwrite hexists
  · exact Settings.reload_missing hc.wellShaped hjson hdirs hmissing
  · exact Settings.readFrom_twice hd.wellShaped he

/-! ## Chosen settings -/

/-- A configuration with another strategy, a directory of grammars, an icon of its own and one that is
new. -/
def chosenConfig : Members :=
  [("completion", .object [("default_filter_strategy", .text "fuzzy"),
      ("extra_spec_dirs", .list [.text "~/specs"])]),
   ("ui", .object [("suggestion_icons", .object [("folder", .text "D"), ("tape", .text "T")])])]

/-- The settings that it leads to. -/
def chosen : Settings := (Settings.takeOver {} chosenConfig).1

/-- Other settings, with an icon that those do not have. -/
def others : Settings :=
  (Settings.takeOver {} [("ui", .object [("suggestion_icons", .object [("disc", .text "O")])])]).1

theorem legible_chosen : chosen.toJson.Legible := by
  have hchosen : chosen.toJson = .object [
      ("general", .object [("log_level", .text "WARNING"), ("log_to_file", .bool true)]),
      ("completion", .object [("default_filter_strategy", .text "fuzzy"),
        ("generator_timeout", .real .one), ("show_hidden_files", .bool false),
        ("extra_spec_dirs", .list [.text "~/specs"])]),
      ("ui", .object [("prompt_symbol", .text "❯"), ("completion_auto_popup", .bool true),
        ("suggestion_icons", chosen.icons)])] := rfl
  have hicons : chosen.icons.Legible :=
    ⟨by decide, trivial, trivial, trivial, trivial, trivial, trivial, trivial, trivial, trivial,
      trivial⟩
  rw [hchosen]
  exact ⟨by decide, ⟨by decide, trivial, trivial, trivial⟩,
    ⟨by decide, trivial, Binary64.legible_one, trivial, ⟨trivial, trivial⟩, trivial⟩,
    ⟨by decide, trivial, trivial, hicons, trivial⟩, trivial⟩

/-- A file is written in an empty directory, and is there then. -/
theorem write_empty (content : ByteArray) : ∃ disk : Disk,
    Disk.write {} { path := "/" } "/config.json" content = .ok disk ∧
      disk.pathExists { path := "/" } "/config.json" = .ok true := by
  have hway : Disk.way { path := "/" } "/config.json" = .ok ([], ["", "config.json"]) := by rfl
  have hplace : Disk.placeOf {} Disk.maxLinks [] ["", "config.json"] = .ok ["config.json"] := by cbv
  refine ⟨Disk.putAt {} ["config.json"] (.file (.bytes content)), ?_, ?_⟩
  · unfold Disk.write
    rw [hway]
    simp only [bind, Except.bind]
    rw [hplace]
    rfl
  · have hwalk : (Disk.putAt {} ["config.json"] (.file (.bytes content))).walk true Disk.maxLinks []
        ["", "config.json"] = .ok ["config.json"] := by cbv
    exact Disk.pathExists_of_read (Disk.read_of_locate (Disk.locate_of_walk hway hwalk) rfl)

/-- Chosen settings that are written in an empty directory and read by others. -/
theorem written_reads_back_chosen :
    let h := chosen.writeTo { home := "/", workingDir := { path := "/" } } "/config.json"
    Settings.Reachable chosen ∧ Settings.Reachable others ∧
      Json.parse chosen.toJson.pretty = .ok chosen.toJson ∧
      others.readFrom h "/config.json" = (others.overriddenBy chosen, .ok true) ∧
      (others.overriddenBy chosen).icon "folder" = .ok (.text "D") ∧
      (others.overriddenBy chosen).icon "disc" = .ok (.text "O") := by
  have hjson : Json.parse chosen.toJson.pretty = .ok chosen.toJson := Json.parse_pretty legible_chosen
  have hchosen : Settings.Reachable chosen := .takeOver .defaults chosenConfig
  have hothers : Settings.Reachable others := .takeOver .defaults _
  obtain ⟨disk, hwrite, hexists⟩ := write_empty chosen.toJson.pretty.toUTF8
  obtain ⟨hread, -⟩ := (written_reads_back hchosen hothers).1 hjson
  exact ⟨hchosen, hothers, hjson, hread _ "/config.json" disk hwrite hexists, rfl, rfl⟩

end TabCompletion
