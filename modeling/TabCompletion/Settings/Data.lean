import TabCompletion.Grammar.Loader
import TabCompletion.Json.Printer
import TabCompletion.Query

/-!
# Settings as data

The sections of a configuration file. What a file gives is taken over value by value, in a fixed
order; a value of a wrong shape is passed over. Icons and styles are added to those in force.

* `Settings.takeOver` is the effect of a configuration on the settings. It stops at a timeout beyond
  every double, and where icons or styles are to be added to what is no object; what was taken over
  before that stays.
* `Settings.toJson` is the configuration that is written for the settings in force. Completion and
  panel styles are left out of it.
-/

namespace TabCompletion

/-- The value of a key in a section. -/
def Members.within? (m : Members) (section_ key : String) : Option Json :=
  match Members.get? m section_ with
  | some (.object inner) => Members.get? inner key
  | _ => none

namespace Settings

/-- The switch that a given value stands for; what was in force if none is given. -/
def flagOr (current : Json) (v : Option Json) : Json := .bool (v.getD current).truthy

/-- The text of a value, if it is one. -/
def textOr (current : Json) : Option Json → Json
  | some (.text s) => .text s
  | _ => current

/-! ## Taking over -/

/-- Takes over the log. -/
def takeLog (m : Members) (c : Settings) : Except Fault Settings :=
  .ok { c with
    logLevel := textOr c.logLevel (Members.within? m "general" "log_level")
    logToFile := flagOr c.logToFile (Members.within? m "general" "log_to_file") }

/-- Takes over the strategy. -/
def takeStrategy (m : Members) (c : Settings) : Except Fault Settings :=
  .ok { c with
    defaultStrategy :=
      match Members.within? m "completion" "default_filter_strategy" with
      | some (.text "prefix") => .text "prefix"
      | some (.text "fuzzy") => .text "fuzzy"
      | _ => c.defaultStrategy }

/-- A timeout that is given: a positive number as a double. The outer `none` stands for a number
beyond every double, the inner one for a value that is passed over. -/
def positiveTimeout : Json → Option (Option Json)
  | .bool true => some (some (.real .one))
  | .int n => if 0 < n then (Binary64.ofInt? n).map fun x => some (.real x) else some none
  | .real x => some (if x.isPositive then some (.real x) else none)
  | _ => some none

/-- Takes over the timeout. -/
def takeTimeout (m : Members) (c : Settings) : Except Fault Settings :=
  let given := (Members.within? m "completion" "generator_timeout").getD c.generatorTimeout
  match positiveTimeout given with
  | none => .error (.load .timeoutRange "")
  | some t => .ok { c with generatorTimeout := t.getD c.generatorTimeout }

/-- Takes over what is offered and which directories hold grammars. -/
def takeSources (m : Members) (c : Settings) : Except Fault Settings :=
  .ok { c with
    showHidden := flagOr c.showHidden (Members.within? m "completion" "show_hidden_files")
    extraSpecDirs :=
      match Members.within? m "completion" "extra_spec_dirs" with
      | some (.list dirs) => .list dirs
      | _ => c.extraSpecDirs }

/-- Adds the icons. -/
def takeIcons (m : Members) (c : Settings) : Except Fault Settings :=
  match Members.within? m "ui" "suggestion_icons" with
  | some (.object icons) =>
    ((c.icons.extended icons).mapError .misuse).map fun icons => { c with icons }
  | _ => .ok c

/-- Adds the styles of completions. -/
def takeCompletionStyles (m : Members) (c : Settings) : Except Fault Settings :=
  match Members.within? m "ui" "completion_styles" with
  | some (.object styles) =>
    ((c.completionStyles.extended styles).mapError .misuse).map fun completionStyles =>
      { c with completionStyles }
  | _ => .ok c

/-- Adds the styles of panels. -/
def takePanels (m : Members) (c : Settings) : Except Fault Settings :=
  match Members.within? m "ui" "panel_styles" with
  | some (.object styles) => (c.putPanels styles).mapError .misuse
  | _ => .ok c

/-- Takes over the prompt. -/
def takePrompt (m : Members) (c : Settings) : Except Fault Settings :=
  .ok { c with
    promptSymbol := (Members.within? m "ui" "prompt_symbol").getD c.promptSymbol
    autoPopup := flagOr c.autoPopup (Members.within? m "ui" "completion_auto_popup") }

/-- The settings after some steps in turn, up to the first that fails, and its fault. -/
def through (c : Settings) : List (Settings → Except Fault Settings) → Settings × Option Fault
  | [] => (c, none)
  | step :: rest =>
    match step c with
    | .ok c => c.through rest
    | .error f => (c, some f)

/-- The settings after a configuration, and the fault that ended it, if any. -/
def takeOver (c : Settings) (m : Members) : Settings × Option Fault :=
  c.through [takeLog m, takeStrategy m, takeTimeout m, takeSources m, takeIcons m,
    takeCompletionStyles m, takePanels m, takePrompt m]

/-! ## Writing -/

/-- The configuration that is written. -/
def toJson (c : Settings) : Json :=
  .object [
    ("general", .object [("log_level", c.logLevel), ("log_to_file", c.logToFile)]),
    ("completion", .object [
      ("default_filter_strategy", c.defaultStrategy),
      ("generator_timeout", c.generatorTimeout),
      ("show_hidden_files", c.showHidden),
      ("extra_spec_dirs", c.extraSpecDirs)]),
    ("ui", .object [
      ("prompt_symbol", c.promptSymbol),
      ("completion_auto_popup", c.autoPopup),
      ("suggestion_icons", c.icons)])]

end Settings

end TabCompletion
