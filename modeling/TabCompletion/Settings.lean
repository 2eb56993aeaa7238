import TabCompletion.Grammar.Basic
import TabCompletion.Json.Parts

/-!
# Settings

Everything a user may configure, with the values that hold without a configuration file. Values
that may be given in any shape are kept as data and read where they are used: a switch counts as
on by `Json.truthy`.

* `Settings.icon` is the icon of a kind of candidate.
* `Settings.panelStyle` is the style of a panel, each part from its own style or else from the
  default one.
-/

namespace TabCompletion

/-- The configured values. -/
structure Settings where
  logLevel : Json := .text "WARNING"
  logToFile : Json := .bool true
  /-- The strategy of grammar nodes that set none, by its word. -/
  defaultStrategy : Json := .text "prefix"
  /-- Seconds that a generator script may take. -/
  generatorTimeout : Json := .real .one
  showHidden : Json := .bool false
  /-- Directories with more grammars. -/
  extraSpecDirs : Json := .list []
  /-- The icon of each kind of candidate. -/
  icons : Json := .object [("subcommand", .text "📦"), ("option", .text "🔗"),
    ("arg", .text "💲"), ("file", .text "📄"), ("folder", .text "📁"), ("special", .text "⭐"),
    ("mixed", .text "🔀"), ("default", .text "📀")]
  promptSymbol : Json := .text "❯"
  promptPlaceholder : Json := .text
    "<style color=\"#888888\">type a command, Tab to complete</style>"
  autoPopup : Json := .bool true
  completionStyles : Json := .object [
    ("completion.menu", .text "#0a0a0a"),
    ("scrollbar.background", .text "bg:#0a7e98 bold"),
    ("completion-menu.completion", .text "bg:#0a0a0a fg:#aaaaaa bold"),
    ("completion-menu.completion.current", .text "bg:#888888 fg:#0a0a0a bold"),
    ("completion-menu.meta.completion", .text "bg:#0a0a0a fg:#aaaaaa"),
    ("completion-menu.meta.completion.current", .text "bg:#888888"),
    ("prompt_symbol", .text "#f2d5cf bold"),
    ("bottom-toolbar", .text "#737994")]
  /-- The styles of panels by name; without any, the shipped ones hold. -/
  panelStyles : Option Json := none
  deriving DecidableEq

namespace Settings

/-- The settings without a configuration file. -/
def defaults : Settings := {}

/-- The strategy that holds where a node has `s`: its own, else the configured one, else leading
text. -/
def effective (c : Settings) (s : Strategy) : Strategy :=
  if s = .unset then
    match c.defaultStrategy with
    | .text w => (Strategy.ofWord? w).getD .leading
    | _ => .leading
  else s

/-- The icon of a kind of candidate, by its word; a kind without one has the default icon. -/
def icon (c : Settings) (kind : String) : Except Misuse Json :=
  c.icons.members.map fun icons =>
    ((Members.get? icons kind).or (Members.get? icons "default")).getD (.text "")

end Settings

/-! ## Panel styles -/

/-- The style of a shipped panel with a border of a colour. -/
def shippedPanel (border : String) : Json :=
  .object [("border_style", .text border), ("padding", .list [.int 0, .int 1]),
    ("title_align", .text "left"), ("expand", .bool false)]

/-- The shipped styles of panels by name. -/
def shippedPanels : Members :=
  [("default", shippedPanel "#888888"), ("info", shippedPanel "#8caaee"),
   ("warning", shippedPanel "#e5c890")]

/-- The style of a panel, each part from its own style or else from the default one. -/
structure PanelStyle where
  border : Json
  padding : Json
  titleAlign : Json
  expand : Json
  deriving DecidableEq, Repr

namespace Settings

/-- The styles of panels in force. -/
def panels (c : Settings) : Json := c.panelStyles.getD (.object shippedPanels)

/-- Puts those of the given styles that are objects over the styles in force. -/
def putPanels (c : Settings) (given : Members) : Except Misuse Settings :=
  let styles := given.filter fun (_, style) =>
    match style with
    | .object _ => true
    | _ => false
  if styles.isEmpty then .ok c
  else match c.panels with
    | .object m => .ok { c with panelStyles := some (.object (Members.putAll m styles)) }
    | v => .error (.naming v)

/-- The style of a panel. One without a style of its own has the default style. -/
def panelStyle (c : Settings) (name : String) : Except Misuse PanelStyle := do
  let panels ← c.panels.members
  match Members.get? panels "default" with
  | none => .error .missingName
  | some shared => do
    let own ← ((Members.get? panels name).getD shared).members
    let shared ← shared.members
    let part (key : String) (last : Json) : Json :=
      ((Members.get? own key).or (Members.get? shared key)).getD last
    pure {
      border := part "border_style" (.text "#888888")
      padding := part "padding" .null
      titleAlign := part "title_align" (.text "left")
      expand := part "expand" (.bool false) }

end Settings

end TabCompletion
