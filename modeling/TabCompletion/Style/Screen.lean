import TabCompletion.Style.Colour

/-!
# Styles of the screen

A style of the screen is told word by word: attributes that it sets, or takes back after `not`, a
colour, a colour of the ground after `on`, and a target after `link`. What is said later replaces
what was said before. Besides, some styles have names of their own.

* `ScreenStyle.ofText` is the style that a text tells.
* `ScreenStyle.text` tells a style in one and the same way, however it was told.
* `ScreenStyle.check` refuses a text that is no style, with the reason.
-/

namespace TabCompletion

/-- What a style does to characters besides their colours. -/
inductive Attribute where
  | bold | dim | italic | underline | blink | rapidBlink | reverse | conceal | strike
  | doubleUnderline | frame | encircle | overline
  deriving DecidableEq, Repr

namespace Attribute

/-- All attributes, in the order in which a style tells them, with their words. -/
def table : List (Attribute × String) :=
  [(.bold, "bold"), (.dim, "dim"), (.italic, "italic"), (.underline, "underline"),
   (.blink, "blink"), (.rapidBlink, "blink2"), (.reverse, "reverse"), (.conceal, "conceal"),
   (.strike, "strike"), (.doubleUnderline, "underline2"), (.frame, "frame"),
   (.encircle, "encircle"), (.overline, "overline")]

/-- The short words for attributes. -/
def shortTable : List (Attribute × String) :=
  [(.bold, "b"), (.dim, "d"), (.italic, "i"), (.underline, "u"), (.reverse, "r"), (.conceal, "c"),
   (.strike, "s"), (.doubleUnderline, "uu"), (.overline, "o")]

/-- The attribute of a word. -/
def ofWord? (word : String) : Option Attribute :=
  ((table ++ shortTable).find? (·.2 = word)).map (·.1)

end Attribute

/-- A style of the screen. -/
structure ScreenStyle where
  /-- The attributes that are set, or taken back, the last one first. -/
  attributes_ : List (Attribute × Bool) := []
  colour : Option String := none
  ground : Option String := none
  link : Option String := none
  deriving DecidableEq, Repr

namespace ScreenStyle

/-- The names of whole styles. -/
def names : List String :=
  ["none", "reset", "dim", "bright", "bold", "strong", "code", "italic", "emphasize", "underline",
   "blink", "blink2", "reverse", "strike", "black", "red", "green", "yellow", "magenta", "cyan",
   "white", "inspect.attr", "inspect.attr.dunder", "inspect.callable", "inspect.async_def",
   "inspect.def", "inspect.class", "inspect.error", "inspect.equals", "inspect.help", "inspect.doc",
   "inspect.value.border", "live.ellipsis", "layout.tree.row", "layout.tree.column",
   "logging.keyword", "logging.level.notset", "logging.level.debug", "logging.level.info",
   "logging.level.warning", "logging.level.error", "logging.level.critical", "log.level",
   "log.time", "log.message", "log.path", "repr.ellipsis", "repr.indent", "repr.error", "repr.str",
   "repr.brace", "repr.comma", "repr.ipv4", "repr.ipv6", "repr.eui48", "repr.eui64",
   "repr.tag_start", "repr.tag_name", "repr.tag_contents", "repr.tag_end", "repr.attrib_name",
   "repr.attrib_equal", "repr.attrib_value", "repr.number", "repr.number_complex", "repr.bool_true",
   "repr.bool_false", "repr.none", "repr.url", "repr.uuid", "repr.call", "repr.path",
   "repr.filename", "rule.line", "rule.text", "json.brace", "json.bool_true", "json.bool_false",
   "json.null", "json.number", "json.str", "json.key", "prompt", "prompt.choices", "prompt.default",
   "prompt.invalid", "prompt.invalid.choice", "pretty", "scope.border", "scope.key",
   "scope.key.special", "scope.equals", "table.header", "table.footer", "table.cell", "table.title",
   "table.caption", "traceback.error", "traceback.border.syntax_error", "traceback.border",
   "traceback.text", "traceback.title", "traceback.exc_type", "traceback.exc_value",
   "traceback.offset", "bar.back", "bar.complete", "bar.finished", "bar.pulse",
   "progress.description", "progress.filesize", "progress.filesize.total", "progress.download",
   "progress.elapsed", "progress.percentage", "progress.remaining", "progress.data.speed",
   "progress.spinner", "status.spinner", "tree", "tree.line", "markdown.paragraph", "markdown.text",
   "markdown.em", "markdown.emph", "markdown.strong", "markdown.code", "markdown.code_block",
   "markdown.block_quote", "markdown.list", "markdown.item", "markdown.item.bullet",
   "markdown.item.number", "markdown.hr", "markdown.h1.border", "markdown.h1", "markdown.h2",
   "markdown.h3", "markdown.h4", "markdown.h5", "markdown.h6", "markdown.h7", "markdown.link",
   "markdown.link_url", "markdown.s", "iso8601.date", "iso8601.time", "iso8601.timezone"]

/-- Sets an attribute, or takes it back. -/
def put (s : ScreenStyle) (a : Attribute) (on_ : Bool) : ScreenStyle :=
  { s with attributes_ := (a, on_) :: s.attributes_ }

/-- A style with what some more words tell. -/
def read (s : ScreenStyle) : List String → Except StyleFault ScreenStyle
  | [] => .ok s
  | first :: rest =>
    let word := Text.lower first
    if word = "on" ∨ word = "not" ∨ word = "link" then
      match rest with
      | [] => .error .unknown
      | next :: rest =>
        if word = "on" then do
          Colour.check next
          read { s with ground := some (Text.lower next) } rest
        else if word = "not" then
          match Attribute.ofWord? next with
          | some a => read (s.put a false) rest
          | none => .error .unknown
        else read { s with link := some next } rest
    else match Attribute.ofWord? word with
      | some a => read (s.put a true) rest
      | none => do
        Colour.checkLower word
        read { s with colour := some word } rest

/-- The style that a text tells. -/
def ofText (s : String) : Except StyleFault ScreenStyle :=
  if Text.trim s = "none" then .ok {} else read {} (Text.fields s)

/-- The words that tell a style. -/
def words (s : ScreenStyle) : List String :=
  let marks := Attribute.table.filterMap fun (a, word) =>
    (s.attributes_.find? (·.1 = a)).map fun (_, on_) => if on_ then word else "not " ++ word
  marks ++ s.colour.toList ++ (s.ground.map ("on " ++ ·)).toList ++
    (s.link.map ("link " ++ ·)).toList

/-- The text that tells a style. -/
def text (s : ScreenStyle) : String :=
  if s.words.isEmpty then "none" else " ".intercalate s.words

/-- Refuses a text that is neither the name of a style nor tells one. -/
def check (s : String) : Except StyleFault Unit :=
  if names.contains s then .ok () else (ofText s).map fun _ => ()

end ScreenStyle

end TabCompletion
