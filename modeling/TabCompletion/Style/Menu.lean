import TabCompletion.Text.Blank
import TabCompletion.Text.Lowercase

/-!
# Styles of the menu

A style of the prompt and its menu is told word by word: words that set or take back a mark, and
colours of the characters and of their ground. A colour is told by its name, by `#` and three or
six characters, or not at all.

* `MenuStyle.wrongColour?` is the first colour of a style that is none.
-/

namespace TabCompletion.MenuStyle

/-- The words that are no colours. -/
def plainWords : List String :=
  ["noinherit", "bold", "nobold", "italic", "noitalic", "underline", "nounderline", "strike",
   "nostrike", "blink", "noblink", "reverse", "noreverse", "hidden", "nohidden", "dim", "nodim",
   "roman", "sans", "mono"]

/-- The names of the colours of the terminal, the present ones and the former ones. -/
def terminalColours : List String :=
  ["ansidefault", "ansiblack", "ansired", "ansigreen", "ansiyellow", "ansiblue", "ansimagenta",
   "ansicyan", "ansigray", "ansibrightblack", "ansibrightred", "ansibrightgreen",
   "ansibrightyellow", "ansibrightblue", "ansibrightmagenta", "ansibrightcyan", "ansiwhite",
   "ansidarkgray", "ansiteal", "ansiturquoise", "ansibrown", "ansipurple", "ansifuchsia",
   "ansilightgray", "ansidarkred", "ansidarkgreen", "ansidarkblue"]

/-- The names of all other colours, which may be written in capitals as well. -/
def namedColours : List String :=
  ["aliceblue", "antiquewhite", "aqua", "aquamarine", "azure", "beige", "bisque", "black",
   "blanchedalmond", "blue", "blueviolet", "brown", "burlywood", "cadetblue", "chartreuse",
   "chocolate", "coral", "cornflowerblue", "cornsilk", "crimson", "cyan", "darkblue", "darkcyan",
   "darkgoldenrod", "darkgray", "darkgreen", "darkgrey", "darkkhaki", "darkmagenta",
   "darkolivegreen", "darkorange", "darkorchid", "darkred", "darksalmon", "darkseagreen",
   "darkslateblue", "darkslategray", "darkslategrey", "darkturquoise", "darkviolet", "deeppink",
   "deepskyblue", "dimgray", "dimgrey", "dodgerblue", "firebrick", "floralwhite", "forestgreen",
   "fuchsia", "gainsboro", "ghostwhite", "gold", "goldenrod", "gray", "green", "greenyellow",
   "grey", "honeydew", "hotpink", "indianred", "indigo", "ivory", "khaki", "lavender",
   "lavenderblush", "lawngreen", "lemonchiffon", "lightblue", "lightcoral", "lightcyan",
   "lightgoldenrodyellow", "lightgray", "lightgreen", "lightgrey", "lightpink", "lightsalmon",
   "lightseagreen", "lightskyblue", "lightslategray", "lightslategrey", "lightsteelblue",
   "lightyellow", "lime", "limegreen", "linen", "magenta", "maroon", "mediumaquamarine",
   "mediumblue", "mediumorchid", "mediumpurple", "mediumseagreen", "mediumslateblue",
   "mediumspringgreen", "mediumturquoise", "mediumvioletred", "midnightblue", "mintcream",
   "mistyrose", "moccasin", "navajowhite", "navy", "oldlace", "olive", "olivedrab", "orange",
   "orangered", "orchid", "palegoldenrod", "palegreen", "paleturquoise", "palevioletred",
   "papayawhip", "peachpuff", "peru", "pink", "plum", "powderblue", "purple", "rebeccapurple",
   "red", "rosybrown", "royalblue", "saddlebrown", "salmon", "sandybrown", "seagreen", "seashell",
   "sienna", "silver", "skyblue", "slateblue", "slategray", "slategrey", "snow", "springgreen",
   "steelblue", "tan", "teal", "thistle", "tomato", "turquoise", "violet", "wheat", "white",
   "whitesmoke", "yellow", "yellowgreen"]

/-- Whether a text tells a colour. -/
def isColour (s : String) : Bool :=
  terminalColours.contains s || namedColours.contains (Text.lower s) ||
    match s.toList with
    | [] => true
    | '#' :: rest =>
      terminalColours.contains (String.ofList rest) || rest.length = 6 || rest.length = 3
    | _ => s = "default"

/-- The colour that a word tells, `none` for a word that tells something else. Words in square
brackets are marks of the program's own. -/
def colourOf? (word : String) : Option String :=
  match word.toList with
  | 'b' :: 'g' :: ':' :: rest | 'f' :: 'g' :: ':' :: rest => some (String.ofList rest)
  | cs =>
    if plainWords.contains word || "border:".toList.isPrefixOf cs ||
      (cs.head? = some '[' && cs.getLast? = some ']') then none
    else some word

/-- The first colour of a style that is none. -/
def wrongColour? (style : String) : Option String :=
  ((Text.fields style).filterMap colourOf?).find? (!isColour ·)

end TabCompletion.MenuStyle
