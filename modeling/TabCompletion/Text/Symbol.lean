import TabCompletion.Text.Blank
import TabCompletion.Text.Lowercase
import TabCompletion.Text.SymbolTable

/-!
# Symbols in a text

A symbol is written in a text as its name between two colons. The name may end in the way the
symbol is to be shown: as a picture or as text. A name without a symbol stays as it is, with both
of its colons.

* `symbol?` is the symbol of a name.
* `withSymbols` is a text with symbols in the place of their names.
-/

namespace TabCompletion.Text

/-! ## Symbols by name -/

/-- The words of some lines in pairs. -/
def wordPairs (lines : List String) : List (String × String) :=
  let rec pairs : List String → List (String × String)
    | name :: symbol :: rest => (name, symbol) :: pairs rest
    | _ => []
  pairs (lines.flatMap fields)

/-- All symbols with one form by name. -/
def namedSymbolPairs : List (String × String) := wordPairs namedSymbols

/-- The symbols of persons by name. -/
def personSymbolPairs : List (String × String) := wordPairs personSymbols

/-- The flags by name. -/
def flagSymbolPairs : List (String × String) := wordPairs flagSymbols

/-- The tones of the skin, with the ends of the names of symbols in them. -/
def skinTones : List (String × Char) :=
  [("_light_skin_tone", '🏻'), ("_medium-light_skin_tone", '🏼'),
   ("_medium_skin_tone", '🏽'), ("_medium-dark_skin_tone", '🏾'),
   ("_dark_skin_tone", '🏿')]

/-- A symbol of a person in a tone: the tone stands behind the first character, in the place of
the mark of a picture. -/
def inTone (tone : Char) (symbol : String) : String :=
  match symbol.toList with
  | first :: '\uFE0F' :: rest | first :: rest => String.ofList (first :: tone :: rest)
  | [] => ""

/-- What stands before the ending of a text, if it ends so. -/
def beforeEnding? (ending s : String) : Option String :=
  if ending.toList.isSuffixOf s.toList then
    some (String.ofList (s.toList.take (s.length - ending.length)))
  else none

/-- What stands behind the beginning of a text, if it begins so. -/
def behindBeginning? (beginning s : String) : Option String :=
  if beginning.toList.isPrefixOf s.toList then
    some (String.ofList (s.toList.drop beginning.length))
  else none

/-- The symbol of a name in small letters. -/
def symbol? (name : String) : Option String :=
  let toned := skinTones.findSome? fun (ending, tone) =>
    (beforeEnding? ending name).bind fun base => (personSymbolPairs.lookup base).map (inTone tone)
  let flag := (behindBeginning? "flag_for_" name).bind fun country =>
    flagSymbolPairs.lookup country
  let named := (namedSymbolPairs ++ personSymbolPairs ++ flagSymbolPairs).lookup name
  named.or (toned.or flag)

/-! ## Names between colons -/

/-- The endings of a name that tell how the symbol is to be shown, with the marks they stand for. -/
def shownAs : List (String × Char) := [("-emoji:", '\uFE0F'), ("-text:", '\uFE0E')]

/-- The name at the front of a text, of which `taken` was read already, last character first, the
mark of the way it is to be shown, and what follows the colon. -/
def takeName (taken : List Char) : List Char → Option (List Char × List Char × List Char)
  | [] => none
  | c :: rest =>
    match shownAs.find? fun (ending, _) => ending.toList.isPrefixOf (c :: rest) with
    | some (ending, mark) => some (taken.reverse, [mark], (c :: rest).drop ending.length)
    | none =>
      if c = ':' then some (taken.reverse, [], rest)
      else if isBlank c then none
      else takeName (c :: taken) rest

/-- `cs` with symbols in the place of names, after as many characters as `skip` that are left
out. -/
def symbolsFrom : Nat → List Char → List Char
  | _, [] => []
  | skip + 1, _ :: rest => symbolsFrom skip rest
  | 0, c :: rest =>
    match if c = ':' then takeName [] rest else none with
    | none => c :: symbolsFrom 0 rest
    | some (name, mark, after) =>
      let length := rest.length - after.length
      let here := match symbol? (lower (String.ofList name)) with
        | some symbol => symbol.toList ++ mark
        | none => c :: rest.take length
      here ++ symbolsFrom length rest

/-- A text with symbols in the place of their names. -/
def withSymbols (s : String) : String := String.ofList (symbolsFrom 0 s.toList)

end TabCompletion.Text
