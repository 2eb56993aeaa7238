import TabCompletion.Json.Basic
import TabCompletion.Binary64.Decimal
import TabCompletion.Text.Quoted

/-!
# Values inside messages

How a value is shown in the text of a message or a candidate: texts in quotes, lists in square
and objects in curly brackets, the three words `None`, `True` and `False`, and numbers in their
shortest form. A whole number with too many digits cannot be shown.
-/

namespace TabCompletion.Json

mutual
/-- A value as a message shows it. -/
def literal : Json → String
  | .null => "None"
  | .bool true => "True"
  | .bool false => "False"
  | .int n => toString n
  | .real x => x.text
  | .text s => Text.quoted s
  | .list items => "[" ++ ", ".intercalate (literals items) ++ "]"
  | .object members => "\x7b" ++ ", ".intercalate (memberLiterals members) ++ "\x7d"

/-- The items of a list. -/
def literals : List Json → List String
  | [] => []
  | v :: rest => literal v :: literals rest

/-- The members of an object. -/
def memberLiterals : List (String × Json) → List String
  | [] => []
  | (k, v) :: rest => (Text.quoted k ++ ": " ++ literal v) :: memberLiterals rest
end

/-- A value as plain text: a text is itself, any other value as in a message. -/
def plainText : Json → String
  | .text s => s
  | v => literal v

/-- Whole numbers are shown with at most this many digits. -/
def maxShownDigits : Nat := 4300

mutual
/-- Whether a value can be shown: no whole number in it has too many digits. -/
def isShown : Json → Bool
  | .null | .bool _ | .real _ | .text _ => true
  | .int n => n.natAbs < 10 ^ maxShownDigits
  | .list items => areShown items
  | .object members => membersAreShown members

/-- Whether the items of a list can be shown. -/
def areShown : List Json → Bool
  | [] => true
  | v :: rest => isShown v && areShown rest

/-- Whether the members of an object can be shown. -/
def membersAreShown : List (String × Json) → Bool
  | [] => true
  | (_, v) :: rest => isShown v && membersAreShown rest
end

end TabCompletion.Json
