import TabCompletion.Json.Basic
import TabCompletion.Text.Lines

/-!
# The parts of values

Values taken apart without regard to what they stand for. Lists, texts and objects have parts:
items, characters and names. What a value of another kind is asked for ends in a misuse, which
names the kinds involved.

* `Json.parts` are all parts, `Json.partAt` is the one at a place, `Json.holds` tells whether a
  text is among them.
* `Json.members` are the members of an object, and `Json.extended` puts more into one.
-/

namespace TabCompletion

/-- A use of a value that its kind does not allow. -/
inductive Misuse where
  | sum (a b : Json)
  | difference (a b : Json)
  | repetition (times : Json)
  | size (v : Json)
  | part (v : Json)
  | search (v : Json)
  | joining (index : Nat) (v : Json)
  | iteration (v : Json)
  /-- A value is put under a name. -/
  | naming (v : Json)
  /-- A value is looked up as a name. -/
  | lookup (v : Json)
  /-- A list or a text has no part at a place. -/
  | missingPart
  /-- An object has nothing under a name. -/
  | missingName
  /-- A value has no members to look at. -/
  | noMembers
  deriving DecidableEq, Repr

namespace Json

/-- The word for the type of a value. -/
def typeWord : Json → String
  | .null => "NoneType"
  | .bool _ => "bool"
  | .int _ => "int"
  | .real _ => "float"
  | .text _ => "str"
  | .list _ => "list"
  | .object _ => "dict"

/-- The parts of a value, if it has any. -/
def parts? : Json → Option (List Json)
  | .list items => some items
  | .text s => some (s.toList.map fun c => .text (String.singleton c))
  | .object m => some (m.map fun (name, _) => .text name)
  | _ => none

/-- The parts of a value. -/
def parts (v : Json) : Except Misuse (List Json) :=
  match v.parts? with
  | some ps => .ok ps
  | none => .error (.iteration v)

/-- The part of a list or a text at a place, counted from zero. -/
def partAt (v : Json) (k : Nat) : Except Misuse Json :=
  match v, v.parts? with
  | .object _, _ => .error .missingName
  | _, none => .error (.part v)
  | _, some ps =>
    match ps[k]? with
    | some p => .ok p
    | none => .error .missingPart

/-- The members of a value, which has to be an object. -/
def members : Json → Except Misuse Members
  | .object m => .ok m
  | _ => .error .noMembers

/-- The value after the members of `new` are put into it. -/
def extended (v : Json) (new : Members) : Except Misuse Json :=
  v.members.map fun m => .object (Members.putAll m new)

/-- Whether a text stands in a text, or is an item of a list or a name in an object. -/
def holds (v : Json) (wanted : String) : Except Misuse Bool :=
  match v, v.parts? with
  | .text s, _ => .ok ((Text.splitOn wanted s).length ≠ 1)
  | _, some ps => .ok (ps.contains (.text wanted))
  | _, none => .error (.search v)

end Json

/-- Texts in one: every value has to be a text; `index` counts those before. -/
def joined (index : Nat) : List Json → Except Misuse String
  | [] => .ok ""
  | .text s :: rest => (joined (index + 1) rest).map (s ++ ·)
  | v :: _ => .error (.joining index v)

/-- A sum that cannot be built, in words: what is put together decides by its first part. -/
def Misuse.sumMessage (a b : Json) : String :=
  match a with
  | .text _ => "can only concatenate str (not \"" ++ b.typeWord ++ "\") to str"
  | .list _ => "can only concatenate list (not \"" ++ b.typeWord ++ "\") to list"
  | a => "unsupported operand type(s) for +: '" ++ a.typeWord ++ "' and '" ++ b.typeWord ++ "'"

/-- The wording of a misuse; a part, a name or members that are missing have none of their own. -/
def Misuse.message : Misuse → String
  | .sum a b => sumMessage a b
  | .difference a b =>
    "unsupported operand type(s) for -: '" ++ a.typeWord ++ "' and '" ++ b.typeWord ++ "'"
  | .repetition times => "can't multiply sequence by non-int of type '" ++ times.typeWord ++ "'"
  | .size v => "object of type '" ++ v.typeWord ++ "' has no len()"
  | .part v => "'" ++ v.typeWord ++ "' object is not subscriptable"
  | .search v => "argument of type '" ++ v.typeWord ++ "' is not iterable"
  | .joining index v =>
    "sequence item " ++ toString index ++ ": expected str instance, " ++ v.typeWord ++ " found"
  | .iteration v => "'" ++ v.typeWord ++ "' object is not iterable"
  | .naming (.list _) => "list indices must be integers or slices, not str"
  | .naming v => "'" ++ v.typeWord ++ "' object does not support item assignment"
  | .lookup v => "unhashable type: '" ++ v.typeWord ++ "'"
  | .missingPart | .missingName | .noMembers => ""

end TabCompletion
