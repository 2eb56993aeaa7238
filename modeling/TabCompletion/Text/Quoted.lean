import TabCompletion.Text.Printable

/-!
# Quoted text

How a text is shown inside a message: between single quotes, or between double quotes if it holds
a single quote and no double quote. The quote in use and the backslash get a backslash; tab, line
feed and carriage return are written as letters and other unprintable characters as hexadecimal
escapes.
-/

namespace TabCompletion.Text

/-- The lower-case hexadecimal digits of `n`, at least `width` of them. -/
def hex (width n : Nat) : List Char :=
  let digits := Nat.toDigits 16 n
  List.replicate (width - digits.length) '0' ++ digits

/-- An unprintable character as a hexadecimal escape of two, four or eight digits. -/
def hexEscape (c : Char) : List Char :=
  if c.toNat < 0x100 then '\\' :: 'x' :: hex 2 c.toNat
  else if c.toNat < 0x10000 then '\\' :: 'u' :: hex 4 c.toNat
  else '\\' :: 'U' :: hex 8 c.toNat

/-- One character between the quotes `quote`. -/
def quotedChar (quote c : Char) : List Char :=
  if c = quote ∨ c = '\\' then ['\\', c]
  else if c = '\t' then ['\\', 't']
  else if c = '\n' then ['\\', 'n']
  else if c = '\r' then ['\\', 'r']
  else if isPrintable c then [c]
  else hexEscape c

/-- The quote that needs fewer escapes: a double quote only around a text that holds single
quotes and no double quote. -/
def quoteFor (cs : List Char) : Char :=
  if cs.contains '\'' && !(cs.contains '"') then '"' else '\''

/-- The text in quotes. -/
def quoted (s : String) : String :=
  let quote := quoteFor s.toList
  String.ofList (quote :: s.toList.flatMap (quotedChar quote) ++ [quote])

end TabCompletion.Text
