import DeliveryBench.Text.Hex
import DeliveryBench.Text.Unseen

/-!
Text between double quotes, with escapes for what a reader could not see.

A quote, a backslash, tab, carriage return, line feed and NUL are written with a backslash and one
character; every other unseen character (`isUnseen`) is written as `\u` and its code point in
braces; all else stands as it is.
-/

namespace DeliveryBench.Text

/-- The form of one character between quotes. -/
def quotedChar (c : Char) : List Char :=
  if c = '"' then ['\\', '"']
  else if c = '\\' then ['\\', '\\']
  else if c = '\t' then ['\\', 't']
  else if c = '\r' then ['\\', 'r']
  else if c = '\n' then ['\\', 'n']
  else if c = '\x00' then ['\\', '0']
  else if isUnseen c then ['\\', 'u', '{'] ++ hexDigits c.toNat ++ ['}']
  else [c]

/-- A text between double quotes. -/
def quoted (s : String) : String :=
  String.ofList ('"' :: s.toList.flatMap quotedChar ++ ['"'])

/-- Texts between quotes, in brackets, separated by commas. -/
def quotedList (texts : List String) : String :=
  "[" ++ ", ".intercalate (texts.map quoted) ++ "]"

/-- A text that may be absent. -/
def quotedOption : Option String → String
  | none => "None"
  | some s => "Some(" ++ quoted s ++ ")"

end DeliveryBench.Text
