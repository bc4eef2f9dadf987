import Sagas.Text.Unprintable

/-!
# Quoted text

The spelling of a text inside an inspected value: in double quotes, with the quote, the
backslash and the common control characters behind a backslash, and every character
without a shape of its own as `\u{…}` in lower-case hexadecimal.
-/

namespace Sagas.Text

/-- The hexadecimal digits of a code point, lower case, without leading zeros. -/
def hexDigits (n : Nat) : List Char := Nat.toDigits 16 n

/-- How one character is spelled inside quotes. The apostrophe needs no escape. -/
def quoteChar (c : Char) : List Char :=
  if c = '"' then ['\\', '"']
  else if c = '\\' then ['\\', '\\']
  else if c = '\n' then ['\\', 'n']
  else if c = '\r' then ['\\', 'r']
  else if c = '\t' then ['\\', 't']
  else if c = '\x00' then ['\\', '0']
  else if isUnprintable c then ['\\', 'u', '\x7b'] ++ hexDigits c.toNat ++ ['\x7d']
  else [c]

/-- The text in double quotes. -/
def quote (s : String) : String :=
  String.ofList ('"' :: s.toList.flatMap quoteChar ++ ['"'])

/-- An inspected optional text: `None`, or `Some(…)` around the quoted text. -/
def quoteOption : Option String → String
  | none => "None"
  | some s => "Some(" ++ quote s ++ ")"

end Sagas.Text
