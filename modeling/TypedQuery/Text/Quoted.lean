import TypedQuery.Unicode.Visible

/-!
# Quoted texts

How a text is shown inside a message: in double quotes, with every character
that cannot be shown on its own written as an escape.  NUL, tab, line feed and
carriage return, the double quote and the backslash have short escapes.  All
others are written by their code point, as in `\u{301}`.
-/

namespace TypedQuery.Text

/-- A code point in hexadecimal, without leading zeros. -/
def hex (n : Nat) : List Char :=
  Nat.toDigits 16 n

/-- A character as it is shown between quotes. -/
def shown (c : Char) : List Char :=
  if c = '\x00' then ['\\', '0']
  else if c = '\t' then ['\\', 't']
  else if c = '\r' then ['\\', 'r']
  else if c = '\n' then ['\\', 'n']
  else if c = '"' ∨ c = '\\' then ['\\', c]
  else if Unicode.isVisible c then [c]
  else ['\\', 'u', '\x7b'] ++ hex c.toNat ++ ['\x7d']

/-- A text in quotes. -/
def quoted (text : String) : String :=
  String.ofList ('"' :: text.toList.flatMap shown ++ ['"'])

example : quoted "a\tb" = "\"a\\tb\"" := by decide +kernel
example : quoted "e\u0301" = "\"e\\u\x7b301\x7d\"" := by decide +kernel
example : quoted "it's" = "\"it's\"" := by decide +kernel

end TypedQuery.Text
