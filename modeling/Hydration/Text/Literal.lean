import Hydration.Text.Hex
import Hydration.Text.Invisible

/-!
# Quoted literals

A text between double quotes.  A backslash stands before the quote and before
itself; NUL, tab, line feed and carriage return have letters; a character without a
picture is written by its code point between braces.

    quote "a\"b" = "\"a\\\"b\""
-/

namespace Hydration.Text

/-- The digits of a number in base sixteen, most significant first. -/
def hexNumeral (n : Nat) : List Char :=
  if n < 16 then [Hex.digit n] else hexNumeral (n / 16) ++ [Hex.digit (n % 16)]

/-- What stands for one character inside the quotes. -/
def escape (c : Char) : List Char :=
  if c = Char.ofNat 0 then ['\\', '0']
  else if c = '\t' then ['\\', 't']
  else if c = '\n' then ['\\', 'n']
  else if c = '\r' then ['\\', 'r']
  else if c = '"' then ['\\', '"']
  else if c = '\\' then ['\\', '\\']
  else if isInvisible c then '\\' :: 'u' :: Char.ofNat 0x7B :: hexNumeral c.toNat ++ [Char.ofNat 0x7D]
  else [c]

/-- The text as a quoted literal. -/
def quote (s : String) : String :=
  String.ofList ('"' :: s.toList.flatMap escape ++ ['"'])

end Hydration.Text
