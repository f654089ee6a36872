import RequestPipeline.Text.Ascii
import RequestPipeline.Text.Unprintable

/-!
# Texts in quotes

`Text.quoted` puts a text between double quotes so that every character of it can be seen: a quote and
a backslash get a backslash in front, the usual control characters have names of one letter, and every
other character without a shape of its own is written as its code point.
-/

namespace RequestPipeline.Text

/-- one character between double quotes -/
def quotedChar (c : Char) : List Char :=
  if c = '"' then ['\\', '"']
  else if c = '\\' then ['\\', '\\']
  else if c.toNat = 0 then ['\\', '0']
  else if c.toNat = 9 then ['\\', 't']
  else if c.toNat = 10 then ['\\', 'n']
  else if c.toNat = 13 then ['\\', 'r']
  else if isUnprintable c then
    '\\' :: 'u' :: '{' :: (Nat.toDigits 16 c.toNat ++ ['}'])
  else [c]

def quoted (s : String) : String :=
  String.ofList ('"' :: s.toList.flatMap quotedChar ++ ['"'])

end RequestPipeline.Text
