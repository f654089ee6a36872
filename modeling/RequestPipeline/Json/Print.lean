import RequestPipeline.Json.Value
import RequestPipeline.Number.Shortest

/-!
# The text of a JSON value

`Value.render` writes a value without any blanks, the members of an object in the order they are kept.
In a text a quote, a backslash and the control characters are escaped, and nothing else.
-/

namespace RequestPipeline.Json

def Number.render : Number → List Char
  | .int i => Text.ofInt i
  | .float f => f.text

/-- one character inside quotes -/
def escapeChar (c : Char) : List Char :=
  if c = '"' then ['\\', '"']
  else if c = '\\' then ['\\', '\\']
  else if c.toNat < 0x20 then
    if c.toNat = 8 then ['\\', 'b']
    else if c.toNat = 9 then ['\\', 't']
    else if c.toNat = 10 then ['\\', 'n']
    else if c.toNat = 12 then ['\\', 'f']
    else if c.toNat = 13 then ['\\', 'r']
    else ['\\', 'u', '0', '0', Text.hexChar (c.toNat / 16), Text.hexChar (c.toNat % 16)]
  else [c]

def quote (s : String) : List Char := '"' :: s.toList.flatMap escapeChar ++ ['"']

mutual

def Value.chars : Value → List Char
  | .null => ['n', 'u', 'l', 'l']
  | .bool true => ['t', 'r', 'u', 'e']
  | .bool false => ['f', 'a', 'l', 's', 'e']
  | .number n => n.render
  | .string s => quote s
  | .array items => '[' :: itemChars items
  | .object members => '{' :: memberChars members

def itemChars : List Value → List Char
  | [] => [']']
  | v :: rest => v.chars ++ (if rest.isEmpty then itemChars rest else ',' :: itemChars rest)

def memberChars : List (String × Value) → List Char
  | [] => ['}']
  | (k, v) :: rest =>
    quote k ++ ':' :: (v.chars ++ (if rest.isEmpty then memberChars rest else ',' :: memberChars rest))

end

def Value.render (v : Value) : String := String.ofList v.chars

end RequestPipeline.Json
