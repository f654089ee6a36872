/-!
# Texts as bytes

`Utf8.encode` writes characters as bytes, `Utf8.decode` reads bytes that hold nothing but well-formed
characters, and `Utf8.decodeLossy` puts U+FFFD in place of each maximal ill-formed part.  All three
rest on `Utf8.next`, which takes one character or one ill-formed part off the front.
-/

namespace RequestPipeline

abbrev Bytes := List UInt8

namespace Utf8

def encodeChar (c : Char) : Bytes :=
  let n := c.toNat
  if n < 0x80 then [n.toUInt8]
  else if n < 0x800 then [(0xC0 + n / 64).toUInt8, (0x80 + n % 64).toUInt8]
  else if n < 0x10000 then
    [(0xE0 + n / 4096).toUInt8, (0x80 + n / 64 % 64).toUInt8, (0x80 + n % 64).toUInt8]
  else
    [(0xF0 + n / 262144).toUInt8, (0x80 + n / 4096 % 64).toUInt8, (0x80 + n / 64 % 64).toUInt8,
      (0x80 + n % 64).toUInt8]

def encode (cs : List Char) : Bytes := cs.flatMap encodeChar

def ofText (s : String) : Bytes := encode s.toList

/-- whether a byte continues a character that began before it -/
def isContinuation (b : UInt8) : Bool := 0x80 ≤ b && b < 0xC0

/-- the six bits that a continuation byte carries -/
def bits (b : UInt8) : Nat := b.toNat % 64

/-- whether `b` may follow the first byte of a three-byte character: this leaves out overlong forms
and surrogates -/
def secondOfThree (first b : UInt8) : Bool :=
  isContinuation b && (first != 0xE0 || 0xA0 ≤ b) && (first != 0xED || b < 0xA0)

/-- whether `b` may follow the first byte of a four-byte character: this leaves out overlong forms
and what lies above U+10FFFF -/
def secondOfFour (first b : UInt8) : Bool :=
  isContinuation b && (first != 0xF0 || 0x90 ≤ b) && (first != 0xF4 || b < 0x90)

/-- What stands at the front of a list of bytes. -/
inductive Step where
  /-- nothing -/
  | done
  /-- a character and what follows it -/
  | char (c : Char) (rest : Bytes)
  /-- an ill-formed part and what follows it -/
  | bad (rest : Bytes)

/-- takes one character, or one maximal ill-formed part, off the front -/
def next : Bytes → Step
  | [] => .done
  | a :: rest =>
    if a < 0x80 then .char (Char.ofNat a.toNat) rest
    else if a < 0xC2 then .bad rest
    else if a < 0xE0 then
      match rest with
      | b :: rest' =>
        if isContinuation b then .char (Char.ofNat (a.toNat % 32 * 64 + bits b)) rest' else .bad rest
      | [] => .bad []
    else if a < 0xF0 then
      match rest with
      | b :: rest' =>
        if secondOfThree a b then
          match rest' with
          | c :: rest'' =>
            if isContinuation c then
              .char (Char.ofNat (a.toNat % 16 * 4096 + bits b * 64 + bits c)) rest''
            else .bad rest'
          | [] => .bad []
        else .bad rest
      | [] => .bad []
    else if a < 0xF5 then
      match rest with
      | b :: rest' =>
        if secondOfFour a b then
          match rest' with
          | c :: rest'' =>
            if isContinuation c then
              match rest'' with
              | d :: rest''' =>
                if isContinuation d then
                  .char (Char.ofNat (a.toNat % 8 * 262144 + bits b * 4096 + bits c * 64 + bits d)) rest'''
                else .bad rest''
              | [] => .bad []
            else .bad rest'
          | [] => .bad []
        else .bad rest
      | [] => .bad []
    else .bad rest

/-- reads at most `fuel` characters on top of `acc` -/
def decodeAux : Nat → List Char → Bytes → Option (List Char)
  | 0, acc, bs => if bs.isEmpty then some acc.reverse else none
  | fuel + 1, acc, bs =>
    match next bs with
    | .done => some acc.reverse
    | .char c rest => decodeAux fuel (c :: acc) rest
    | .bad _ => none

/-- reads bytes that hold nothing but well-formed characters -/
def decode (bs : Bytes) : Option (List Char) := decodeAux bs.length [] bs

def toText? (bs : Bytes) : Option String := (decode bs).map String.ofList

/-- whether at most `fuel` parts are characters, but for a last one that is cut off -/
def isBegunAux : Nat → Bytes → Bool
  | 0, bs => bs.isEmpty
  | fuel + 1, bs =>
    match next bs with
    | .done => true
    | .char _ rest => isBegunAux fuel rest
    | .bad rest => rest.isEmpty && bs.head?.any fun b => 0xC2 ≤ b && b < 0xF5

/-- whether bytes are the beginning of a text: well-formed, but for a last character that is cut off -/
def isBegun (bs : Bytes) : Bool := isBegunAux bs.length bs

/-- reads at most `fuel` parts, each a character or an ill-formed part, on top of `acc` -/
def decodeLossyAux : Nat → List Char → Bytes → List Char
  | 0, acc, _ => acc.reverse
  | fuel + 1, acc, bs =>
    match next bs with
    | .done => acc.reverse
    | .char c rest => decodeLossyAux fuel (c :: acc) rest
    | .bad rest => decodeLossyAux fuel (Char.ofNat 0xFFFD :: acc) rest

/-- reads bytes with U+FFFD in place of each maximal ill-formed part -/
def decodeLossy (bs : Bytes) : List Char := decodeLossyAux bs.length [] bs

end Utf8
end RequestPipeline
