import RequestPipeline.Json.Fault

/-!
# Reading JSON documents

`Value.parse` reads a document from its bytes.  Reading goes through the bytes once: each step takes
the bytes that are left and gives a result and the bytes that follow.  Arrays and objects nest at most
`maxDepth` deep.  A literal without fraction and exponent that fits in 64 bits is a whole number; all
others are floating-point numbers, computed by one rounded multiplication or division of the digits by
a power of ten.  Steps that repeat take a bound on the repetitions, which is the size of the document.
-/

namespace RequestPipeline.Json

/-- how deep arrays and objects may nest -/
def maxDepth : Nat := 127

/-- space, tab, line feed and carriage return -/
def isSpace (b : UInt8) : Bool := b == 32 || b == 10 || b == 9 || b == 13

def skipBlank : Bytes → Bytes
  | [] => []
  | b :: bs => if isSpace b then skipBlank bs else b :: bs

def isDigit (b : UInt8) : Bool := 48 ≤ b && b ≤ 57

/-- reads the rest of a word -/
def word : (letters : Bytes) → Bytes → Except Fault Bytes
  | [], rest => .ok rest
  | _ :: _, [] => flawAt .endInValue []
  | l :: ls, b :: rest => if b = l then word ls rest else flawAt .expectedWord rest

/-! ## numbers -/

/-- the greatest significand that is kept exactly -/
def maxSignificand : Nat := 18446744073709551615

/-- Reads digits onto a significand while it stays within its bound: the significand, the count of
digits read, and the rest, which begins with a digit only if one more would pass the bound. -/
def readDigits (acc count : Nat) : Bytes → Nat × Nat × Bytes
  | [] => (acc, count, [])
  | b :: bs =>
    if isDigit b ∧ acc * 10 + (b.toNat - 48) ≤ maxSignificand then
      readDigits (acc * 10 + (b.toNat - 48)) (count + 1) bs
    else (acc, count, b :: bs)

def skipDigits (count : Nat) : Bytes → Nat × Bytes
  | [] => (count, [])
  | b :: bs => if isDigit b then skipDigits (count + 1) bs else (count, b :: bs)

def startsWithDigit : Bytes → Bool
  | b :: _ => isDigit b
  | [] => false

/-- `f` divided by `10^308`, at most `fuel` times, until what remains of the exponent fits a power of
ten -/
def scaleDown : Nat → Finite64 → Int → Option Finite64
  | 0, f, _ => some f
  | fuel + 1, f, e =>
    if -308 ≤ e then
      (Finite64.ofDecimal false 1 (-e)).bind f.div
    else if f.mantissa = 0 then some f
    else ((Finite64.ofDecimal false 1 308).bind f.div).bind fun g => scaleDown fuel g (e + 308)

/-- the floating-point number of a significand and a power of ten -/
def floatOfParts (negative : Bool) (significand : Nat) (exponent : Int) : Option Finite64 :=
  (Finite64.ofInt significand).bind fun f =>
    let magnitude :=
      if 308 < exponent then if f.mantissa = 0 then some f else none
      else if 0 ≤ exponent then (Finite64.ofDecimal false 1 exponent).bind f.mul
      else scaleDown 4 f exponent
    magnitude.map fun g => if negative then g.neg else g

/-- a floating-point number, or the fault that it is too large -/
def finishFloat (negative : Bool) (significand : Nat) (exponent : Int) (rest : Bytes) :
    Reading Number :=
  match floatOfParts negative significand exponent with
  | some f => .ok (.float f, rest)
  | none => flawAt .numberRange rest

def maxExponent : Nat := 2147483647

/-- reads the digits of an exponent; nothing once it passes its bound, with the bytes after the digit
that passed it -/
def readExponent (acc : Nat) : Bytes → Option Nat × Bytes
  | [] => (some acc, [])
  | b :: bs =>
    if isDigit b then
      let e := acc * 10 + (b.toNat - 48)
      if e ≤ maxExponent then readExponent e bs else (none, bs)
    else (some acc, b :: bs)

/-- reads what follows the letter of an exponent -/
def readPower (negative : Bool) (significand : Nat) (exponent : Int) (input : Bytes) :
    Reading Number :=
  let (down, rest) :=
    match input with
    | 43 :: rest => (false, rest)
    | 45 :: rest => (true, rest)
    | rest => (false, rest)
  match rest with
  | [] => flawAt .endInValue []
  | b :: rest =>
    if isDigit b then
      match readExponent (b.toNat - 48) rest with
      | (some e, rest) =>
        finishFloat negative significand (if down then exponent - e else exponent + e) rest
      | (none, rest) =>
        if significand ≠ 0 ∧ down = false then flawAt .numberRange rest
        else .ok (.float (Finite64.zero negative), (skipDigits 0 rest).2)
    else flawAt .badNumber rest

def readFraction (negative : Bool) (significand : Nat) (exponent : Int) (input : Bytes) :
    Reading Number :=
  let (significand, count, rest) := readDigits significand 0 input
  if count = 0 ∧ startsWithDigit rest = false then
    match rest with
    | [] => flawBy .endInValue []
    | _ => flawBy .badNumber rest
  else
    match (skipDigits 0 rest).2 with
    | b :: rest =>
      if b = 101 ∨ b = 69 then readPower negative significand (exponent - count) rest
      else finishFloat negative significand (exponent - count) (b :: rest)
    | [] => finishFloat negative significand (exponent - count) []

/-- reads what follows the digits before the point -/
def readTail (negative : Bool) (significand : Nat) (dropped : Nat) (whole : Number)
    (rest : Bytes) : Reading Number :=
  match rest with
  | 46 :: rest => readFraction negative significand dropped rest
  | 101 :: rest => readPower negative significand dropped rest
  | 69 :: rest => readPower negative significand dropped rest
  | rest => if dropped = 0 then .ok (whole, rest) else finishFloat negative significand dropped rest

/-- the number of a literal without fraction and exponent -/
def wholeNumber (negative : Bool) (n : Nat) : Number :=
  if negative then
    if n = 0 then .float (Finite64.zero true)
    else if n ≤ 9223372036854775808 then .int (-(n : Int))
    else
      match Finite64.ofRatio true n 1 with
      | some f => .float f
      | none => .int (-(n : Int))
  else .int n

def readNumber (negative : Bool) : Bytes → Reading Number
  | [] => flawAt .endInValue []
  | b :: rest =>
    if b = 48 then
      if startsWithDigit rest then flawBy .badNumber rest
      else readTail negative 0 0 (wholeNumber negative 0) rest
    else if isDigit b then
      let (n, _, rest) := readDigits (b.toNat - 48) 1 rest
      let (dropped, rest) := skipDigits 0 rest
      readTail negative n dropped (wholeNumber negative n) rest
    else flawAt .badNumber rest

/-! ## texts -/

def hexFour (a b c d : UInt8) : Option Nat := do
  let digit (x : UInt8) := Text.hexDigit? (Char.ofNat x.toNat)
  return (((← digit a) * 16 + (← digit b)) * 16 + (← digit c)) * 16 + (← digit d)

def readHex : Bytes → Reading Nat
  | a :: b :: c :: d :: rest =>
    match hexFour a b c d with
    | some n => .ok (n, rest)
    | none => flawAt .badEscape rest
  | _ => flawAt .endInString []

def readLowSurrogate (high : Nat) : Bytes → Reading Bytes
  | [] => flawAt .endInString []
  | 92 :: [] => flawAt .endInString []
  | 92 :: 117 :: rest =>
    (readHex rest).bind fun (low, rest) =>
      if low < 0xDC00 ∨ 0xDFFF < low then flawAt .loneSurrogate rest
      else
        let n := (high - 0xD800) * 1024 + (low - 0xDC00) + 0x10000
        .ok (Utf8.encodeChar (Char.ofNat n), rest)
  | 92 :: _ :: rest => flawAt .endOfHexEscape rest
  | _ :: rest => flawAt .endOfHexEscape rest

/-- reads what follows a backslash -/
def readEscape : Bytes → Reading Bytes
  | [] => flawAt .endInString []
  | b :: rest =>
    if b = 34 then .ok ([34], rest)
    else if b = 92 then .ok ([92], rest)
    else if b = 47 then .ok ([47], rest)
    else if b = 98 then .ok ([8], rest)
    else if b = 102 then .ok ([12], rest)
    else if b = 110 then .ok ([10], rest)
    else if b = 114 then .ok ([13], rest)
    else if b = 116 then .ok ([9], rest)
    else if b = 117 then
      (readHex rest).bind fun (n, rest) =>
        if 0xDC00 ≤ n ∧ n ≤ 0xDFFF then flawAt .loneSurrogate rest
        else if 0xD800 ≤ n ∧ n ≤ 0xDBFF then readLowSurrogate n rest
        else .ok (Utf8.encodeChar (Char.ofNat n), rest)
    else flawAt .badEscape rest

/-- reads a text up to its closing quote, on top of the bytes `acc` in reverse -/
def readText : (fuel : Nat) → (acc : Bytes) → Bytes → Reading String
  | 0, _, rest => flawAt .endInString rest
  | _ + 1, _, [] => flawAt .endInString []
  | fuel + 1, acc, b :: rest =>
    if b = 34 then
      match Utf8.toText? acc.reverse with
      | some s => .ok (s, rest)
      | none => flawAt .badCodePoint (b :: rest)
    else if b = 92 then
      match readEscape rest with
      | .ok (bytes, rest) => readText fuel (bytes.reverseAux acc) rest
      | .error e => .error e
    else if b < 32 then flawAt .controlCharacter rest
    else readText fuel (b :: acc) rest

/-! ## arrays and objects -/

/-- Goes to the next item of an array: whether there is one, and the bytes where it begins, or else
those after the bracket that closes the array. -/
def nextItem (first : Bool) (input : Bytes) : Reading Bool :=
  match skipBlank input with
  | [] => flawBy .endInList []
  | b :: rest =>
    if b = 93 then .ok (false, rest)
    else if first then .ok (true, b :: rest)
    else if b = 44 then
      match skipBlank rest with
      | [] => flawBy .endInValue []
      | c :: rest => if c = 93 then flawBy .trailingComma (c :: rest) else .ok (true, c :: rest)
    else flawBy .expectedListComma (b :: rest)

/-- Goes to the next key of an object: whether there is one, and the bytes after its opening quote, or
else those after the brace that closes the object. -/
def nextKey (first : Bool) (input : Bytes) : Reading Bool :=
  match skipBlank input with
  | [] => flawBy .endInObject []
  | b :: rest =>
    if b = 125 then .ok (false, rest)
    else if first then
      if b = 34 then .ok (true, rest) else flawBy .keyNotText (b :: rest)
    else if b = 44 then
      match skipBlank rest with
      | [] => flawBy .endInValue []
      | c :: rest =>
        if c = 34 then .ok (true, rest)
        else if c = 125 then flawBy .trailingComma (c :: rest)
        else flawBy .keyNotText (c :: rest)
    else flawBy .expectedObjectComma (b :: rest)

/-- goes past the colon after a key -/
def colon (input : Bytes) : Except Fault Bytes :=
  match skipBlank input with
  | [] => flawBy .endInObject []
  | b :: rest => if b = 58 then .ok rest else flawBy .expectedColon (b :: rest)

/-- reads the items of an array, on top of `acc` in reverse -/
def readItems (item : Bytes → Reading Value) :
    (fuel : Nat) → (first : Bool) → List Value → Bytes → Reading (List Value)
  | 0, _, _, rest => flawBy .endInList rest
  | fuel + 1, first, acc, input =>
    match nextItem first input with
    | .error e => .error e
    | .ok (false, rest) => .ok (acc.reverse, rest)
    | .ok (true, rest) =>
      match item rest with
      | .error e => .error e
      | .ok (v, rest) => readItems item fuel false (v :: acc) rest

def readMembers (size : Nat) (item : Bytes → Reading Value) :
    (fuel : Nat) → (first : Bool) → Members → Bytes → Reading Members
  | 0, _, _, rest => flawBy .endInObject rest
  | fuel + 1, first, acc, input =>
    match nextKey first input with
    | .error e => .error e
    | .ok (false, rest) => .ok (acc, rest)
    | .ok (true, rest) =>
      match readText size [] rest with
      | .error e => .error e
      | .ok (key, rest) =>
        match colon rest with
        | .error e => .error e
        | .ok rest =>
          match item rest with
          | .error e => .error e
          | .ok (v, rest) => readMembers size item fuel false (acc.insert key v) rest

/-- reads a value, whose items are read by `inner` when they may nest deeper -/
def readNode (size : Nat) (inner : Option (Bytes → Reading Value)) (input : Bytes) :
    Reading Value :=
  match skipBlank input with
  | [] => flawBy .endInValue []
  | b :: rest =>
    if b = 110 then (word [117, 108, 108] rest).map fun rest => (.null, rest)
    else if b = 116 then (word [114, 117, 101] rest).map fun rest => (.bool true, rest)
    else if b = 102 then (word [97, 108, 115, 101] rest).map fun rest => (.bool false, rest)
    else if b = 45 then (readNumber true rest).map fun (n, rest) => (.number n, rest)
    else if isDigit b then (readNumber false (b :: rest)).map fun (n, rest) => (.number n, rest)
    else if b = 34 then (readText size [] rest).map fun (s, rest) => (.string s, rest)
    else if b = 91 then
      match inner with
      | none => flawBy .tooDeep (b :: rest)
      | some item => (readItems item size true [] rest).map fun (vs, rest) => (.array vs, rest)
    else if b = 123 then
      match inner with
      | none => flawBy .tooDeep (b :: rest)
      | some item =>
        (readMembers size item size true [] rest).map fun (ms, rest) => (.object ms, rest)
    else flawBy .expectedValue (b :: rest)

/-- the reader of items that may nest `depth` deep -/
def readNested (size : Nat) : (depth : Nat) → Option (Bytes → Reading Value)
  | 0 => none
  | depth + 1 => some (readNode size (readNested size depth))

/-- reads a value in which arrays and objects nest at most `depth` deep -/
def readValue (size depth : Nat) (input : Bytes) : Reading Value :=
  readNode size (readNested size depth) input

/-- nothing but blanks may follow a document -/
def finish {α : Type} (r : Reading α) : Except Fault α :=
  match r with
  | .error e => .error e
  | .ok (a, rest) =>
    match skipBlank rest with
    | [] => .ok a
    | b :: bs => flawBy .trailingCharacters (b :: bs)

def Value.ofBytes (document : Bytes) : Except Fault Value :=
  finish (readValue (document.length + 1) maxDepth document)

/-- the document that some bytes hold, or the wording of what is wrong with them -/
def Value.parse (document : Bytes) : Except String Value :=
  match Value.ofBytes document with
  | .ok v => .ok v
  | .error f => .error (f.message document)

end RequestPipeline.Json
