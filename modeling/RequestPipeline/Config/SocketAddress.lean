import RequestPipeline.Text.Decimal

/-!
# Socket addresses

A socket address is an address of version 4 or 6 and a port: `1.2.3.4:80` or `[::1]:80`, where an address
of version 6 may name a numeric scope.  Octets have no leading zeros, groups have at most four digits, `::`
stands for at least one group of zeros, and the last two groups may be written as four octets.
-/

namespace RequestPipeline

/-- an address, as octets or as groups of 16 bits -/
inductive IpAddress where
  | v4 (octets : List Nat)
  | v6 (groups : List Nat)
  deriving DecidableEq, Repr

structure SocketAddress where
  ip : IpAddress
  port : Nat
  deriving DecidableEq, Repr

namespace SocketAddress

/-- reads a run of digits of a base, with their count -/
def readRun (base : Nat) (acc count : Nat) : List Char → Nat × Nat × List Char
  | [] => (acc, count, [])
  | c :: cs =>
    match (Text.hexDigit? c).filter (· < base) with
    | some d => readRun base (acc * base + d) (count + 1) cs
    | none => (acc, count, c :: cs)

/-- reads a number of at least one digit, with what else is asked of it -/
def readNumber (base maxDigits bound : Nat) (leadingZeros : Bool) (cs : List Char) :
    Option (Nat × List Char) :=
  let (n, count, rest) := readRun base 0 0 cs
  if count = 0 ∨ maxDigits < count ∨ bound < n ∨ (!leadingZeros ∧ 1 < count ∧ cs.head? = some '0')
  then none
  else some (n, rest)

def readChar (c : Char) : List Char → Option (List Char)
  | [] => none
  | d :: rest => if d = c then some rest else none

/-- reads an octet without leading zeros -/
def readOctet (cs : List Char) : Option (Nat × List Char) := readNumber 10 3 255 false cs

def readV4 (cs : List Char) : Option (List Nat × List Char) := do
  let (a, cs) ← readOctet cs
  let (b, cs) ← readOctet (← readChar '.' cs)
  let (c, cs) ← readOctet (← readChar '.' cs)
  let (d, cs) ← readOctet (← readChar '.' cs)
  return ([a, b, c, d], cs)

/-- reads what follows the separator that stands before every group but the first -/
def afterColon (first : Bool) (cs : List Char) : Option (List Char) :=
  if first then some cs else readChar ':' cs

/-- Reads up to `limit` groups, of which the last two may be four octets: the groups, whether they end
in octets, and the rest. -/
def readGroups : (limit : Nat) → (first : Bool) → List Char → List Nat × Bool × List Char
  | 0, _, cs => ([], false, cs)
  | limit + 1, first, cs =>
    match if limit = 0 then none else (afterColon first cs).bind readV4 with
    | some ([a, b, c, d], rest) => ([a * 256 + b, c * 256 + d], true, rest)
    | _ =>
      match (afterColon first cs).bind (readNumber 16 4 65535 true) with
      | none => ([], false, cs)
      | some (g, rest) =>
        let (gs, octets, rest) := readGroups limit false rest
        (g :: gs, octets, rest)

def readV6 (cs : List Char) : Option (List Nat × List Char) :=
  let (front, octets, rest) := readGroups 8 true cs
  if front.length = 8 then some (front, rest)
  else if octets then none
  else do
    let rest ← readChar ':' (← readChar ':' rest)
    let (back, _, rest) := readGroups (7 - front.length) true rest
    return (front ++ List.replicate (8 - front.length - back.length) 0 ++ back, rest)

/-- reads a colon and a port up to the end -/
def readPort (cs : List Char) : Option Nat := do
  let (port, rest) ← readNumber 10 cs.length 65535 true (← readChar ':' cs)
  if rest.isEmpty then some port else none

/-- skips a numeric scope, if there is one -/
def skipScope (cs : List Char) : List Char :=
  match (readChar '%' cs).bind fun rest => readNumber 10 rest.length 4294967295 true rest with
  | some (_, rest) => rest
  | none => cs

def parse? (s : String) : Option SocketAddress :=
  match s.toList with
  | '[' :: cs => do
    let (groups, rest) ← readV6 cs
    let port ← readPort (← readChar ']' (skipScope rest))
    return ⟨.v6 groups, port⟩
  | cs => do
    let (octets, rest) ← readV4 cs
    return ⟨.v4 octets, ← readPort rest⟩

end SocketAddress

namespace IpAddress

def zerosInFront : List Nat → Nat
  | 0 :: gs => zerosInFront gs + 1
  | _ => 0

/-- where the first longest run of zeros begins, and how long it is -/
def longestZeros (index : Nat) : List Nat → Nat × Nat
  | [] => (index, 0)
  | g :: gs =>
    let here := zerosInFront (g :: gs)
    let (i, n) := longestZeros (index + 1) gs
    if n ≤ here then (index, here) else (i, n)

def joined (sep : Char) (render : Nat → List Char) : List Nat → List Char
  | [] => []
  | [n] => render n
  | n :: m :: ns => render n ++ sep :: joined sep render (m :: ns)

def octetChars (octets : List Nat) : List Char := joined '.' Text.ofNat octets

/-- the text of groups, with `::` in place of the first longest run of at least two zeros -/
def groupChars (groups : List Nat) : List Char :=
  match groups with
  | [0, 0, 0, 0, 0, 0xFFFF, a, b] =>
    "::ffff:".toList ++ octetChars [a / 256, a % 256, b / 256, b % 256]
  | groups =>
    let (i, n) := longestZeros 0 groups
    if n < 2 then joined ':' (Nat.toDigits 16) groups
    else
      joined ':' (Nat.toDigits 16) (groups.take i) ++ ':' :: ':' ::
        joined ':' (Nat.toDigits 16) (groups.drop (i + n))

def render : IpAddress → String
  | .v4 octets => String.ofList (octetChars octets)
  | .v6 groups => String.ofList (groupChars groups)

/-- whether an address belongs to every host: the unspecified one, or a loopback -/
def isOwn : IpAddress → Bool
  | .v4 octets => octets.head? == some 127 || octets.all (· == 0)
  | .v6 groups => groups.dropLast.all (· == 0) && groups.getLast?.any (· ≤ 1)

def isV6 : IpAddress → Bool
  | .v4 _ => false
  | .v6 _ => true

end IpAddress
end RequestPipeline
