import RequestPipeline.Json.Parse

/-!
# Reading typed records

A `Reader` reads one shape of value in two ways: from the bytes of a document, going through them once
and naming the first fault with its place, and from a value that is already there.  Both give the value
in the form that the shape asks for: numbers of the wanted kind, a record as an object of the fields it
was given.  `Reader.record` reads an object whose members are fields of the record, each at most once,
or an array that holds the fields in their order.
-/

namespace RequestPipeline.Json

/-- reads one shape of value, from a document and from a value -/
structure Reader where
  fromBytes : (size depth : Nat) → Bytes → Reading Value
  fromValue : Value → Except Fault Value

/-- a field of a record: its name, how its value is read, and whether it may be left out -/
structure Field where
  name : String
  reader : Reader
  required : Bool

namespace Reader

/-! ## values of the wrong kind -/

/-- the mismatch of a value of another kind, placed -/
def misplaced {α : Type} (found : Value) (expected : String) (rest : Bytes) : Except Fault α :=
  .error ⟨.mismatch (.kind found expected), some rest.length⟩

/-- reads past a value that is not of the expected kind, to say what it is -/
def wrongKind {α : Type} (size : Nat) (expected : String) (input : Bytes) : Except Fault α :=
  match input with
  | [] => flawBy .expectedValue []
  | b :: rest =>
    if b = 91 then misplaced (.array []) expected (b :: rest)
    else if b = 123 then misplaced (.object []) expected (b :: rest)
    else
      match readNode size none (b :: rest) with
      | .ok (found, rest) => misplaced found expected rest
      | .error e => .error e

/-- puts a place on the faults of a value that ends before `rest` -/
def place {α : Type} (rest : Bytes) : Except Fault α → Except Fault α
  | .ok a => .ok a
  | .error f => .error (f.placed rest)

/-! ## plain values -/

def any : Reader where
  fromBytes size depth input := readValue size depth input
  fromValue v := .ok v

/-- what begins at the first byte that is not blank -/
def atValue {α : Type} (input : Bytes) (k : UInt8 → Bytes → Except Fault α) : Except Fault α :=
  match skipBlank input with
  | [] => flawBy .endInValue []
  | b :: rest => k b rest

def text : Reader where
  fromBytes size _ input := atValue input fun b rest =>
    if b = 34 then (readText size [] rest).map fun (s, rest) => (.string s, rest)
    else wrongKind size "a string" (b :: rest)
  fromValue
    | .string s => .ok (.string s)
    | v => mismatch (.kind v "a string")

def flag : Reader where
  fromBytes size depth input := atValue input fun b rest =>
    if b = 116 ∨ b = 102 then readValue size depth (b :: rest)
    else wrongKind size "a boolean" (b :: rest)
  fromValue
    | .bool b => .ok (.bool b)
    | v => mismatch (.kind v "a boolean")

/-- a number that `accept` takes -/
def number (expected : String) (accept : Number → Except Fault Value) : Reader where
  fromBytes size _ input := atValue input fun b rest =>
    if b = 45 ∨ isDigit b then
      (if b = 45 then readNumber true rest else readNumber false (b :: rest)).bind
        fun (n, rest) => (place rest (accept n)).map fun v => (v, rest)
    else wrongKind size expected (b :: rest)
  fromValue
    | .number n => accept n
    | v => mismatch (.kind v expected)

/-- a whole number from `lo` to `hi` -/
def integer (expected : String) (lo hi : Int) : Reader :=
  number expected fun
    | .int i =>
      if lo ≤ i ∧ i ≤ hi then .ok (.number (.int i))
      else mismatch (.range (.number (.int i)) expected)
    | n => mismatch (.kind (.number n) expected)

def int64 : Reader := integer "i64" Text.minInt64 Text.maxInt64

def uint32 : Reader := integer "u32" 0 Text.maxUInt32

def uint64 : Reader := integer "u64" 0 Text.maxUInt64

/-- a size: an unsigned whole number of 64 bits -/
def size : Reader := integer "usize" 0 Text.maxUInt64

/-- a floating-point number; whole numbers are taken too -/
def float : Reader :=
  number "f64" fun n =>
    match n.toFloat? with
    | some f => .ok (.number (.float f))
    | none => mismatch (.kind (.number n) "f64")

def optional (r : Reader) : Reader where
  fromBytes size depth input :=
    match skipBlank input with
    | 110 :: _ => readValue size depth input
    | _ => r.fromBytes size depth input
  fromValue
    | .null => .ok .null
    | v => r.fromValue v

def map : Reader where
  fromBytes size depth input := atValue input fun b rest =>
    if b = 123 then readValue size depth (b :: rest) else wrongKind size "a map" (b :: rest)
  fromValue
    | .object ms => .ok (.object ms)
    | v => mismatch (.kind v "a map")

/-! ## lists -/

def itemsOfValues (r : Reader) : List Value → Except Fault (List Value)
  | [] => .ok []
  | v :: vs => (r.fromValue v).bind fun x => (itemsOfValues r vs).map (x :: ·)

def list (r : Reader) : Reader where
  fromBytes size depth input := atValue input fun b rest =>
    if b = 91 then
      match depth with
      | 0 => flawBy .tooDeep (b :: rest)
      | depth + 1 =>
        (readItems (r.fromBytes size depth) size true [] rest).map fun (vs, rest) => (.array vs, rest)
    else wrongKind size "a sequence" (b :: rest)
  fromValue
    | .array vs => (itemsOfValues r vs).map .array
    | v => mismatch (.kind v "a sequence")

/-! ## records -/

def field? (fields : List Field) (name : String) : Option Field :=
  fields.find? fun f => f.name == name

/-- how a complaint names a record with its fields -/
def recordLength (name : String) (fields : List Field) : String :=
  "struct " ++ name ++ " with " ++ String.ofList (Text.ofNat fields.length) ++
    (if fields.length = 1 then " element" else " elements")

def firstMissing (fields : List Field) (members : Members) : Option String :=
  (fields.find? fun f => f.required && !members.contains f.name).map Field.name

/-- a record that has all its required fields -/
def complete (fields : List Field) (members : Members) : Except Fault Value :=
  match firstMissing fields members with
  | some name => mismatch (.missingField name)
  | none => .ok (.object members)

/-- the place that a fault in the name of a member gets: behind the blanks, and behind the closing
brace if that comes next -/
def afterName (rest : Bytes) : Bytes :=
  match skipBlank rest with
  | 125 :: rest => rest
  | rest => rest

/-- reads the members of a record, on top of `acc` -/
def membersOfBytes (fields : List Field) (size depth : Nat) :
    (fuel : Nat) → (first : Bool) → Members → Bytes → Reading Value
  | 0, _, _, rest => flawBy .endInObject rest
  | fuel + 1, first, acc, input =>
    (nextKey first input).bind fun (more, rest) =>
      if more then
        (readText size [] rest).bind fun (key, rest) =>
          match field? fields key with
          | none => place (afterName rest) (mismatch (.unknownField key (fields.map Field.name)))
          | some f =>
            if acc.contains key then place (afterName rest) (mismatch (.duplicateField key))
            else
              (colon rest).bind fun rest =>
                (f.reader.fromBytes size depth rest).bind fun (v, rest) =>
                  membersOfBytes fields size depth fuel false (acc.insert key v) rest
      else (place rest (complete fields acc)).map fun v => (v, rest)

/-- reads the end of an array that holds a record -/
def closeArray (input : Bytes) : Except Fault Bytes :=
  match skipBlank input with
  | [] => flawBy .endInList []
  | b :: rest =>
    if b = 93 then .ok rest
    else if b = 44 then
      match skipBlank rest with
      | 93 :: rest => flawBy .trailingComma (93 :: rest)
      | rest => flawBy .trailingCharacters rest
    else flawBy .trailingCharacters (b :: rest)

/-- reads the fields of a record from an array, in their order, on top of `acc` -/
def arrayOfBytes (fields : List Field) (expected : String) (size depth : Nat) :
    (left : List Field) → (first : Bool) → Members → Bytes → Reading Value
  | [], _, acc, input => (closeArray input).map fun rest => (.object acc, rest)
  | f :: left, first, acc, input =>
    (nextItem first input).bind fun (more, rest) =>
      if more then
        (f.reader.fromBytes size depth rest).bind fun (v, rest) =>
          arrayOfBytes fields expected size depth left false (acc.insert f.name v) rest
      else
        match (f :: left).find? Field.required with
        | some g =>
          place rest (mismatch (.length (fields.findIdx fun h => h.name == g.name) expected))
        | none => .ok (.object acc, rest)

/-- reads the members of a record from values, on top of `acc`; a closed record takes no other names -/
def membersOfValues (fields : List Field) (closed : Bool) : Members → Members → Except Fault Value
  | acc, [] => complete fields acc
  | acc, (key, v) :: rest =>
    match field? fields key with
    | none =>
      if closed then mismatch (.unknownField key (fields.map Field.name))
      else membersOfValues fields closed acc rest
    | some f => (f.reader.fromValue v).bind fun x =>
      membersOfValues fields closed (acc.insert key x) rest

/-- reads the fields of a record from a list, in their order, on top of `acc` -/
def arrayOfValues (fields : List Field) (expected : String) (total : Nat) :
    List Field → Members → List Value → Except Fault Value
  | [], acc, [] => .ok (.object acc)
  | [], _, _ :: _ => mismatch (.length total "fewer elements in array")
  | f :: left, acc, v :: vs => (f.reader.fromValue v).bind fun x =>
    arrayOfValues fields expected total left (acc.insert f.name x) vs
  | f :: left, acc, [] =>
    match (f :: left).find? Field.required with
    | some g => mismatch (.length (fields.findIdx fun h => h.name == g.name) expected)
    | none => .ok (.object acc)

/-- A record: an object whose members are its fields, each at most once, or an array with the fields in
their order. -/
def record (name : String) (closed : Bool) (fields : List Field) : Reader where
  fromBytes size depth input := atValue input fun b rest =>
    if b = 91 then
      match depth with
      | 0 => flawBy .tooDeep (b :: rest)
      | depth + 1 =>
        arrayOfBytes fields (recordLength name fields) size depth fields true [] rest
    else if b = 123 then
      match depth with
      | 0 => flawBy .tooDeep (b :: rest)
      | depth + 1 => membersOfBytes fields size depth size true [] rest
    else wrongKind size ("struct " ++ name) (b :: rest)
  fromValue
    | .object ms => membersOfValues fields closed [] ms
    | .array vs => arrayOfValues fields (recordLength name fields) vs.length fields [] vs
    | v => mismatch (.kind v ("struct " ++ name))

/-- reads a document, or gives the wording of what is wrong with it -/
def parse (r : Reader) (document : Bytes) : Except String Value :=
  match finish (r.fromBytes (document.length + 1) maxDepth document) with
  | .ok v => .ok v
  | .error f => .error (f.message document)

/-- reads a value, or gives the wording of what is wrong with it -/
def convert (r : Reader) (v : Value) : Except String Value :=
  match r.fromValue v with
  | .ok v => .ok v
  | .error f => .error f.cause.message

end Reader
end RequestPipeline.Json
