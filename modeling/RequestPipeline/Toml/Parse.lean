import RequestPipeline.Number.Literal
import RequestPipeline.Text.Ascii
import RequestPipeline.Text.Decimal
import RequestPipeline.Toml.Table

/-!
# Reading TOML documents

`Toml.parse?` reads a document of TOML 1.0.  Every reader takes the characters that are left and returns
what it read with the rest, or nothing if the document is malformed; no reader says why.
-/

namespace RequestPipeline.Toml

/-- what is read at the front of the characters that are left, and the rest -/
abbrev Reading (α : Type) := List Char → Option (α × List Char)

/-! ## blanks, comments and line ends -/

/-- blanks within a line -/
def isGap (c : Char) : Bool := c = ' ' || c = '\t'

def skipGaps (cs : List Char) : List Char := cs.dropWhile isGap

/-- whether a character may stand in a comment or a literal string -/
def isPlain (c : Char) : Bool := c = '\t' || (32 ≤ c.toNat && c.toNat ≠ 127)

def newline? : List Char → Option (List Char)
  | '\n' :: cs => some cs
  | '\r' :: '\n' :: cs => some cs
  | _ => none

/-- the characters behind a comment, if one starts here -/
def skipComment : List Char → List Char
  | '#' :: cs => cs.dropWhile isPlain
  | cs => cs

/-- the end of a line, behind blanks and a comment -/
def lineEnd? (cs : List Char) : Option (List Char) :=
  match skipComment (skipGaps cs) with
  | [] => some []
  | cs => newline? cs

/-- blanks, comments and empty lines -/
def skipLines : (fuel : Nat) → List Char → List Char
  | 0, cs => cs
  | fuel + 1, cs =>
    match newline? (skipComment (skipGaps cs)) with
    | some rest => skipLines fuel rest
    | none => skipGaps cs

/-! ## strings -/

def escape? : Reading Char
  | 'b' :: cs => some ('\x08', cs)
  | 't' :: cs => some ('\t', cs)
  | 'n' :: cs => some ('\n', cs)
  | 'f' :: cs => some ('\x0c', cs)
  | 'r' :: cs => some ('\r', cs)
  | '"' :: cs => some ('"', cs)
  | '\\' :: cs => some ('\\', cs)
  | 'u' :: cs => if cs.length < 4 then none else (Text.codePoint? (cs.take 4)).map (·, cs.drop 4)
  | 'U' :: cs => if cs.length < 8 then none else (Text.codePoint? (cs.take 8)).map (·, cs.drop 8)
  | _ => none

/-- the inside of a string on one line, up to its quote -/
def line? (quote : Char) : (fuel : Nat) → Reading (List Char)
  | 0, _ => none
  | _, [] => none
  | fuel + 1, c :: cs =>
    if c = quote then some ([], cs)
    else if c = '\\' ∧ quote = '"' then do
      let (e, cs) ← escape? cs
      let (text, cs) ← line? quote fuel cs
      return (e :: text, cs)
    else if isPlain c then (line? quote fuel cs).map fun (text, cs) => (c :: text, cs)
    else none

/-- the characters behind blanks and line ends -/
def skipLineEnds : List Char → List Char
  | '\r' :: '\n' :: cs => skipLineEnds cs
  | c :: cs => if isGap c || c = '\n' then skipLineEnds cs else c :: cs
  | [] => []

/-- behind a backslash at the end of a line: all blanks and line ends are skipped -/
def continued? (cs : List Char) : Option (List Char) := (newline? (skipGaps cs)).map skipLineEnds

/-- the inside of a string over several lines, up to three quotes; two more belong to the string -/
def lines? (quote : Char) : (fuel : Nat) → Reading (List Char)
  | 0, _ => none
  | _, [] => none
  | fuel + 1, c :: cs =>
    if c = quote then
      let run := 1 + (cs.takeWhile (· = quote)).length
      let rest := cs.drop (run - 1)
      if 3 ≤ run then
        let inside := min (run - 3) 2
        some (List.replicate inside quote, List.replicate (run - 3 - inside) quote ++ rest)
      else (lines? quote fuel rest).map fun (text, cs) =>
        (List.replicate run quote ++ text, cs)
    else if c = '\\' ∧ quote = '"' then
      match continued? cs with
      | some cs => lines? quote fuel cs
      | none => do
        let (e, cs) ← escape? cs
        let (text, cs) ← lines? quote fuel cs
        return (e :: text, cs)
    else
      match newline? (c :: cs) with
      | some cs => (lines? quote fuel cs).map fun (text, cs) => ('\n' :: text, cs)
      | none =>
        if isPlain c then (lines? quote fuel cs).map fun (text, cs) => (c :: text, cs)
        else none

/-- a string behind its first quote -/
def string? (quote : Char) (cs : List Char) : Option (String × List Char) :=
  let made := Option.map fun ((text, cs) : List Char × List Char) => (String.ofList text, cs)
  match cs with
  | a :: b :: rest =>
    if a = quote ∧ b = quote then
      let rest := (newline? rest).getD rest
      made (lines? quote (rest.length + 1) rest)
    else made (line? quote (cs.length + 1) cs)
  | cs => made (line? quote (cs.length + 1) cs)

/-! ## keys -/

/-- what stands in a key without quotes -/
def isBare (c : Char) : Bool := c.isAlphanum || c = '_' || c = '-'

/-- reads a key, in quotes of either kind or bare -/
def simpleKey? : Reading String
  | '"' :: cs => (line? '"' (cs.length + 1) cs).map fun (k, cs) => (String.ofList k, cs)
  | '\'' :: cs => (line? '\'' (cs.length + 1) cs).map fun (k, cs) => (String.ofList k, cs)
  | cs =>
    let key := cs.takeWhile isBare
    if key.isEmpty then none else some (String.ofList key, cs.dropWhile isBare)

/-- a key, or several with dots between them -/
def key? : (fuel : Nat) → Reading (List String)
  | 0, _ => none
  | fuel + 1, cs => do
    let (key, cs) ← simpleKey? (skipGaps cs)
    match skipGaps cs with
    | '.' :: cs => do
      let (path, cs) ← key? fuel cs
      return (key :: path, cs)
    | cs => return ([key], cs)

/-! ## numbers and dates -/

/-- digits, with single underscores between them -/
def digits (isDigit : Char → Bool) : List Char → List Char × List Char
  | c :: '_' :: d :: cs =>
    if isDigit c then
      if isDigit d then
        let (ds, rest) := digits isDigit (d :: cs)
        (c :: ds, rest)
      else ([c], '_' :: d :: cs)
    else ([], c :: '_' :: d :: cs)
  | c :: cs =>
    if isDigit c then
      let (ds, rest) := digits isDigit cs
      (c :: ds, rest)
    else ([], c :: cs)
  | [] => ([], [])

/-- at least one digit -/
def digits? (isDigit : Char → Bool) (cs : List Char) : Option (List Char × List Char) :=
  match digits isDigit cs with
  | ([], _) => none
  | found => some found

/-- the number that digits write -/
def inBase (base : Nat) (ds : List Char) : Nat :=
  ds.foldl (fun n c => base * n + (Text.hexDigit? c).getD 0) 0

/-- an integer of a document has 64 bits -/
def bounded? (i : Int) : Option Item := (Text.bounded? Text.minInt64 Text.maxInt64 i).map .integer

/-- whole digits: a zero stands alone -/
def whole? : Reading (List Char)
  | '0' :: cs => some (['0'], cs)
  | cs => digits? Char.isDigit cs

/-- a positive number that is too large is malformed, a negative one is infinite -/
def float? (negative : Bool) (whole fraction : List Char) (exponent : Int) : Option Item :=
  match Float64.ofDecimal negative (inBase 10 (whole ++ fraction)) (exponent - fraction.length) with
  | .infinite false => none
  | x => some (.float x)

def exponent? : Reading Int
  | c :: cs =>
    if c = 'e' ∨ c = 'E' then
      let (negative, cs) : Bool × List Char := match cs with
        | '-' :: cs => (true, cs)
        | '+' :: cs => (false, cs)
        | cs => (false, cs)
      (digits? Char.isDigit cs).map fun (ds, cs) =>
        (if negative then -(inBase 10 ds : Int) else (inBase 10 ds : Int), cs)
    else none
  | [] => none

/-- a number in base ten behind its sign -/
def decimal? (negative : Bool) (cs : List Char) : Option (Item × List Char) := do
  let (whole, cs) ← whole? cs
  match cs with
  | '.' :: cs => do
    let (fraction, cs) ← digits? Char.isDigit cs
    let (e, cs) := (exponent? cs).getD (0, cs)
    return (← float? negative whole fraction e, cs)
  | cs =>
    match exponent? cs with
    | some (e, cs) => return (← float? negative whole [] e, cs)
    | none =>
      let n : Int := inBase 10 whole
      return (← bounded? (if negative then -n else n), cs)

/-- a number with its sign -/
def number? : Reading Item
  | '0' :: 'x' :: cs =>
    (digits? (fun c => (Text.hexDigit? c).isSome) cs).bind fun (ds, cs) => (bounded? (inBase 16 ds)).map (·, cs)
  | '0' :: 'o' :: cs =>
    (digits? (fun c => '0' ≤ c && c ≤ '7') cs).bind fun (ds, cs) => (bounded? (inBase 8 ds)).map (·, cs)
  | '0' :: 'b' :: cs =>
    (digits? (fun c => c = '0' || c = '1') cs).bind fun (ds, cs) => (bounded? (inBase 2 ds)).map (·, cs)
  | cs =>
    let (negative, cs) : Bool × List Char := match cs with
      | '-' :: cs => (true, cs)
      | '+' :: cs => (false, cs)
      | cs => (false, cs)
    match cs with
    | 'i' :: 'n' :: 'f' :: cs => some (.float (.infinite negative), cs)
    | 'n' :: 'a' :: 'n' :: cs => some (.float .nan, cs)
    | cs => decimal? negative cs

/-- a number of exactly `n` digits between two bounds -/
def fixed? (n lo hi : Nat) (cs : List Char) : Option (Nat × List Char) :=
  let ds := cs.take n
  let v := inBase 10 ds
  if ds.length = n ∧ ds.all Char.isDigit ∧ lo ≤ v ∧ v ≤ hi then some (v, cs.drop n) else none

/-- reads a given character -/
def sign? (c : Char) : List Char → Option (List Char)
  | d :: cs => if c = d then some cs else none
  | [] => none

def monthDays (year month : Nat) : Nat :=
  if month = 2 then
    if year % 4 = 0 ∧ (year % 100 ≠ 0 ∨ year % 400 = 0) then 29 else 28
  else if month = 4 ∨ month = 6 ∨ month = 9 ∨ month = 11 then 30
  else 31

/-- reads a time of day: a minute may have a second 60 -/
def clock? (cs : List Char) : Option (List Char) := do
  let (_, cs) ← fixed? 2 0 23 cs
  let (_, cs) ← fixed? 2 0 59 (← sign? ':' cs)
  let (_, cs) ← fixed? 2 0 60 (← sign? ':' cs)
  match cs with
  | '.' :: d :: rest => return if d.isDigit then rest.dropWhile Char.isDigit else cs
  | cs => return cs

/-- reads an offset from universal time -/
def offset? : List Char → Option (List Char)
  | c :: cs =>
    if c = 'Z' ∨ c = 'z' then some cs
    else if c = '+' ∨ c = '-' then do
      let (_, cs) ← fixed? 2 0 23 cs
      let (_, cs) ← fixed? 2 0 59 (← sign? ':' cs)
      return cs
    else none
  | [] => none

/-- a date, a time, or both -/
def date? (cs : List Char) : Option (List Char) :=
  match fixed? 4 0 9999 cs with
  | some (year, '-' :: cs) => do
    let (month, cs) ← fixed? 2 1 12 cs
    let (_, cs) ← fixed? 2 1 (monthDays year month) (← sign? '-' cs)
    match cs with
    | c :: rest =>
      if c = 'T' ∨ c = 't' ∨ c = ' ' then
        match clock? rest with
        | some rest => return (offset? rest).getD rest
        | none => return cs
      else return cs
    | [] => return cs
  | _ => clock? cs

/-! ## values -/

mutual

def value? : (fuel : Nat) → Reading Item
  | 0, _ => none
  | _, [] => none
  | fuel + 1, c :: cs =>
    if c = '"' ∨ c = '\'' then (string? c cs).map fun (t, cs) => (.text t, cs)
    else if c = '[' then items? fuel cs
    else if c = '{' then members? fuel [] cs
    else
      match c :: cs with
      | 't' :: 'r' :: 'u' :: 'e' :: cs => some (.boolean true, cs)
      | 'f' :: 'a' :: 'l' :: 's' :: 'e' :: cs => some (.boolean false, cs)
      | cs =>
        match date? cs with
        | some cs => some (.date, cs)
        | none => number? cs

/-- the values of an array, up to its bracket -/
def items? : (fuel : Nat) → Reading Item
  | 0, _ => none
  | fuel + 1, cs =>
    match skipLines (cs.length + 1) cs with
    | ']' :: cs => some (.array [], cs)
    | cs => do
      let (v, cs) ← value? fuel cs
      match skipLines (cs.length + 1) cs with
      | ']' :: cs => return (.array [v], cs)
      | ',' :: cs => do
        let (rest, cs) ← items? fuel cs
        match rest with
        | .array vs => return (.array (v :: vs), cs)
        | _ => none
      | _ => none

/-- the members of a table in braces, behind those that were read -/
def members? : (fuel : Nat) → Table → Reading Item
  | 0, _, _ => none
  | fuel + 1, t, cs =>
    match t, skipGaps cs with
    | [], '}' :: cs => some (.inlineTable [], cs)
    | t, cs => do
      let (path, cs) ← key? (cs.length + 1) cs
      let (v, cs) ← value? fuel (skipGaps (← sign? '=' cs))
      let t ← t.assign path v .header
      match skipGaps cs with
      | '}' :: cs => return (.inlineTable t, cs)
      | ',' :: cs => members? fuel t cs
      | _ => none

end

/-! ## documents -/

/-- reads one line that holds something, below a header; returns the header below it -/
def line (header : List String) (t : Table) (cs : List Char) :
    Option (List String × Table × List Char) :=
  match cs with
  | '[' :: '[' :: cs => do
    let (path, cs) ← key? (cs.length + 1) cs
    let cs ← lineEnd? (← sign? ']' (← sign? ']' cs))
    return (path, ← t.openRow path, cs)
  | '[' :: cs => do
    let (path, cs) ← key? (cs.length + 1) cs
    let cs ← lineEnd? (← sign? ']' cs)
    return (path, ← t.openTable path, cs)
  | cs => do
    let (path, cs) ← key? (cs.length + 1) cs
    let cs := skipGaps (← sign? '=' cs)
    let (v, cs) ← value? (cs.length + 1) cs
    let cs ← lineEnd? cs
    return (header, ← t.assignBelow header path v, cs)

def lines (fuel : Nat) (header : List String) (t : Table) (cs : List Char) : Option Table :=
  match fuel, skipLines (cs.length + 1) cs with
  | 0, _ => none
  | fuel + 1, cs =>
    match skipComment cs with
    | [] => some t
    | _ => do
      let (header, t, cs) ← line header t cs
      lines fuel header t cs

/-- reads a document; a byte order mark in front of it is skipped -/
def parse? (document : String) : Option Table :=
  let cs := match document.toList with
    | '\ufeff' :: cs => cs
    | cs => cs
  lines (cs.length + 1) [] [] cs

end RequestPipeline.Toml
