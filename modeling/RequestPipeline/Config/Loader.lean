import RequestPipeline.Config.Acceptance
import RequestPipeline.Config.Dotenv
import RequestPipeline.Text.Case
import RequestPipeline.Toml.Parse

/-!
# Loading a configuration

A loader goes through sources in the order in which they are given.  A preset or a document replaces all
settings, a variable writes one of them, and the variables of the process come last.
-/

namespace RequestPipeline

/-! ## documents -/

namespace Settings

def ofJson (document : String) : Except ConfigFault Settings :=
  match Json.Reader.parse reader (Utf8.ofText document) with
  | .ok record => .ok (ofRecord record)
  | .error reason => .error (.json reason)

end Settings

def Toml.Item.number? : Toml.Item → Option Float64
  | .float x => some x
  | .integer i => some (.ofRounded (i < 0) (Finite64.ofInt i))
  | _ => none

def SettingKind.ofToml? : SettingKind → Toml.Item → Option Setting
  | .text, .text s => some (.text s)
  | .flag, .boolean b => some (.flag b)
  | .seconds, .integer i => if i < 0 then none else some (.count i.toNat)
  | .size, .integer i => if i < 0 then none else some (.count i.toNat)
  | .numbers, .array items => (items.mapM Toml.Item.number?).map .numbers
  | _, _ => none

namespace Settings

/-- writes settings from values in their order; what is left of either is ignored -/
def putInOrder (s : Settings) : List Key → List Toml.Item → Option Settings
  | k :: ks, item :: items => do (s.put k (← k.kind.ofToml? item)).putInOrder ks items
  | _, _ => some s

def putTable (s : Settings) (sec : Section) (t : Toml.Table) : Option Settings :=
  t.foldlM (fun s (name, item) => do
    let k ← (Key.ofSection sec).find? fun k => k.name == name
    return s.put k (← k.kind.ofToml? item)) s

/-- writes the settings of a section: a table, or a list of values in the order of the settings -/
def putItem (s : Settings) (sec : Section) : Toml.Item → Option Settings
  | .table _ t => s.putTable sec t
  | .inlineTable t => s.putTable sec t
  | .array items => s.putInOrder (Key.ofSection sec) items
  | .rows earlier last => s.putInOrder (Key.ofSection sec) ((earlier ++ [last]).map .inlineTable)
  | _ => none

def ofToml (document : String) : Except ConfigFault Settings :=
  let read : Option Settings := do
    let t ← Toml.parse? document
    t.foldlM (fun s (name, item) => do
      let sec ← Section.all.find? fun sec => sec.name == name
      s.putItem sec item) default
  match read with
  | some s => .ok s
  | none => .error .toml

/-- the settings of a document in a format; `shown` names the format where it is not known -/
def ofDocument (format shown document : String) : Except ConfigFault Settings :=
  match format with
  | "toml" => ofToml document
  | "json" => ofJson document
  | _ => .error (.unsupportedFormat shown)

end Settings

/-! ## variables -/

def Key.variable (k : Key) : List String := [Text.upper k.home.name, Text.upper k.name]

/-- the setting that a variable names: `STEM__SECTION__KEY` -/
def Key.ofVariable? (stem name : String) : Option Key := do
  let rest ← Text.dropFront? (stem.toList ++ ['_', '_']) name.toList
  let parts := (Text.splitPair '_' rest).map String.ofList
  Key.all.find? fun k => k.variable == parts

/-- whether a text says yes or no -/
def flag? (value : String) : Option Bool :=
  let word := Text.lower (Text.trim value)
  if ["true", "1", "yes", "on"].contains word then some true
  else if ["false", "0", "no", "off"].contains word then some false
  else none

def SettingKind.ofVariable (value : String) : SettingKind → Except String Setting
  | .text => .ok (.text value)
  | .flag =>
    match flag? value with
    | some b => .ok (.flag b)
    | none => .error "expected boolean"
  | .seconds => count value
  | .size => count value
  | .numbers =>
    match (Text.commaParts value).mapM fun p => Float64.parse? p.toList with
    | some ns => .ok (.numbers ns)
    | none => .error "expected comma-separated numbers"
where
  /-- a count, which may have blanks around it -/
  count (value : String) : Except String Setting :=
    match Text.uint64? (Text.trimChars value.toList) with
    | some n => .ok (.count n)
    | none => .error "expected a non-negative integer"

namespace Settings

/-- writes the setting that a variable names; other variables change nothing -/
def putVariable (stem : String) (s : Settings) (name value : String) :
    Except ConfigFault Settings :=
  match Key.ofVariable? stem name with
  | none => .ok s
  | some k =>
    match k.kind.ofVariable value with
    | .ok v => .ok (s.put k v)
    | .error reason => .error (.badVariable name reason)

def putVariables (stem : String) (s : Settings) : List (String × String) →
    Except ConfigFault Settings
  | [] => .ok s
  | (name, value) :: rest =>
    match s.putVariable stem name value with
    | .ok s => s.putVariables stem rest
    | .error f => .error f

end Settings

/-! ## files -/

/-- the files of a working directory: names with contents -/
abbrev Files := List (String × Bytes)

inductive FileEntry where
  | directory
  | file (name : String) (content : Bytes)
  deriving DecidableEq, Repr

namespace Files

/-- the steps of a path that lead somewhere else -/
def steps (path : String) : List String :=
  (Text.splitText '/' path).filter fun s => s ≠ "" ∧ s ≠ "."

/-- what a path from the working directory leads to -/
def find? (files : Files) (path : String) : Option FileEntry :=
  if path.isEmpty then none
  else
    match steps path with
    | [name] =>
      if name = ".." then some .directory
      else if path.endsWith name then (files.lookup name).map (.file name)
      else none
    | steps => if steps.all (· = "..") then some .directory else none

/-- the ending of a file name behind its last dot; a dot in front is none -/
def extension (name : String) : Option String :=
  match Text.cutLast '.' name.toList with
  | some (_ :: _, ending) => some (String.ofList ending)
  | _ => none

end Files

/-! ## the loader -/

inductive ConfigSource where
  /-- forgets everything before it -/
  | fresh
  | development
  | production
  | text (format document : String)
  | file (path : String)
  /-- a file that may be missing -/
  | optionalFile (path : String)
  /-- the variables of the file `.env`, if there is one -/
  | dotenv
  | dotenvFile (path : String)
  /-- the stem that the variables of settings begin with -/
  | stem (name : String)
  | overrides (pairs : List (String × String))
  deriving DecidableEq, Repr

/-- a configuration while it is loaded, with the variables of the process -/
structure Loader where
  settings : Settings
  /-- the stem of the variables, if one was chosen; only then does the process have a say -/
  stem : Option String
  environment : Variables
  deriving DecidableEq, Repr

namespace Loader

def defaultStem : String := "TURNSTILE"

def start (environment : Variables) : Loader := ⟨.default, none, environment⟩

def loadFile (l : Loader) (files : Files) (path : String) : Except ConfigFault Loader :=
  match files.find? path with
  | none => .error (.fileNotFound path)
  | some .directory => .error (.unreadable path)
  | some (.file name content) =>
    match Utf8.toText? content with
    | none => .error (.unreadable path)
    | some document =>
      let format := ((Files.extension name).map Text.lower).getD ""
      match Settings.ofDocument format path document with
      | .ok s => .ok { l with settings := s }
      | .error f => .error f

def loadVariables (l : Loader) (files : Files) (path : String) : Except ConfigFault Loader :=
  match files.find? path with
  | some (.file _ content) =>
    match (Utf8.toText? content).bind (Dotenv.load? l.environment) with
    | some vs => .ok { l with environment := vs }
    | none => .error .dotenv
  | _ => .error .dotenv

def load (l : Loader) (files : Files) : ConfigSource → Except ConfigFault Loader
  | .fresh => .ok (start l.environment)
  | .development => .ok { l with settings := .development }
  | .production => .ok { l with settings := .production }
  | .text format document =>
    let format := Text.lower format
    (Settings.ofDocument format format document).map fun s => { l with settings := s }
  | .file path => l.loadFile files path
  | .optionalFile path => if (files.find? path).isSome then l.loadFile files path else .ok l
  | .dotenv => if (files.find? ".env").isSome then l.loadVariables files ".env" else .ok l
  | .dotenvFile path => l.loadVariables files path
  | .stem name => .ok { l with stem := some (Text.upper name) }
  | .overrides pairs =>
    (l.settings.putVariables (l.stem.getD defaultStem) pairs).map fun s => { l with settings := s }

def loadAll (l : Loader) (files : Files) : List ConfigSource → Except ConfigFault Loader
  | [] => .ok l
  | source :: rest =>
    match l.load files source with
    | .ok l => l.loadAll files rest
    | .error f => .error f

/-- the settings, with those written over them that the variables of the process name -/
def finish (l : Loader) : Except ConfigFault Settings :=
  match l.stem with
  | none => .ok l.settings
  | some stem => l.settings.putVariables stem l.environment

end Loader
end RequestPipeline
