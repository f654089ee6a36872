import RequestPipeline.Config.Loader
import RequestPipeline.Json.Lookup

/-!
# Descriptions of configurations

The steps of a loader can be described, each as an array of its name and what it takes.
-/

namespace RequestPipeline

open Json (Value)

namespace ConfigFault

def kind : ConfigFault → String
  | .fileNotFound _ => "FileNotFound"
  | .unreadable _ => "ReadError"
  | .unsupportedFormat _ => "UnsupportedFormat"
  | .toml => "TomlError"
  | .json _ => "JsonError"
  | .invalidValue .. => "InvalidValue"
  | .badVariable .. => "EnvParseError"
  | .dotenv => "Dotenv"

/-- a fault as a value; faults that have no words of their own are shown by their kind alone -/
def toJson (f : ConfigFault) : Value :=
  match f with
  | .toml => Json.object [("error", .string f.kind)]
  | .dotenv => Json.object [("error", .string f.kind)]
  | _ =>
    Json.object
      [("error", .string f.kind), ("message", .string f.message), ("field", .ofOption f.field?)]

end ConfigFault

/-- names with texts, from an array of pairs -/
def textPairs (v : Value) : List (String × String) :=
  (v.items?.getD []).map fun p => (p.itemText 0, p.itemText 1)

def ConfigSource.ofJson (v : Value) : ConfigSource :=
  let first := v.itemText 1
  match v.itemText 0 with
  | "development" => .development
  | "production" => .production
  | "string" => .text first (v.itemText 2)
  | "file" => .file first
  | "optional_file" => .optionalFile first
  | "dotenv" => .dotenv
  | "dotenv_file" => .dotenvFile first
  | "env_prefix" => .stem first
  | "vars" => .overrides (textPairs (v.item 1))
  | _ => .fresh

end RequestPipeline
