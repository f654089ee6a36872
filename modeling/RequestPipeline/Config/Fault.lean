/-!
# Faults of a configuration
-/

namespace RequestPipeline

inductive ConfigFault where
  | fileNotFound (path : String)
  /-- a file that exists and cannot be read as text -/
  | unreadable (path : String)
  | unsupportedFormat (format : String)
  | toml
  | json (reason : String)
  | invalidValue (field reason : String)
  | badVariable (name reason : String)
  | dotenv
  deriving DecidableEq, Repr

namespace ConfigFault

def message : ConfigFault → String
  | .fileNotFound path => "configuration file not found: " ++ path
  | .unreadable path => "failed to read configuration file: " ++ path
  | .unsupportedFormat format => "unsupported configuration format: " ++ format
  | .toml => "failed to parse TOML configuration"
  | .json reason => "failed to parse JSON configuration: " ++ reason
  | .invalidValue field reason =>
    "invalid configuration value for " ++ field ++ ": " ++ reason
  | .badVariable name reason =>
    "failed to parse environment variable " ++ name ++ ": " ++ reason
  | .dotenv => "failed to load .env file"

def field? : ConfigFault → Option String
  | .invalidValue field _ => some field
  | _ => none

end ConfigFault
end RequestPipeline
