import ChatProbe.Value.Basic
/-!
# Faults of settings

Each way in which a value can be refused as a setting is a `Settings.Problem`, with a short
code and a sentence. A `Settings.Fault` says where among the settings the problem sits.
-/

namespace ChatProbe
namespace Settings

/-- The rules that settings state for themselves. -/
inductive Rule where
  | levelName
  | formatName
  | exporterName
  | endpointScheme
  | portRange
  | environmentName
deriving DecidableEq, Repr

/-- The wording of a rule. -/
def Rule.wording : Rule → String
  | .levelName =>
    "Log level must be one of: ['DEBUG', 'INFO', 'WARNING', 'ERROR', 'CRITICAL']"
  | .formatName => "Log format must be 'json' or 'text'"
  | .exporterName => "Exporter must be one of: ['otlp', 'console', 'none']"
  | .endpointScheme => "OTLP endpoint must start with 'http://' or 'https://'"
  | .portRange => "Port must be between 1 and 65535"
  | .environmentName =>
    "App environment must be one of: ['development', 'staging', 'production', 'testing']"

/-- Why a value is refused. -/
inductive Problem where
  | notText
  | notUnicode
  | notBool
  | boolSyntax
  | notInteger
  | integerSyntax
  | integerSize
  | fractional
  | notFinite
  /-- Not the settings of the named group. -/
  | notGroup (title : String)
  | unknownName
  | rule (r : Rule)
deriving DecidableEq, Repr

namespace Problem

/-- The short code of a problem. -/
def code : Problem → String
  | .notText => "string_type"
  | .notUnicode => "string_unicode"
  | .notBool => "bool_type"
  | .boolSyntax => "bool_parsing"
  | .notInteger => "int_type"
  | .integerSyntax => "int_parsing"
  | .integerSize => "int_parsing_size"
  | .fractional => "int_from_float"
  | .notFinite => "finite_number"
  | .notGroup _ => "model_type"
  | .unknownName => "extra_forbidden"
  | .rule _ => "value_error"

/-- The sentence of a problem. -/
def wording : Problem → String
  | .notText => "Input should be a valid string"
  | .notUnicode =>
    "Input should be a valid string, unable to parse raw data as a unicode string"
  | .notBool => "Input should be a valid boolean"
  | .boolSyntax => "Input should be a valid boolean, unable to interpret input"
  | .notInteger => "Input should be a valid integer"
  | .integerSyntax => "Input should be a valid integer, unable to parse string as an integer"
  | .integerSize => "Unable to parse input string as an integer, exceeded maximum size"
  | .fractional => "Input should be a valid integer, got a number with a fractional part"
  | .notFinite => "Input should be a finite number"
  | .notGroup title => "Input should be a valid dictionary or instance of " ++ title
  | .unknownName => "Extra inputs are not permitted"
  | .rule r => "Value error, " ++ r.wording

end Problem

/-- A problem and the path to the setting that has it. -/
structure Fault where
  path : List String
  problem : Problem
deriving DecidableEq, Repr

end Settings
end ChatProbe
