import FilterPipeline.Error
import FilterPipeline.Stage
import FilterPipeline.Text.Letter

/-!
Settings. Each is taken from the explicitly given ones, then from the environment, then
from its default. An environment variable is named by a prefix and the setting, in any
case. All settings are texts, and the names of arrays and fields may not be empty.
-/

namespace FilterPipeline

structure Settings where
  timezone : String
  regexOptions : String
  lookupAlias : String
  softDeleteField : String
  lookupAlias_ne : lookupAlias ≠ ""
  softDeleteField_ne : softDeleteField ≠ ""
deriving Repr

namespace Settings

/-- The options of a text search, unless some are given. -/
def searchOptions (s : Settings) : Value → Value
  | .null => .text s.regexOptions
  | options => options

def default : Settings :=
  ⟨"UTC", "i", defaultTarget, "deletedAt", by decide, by decide⟩

/-- Where settings come from. -/
structure Sources where
  given : List (String × Value)
  environment : List (String × String)
  variablePrefix : String

namespace Sources

/-- What the environment says about a setting; of variables that differ only in the case
of their names the last one counts. -/
def fromEnvironment? (s : Sources) (field : String) : Option String :=
  let wanted := Text.asciiLower (s.variablePrefix ++ field).toList
  (s.environment.reverse.find? fun (name, _) => Text.asciiLower name.toList == wanted).map
    Prod.snd

/-- The value of a setting, which may still be refused. -/
def value (s : Sources) (field default : String) : Value :=
  match s.given.lookup field with
  | some v => v
  | none => .text ((s.fromEnvironment? field).getD default)

def text (s : Sources) (field default : String) : Except InvalidSetting String :=
  match s.value field default with
  | .text t => .ok t
  | _ => .error (.notText field)

/-- A setting that names something and therefore may not be empty. -/
def name (s : Sources) (field default : String) : Except InvalidSetting { t : String // t ≠ "" } :=
  match s.text field default with
  | .ok t => if h : t = "" then .error (.empty field) else .ok ⟨t, h⟩
  | .error e => .error e

end Sources

def refusal {α : Type} : Except InvalidSetting α → List InvalidSetting
  | .ok _ => []
  | .error e => [e]

/-- Reads all settings. If some are refused, all of those are reported. -/
def load (s : Sources) : Except Error Settings :=
  match s.text "timezone" default.timezone, s.text "regex_options" default.regexOptions,
    s.name "lookup_alias" default.lookupAlias,
    s.name "soft_delete_field" default.softDeleteField with
  | .ok timezone, .ok options, .ok lookupAlias, .ok field =>
      .ok ⟨timezone, options, lookupAlias, field, lookupAlias.2, field.2⟩
  | timezone, options, lookupAlias, field =>
      .error (.invalidSettings
        (refusal timezone ++ refusal options ++ refusal lookupAlias ++ refusal field))

end Settings

end FilterPipeline
