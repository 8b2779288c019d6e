import ChatWidget.Settings.Field
import ChatWidget.Store.KeyValue
/-!
The settings of the widget. Each comes from the first source that has it, or has a default; all that are
refused are reported together, in the order of the settings.
-/
namespace ChatWidget

structure Settings where
  scriptSrc : String := Fault.scriptName
  pageUrl : String := "http://localhost:8080/"
  identity : Option String := none
  httpTimeout : Binary64 := .ofInt 30
  storageRoot : String := ".storage"
  storageKey : String := Store.defaultKey
  logDir : String := "logs"
  logRedactContent : Bool := false
  style : String := "default"
  selector : String := "body"
  title : Option String := none

structure FieldError where
  name : String
  cause : FieldCause

namespace Settings

def names : List String :=
  ["script_src", "page_url", "identity", "http_timeout", "storage_root", "storage_key", "log_dir",
   "log_redact_content", "style", "selector", "title"]

/-- The identity without blanks around it; of blanks alone there is none. -/
def cleanIdentity (identity : Option String) : Option String :=
  match identity.map String.trimBlanks with
  | some "" => none
  | identity => identity

def take (settings : Settings) (name : String) (value : Yaml) : Except FieldCause Settings :=
  match name with
  | "script_src" => (Field.text value).map fun v => { settings with scriptSrc := v }
  | "page_url" => (Field.text value).map fun v => { settings with pageUrl := v }
  | "identity" =>
    (Field.optionalText value).map fun v => { settings with identity := cleanIdentity v }
  | "http_timeout" => (Field.numberFromOne value).map fun v => { settings with httpTimeout := v }
  | "storage_root" => (Field.text value).map fun v => { settings with storageRoot := v }
  | "storage_key" => (Field.text value).map fun v => { settings with storageKey := v }
  | "log_dir" => (Field.text value).map fun v => { settings with logDir := v }
  | "log_redact_content" =>
    (Field.truth value).map fun v => { settings with logRedactContent := v }
  | "style" => (Field.text value).map fun v => { settings with style := v }
  | "selector" => (Field.text value).map fun v => { settings with selector := v }
  | "title" => (Field.optionalText value).map fun v => { settings with title := v }
  | _ => .ok settings

/-- The settings that values by name give, or all that is refused. -/
def ofValues (values : Entries Yaml) : Except (List FieldError) Settings :=
  let (settings, errors) := names.foldl (fun (settings, errors) name =>
    match values.get? name with
    | none => (settings, errors)
    | some value => match take settings name value with
      | .ok settings => (settings, errors)
      | .error cause => (settings, errors ++ [⟨name, cause⟩])) (({} : Settings), [])
  if errors.isEmpty then .ok settings else .error errors

end Settings

end ChatWidget
