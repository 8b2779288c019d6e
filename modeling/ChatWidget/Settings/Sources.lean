import ChatWidget.Settings.Basic
import ChatWidget.Settings.EnvFile
import ChatWidget.Settings.Yaml.Reader
import ChatWidget.Text.LineEnds
/-!
Where settings come from: values given by the caller, the environment, a file of environment variables,
and a configuration file, each before the next. The configuration file is the first candidate that exists
and holds a mapping; what is tried before it without success is warned about.
-/
namespace ChatWidget

/-- A place where a configuration file may be, and its text if there is a file. -/
structure ConfigFile where
  path : String
  text : Option String

inductive ConfigWarning where
  | notMapping (path : String)
  | unreadable (path : String)

/-- The wording of a warning, up to the path for a file that cannot be read. -/
def ConfigWarning.message : ConfigWarning → String
  | notMapping path => "Config file " ++ path ++ " is not a mapping, ignored"
  | unreadable path => "Failed to read config file " ++ path

namespace ConfigFile

abbrev Reader := List Char → Yaml.Reading

/-- What the text of a file is good for. -/
inductive Use where
  | holds (entries : List (Yaml × Yaml))
  | useless (warning : ConfigWarning)
  | broken (fault : Fault)

/-- What reading the text of a file comes to, whichever way its lines end. -/
def document (read : Reader) (text : String) : Yaml.Reading := read (Text.unifyLineEnds text.toList)

/-- The use of a file: a value that does not count as present stands for no entries. -/
def use (read : Reader) (path text : String) : Use :=
  match document read text with
  | .malformed => .useless (.unreadable path)
  | .broken fault => .broken fault
  | .value (.map entries) => .holds entries
  | .value value => if value.isTruthy then .useless (.notMapping path) else .holds []

/-- Try the candidates in order, each path once, and keep what is warned about. -/
def search (read : Reader) : List String → List ConfigFile →
    Except Fault (List (Yaml × Yaml)) × List ConfigWarning
  | _, [] => (.ok [], [])
  | tried, file :: rest =>
    if tried.contains file.path then search read tried rest
    else match file.text with
      | none => search read (file.path :: tried) rest
      | some text => match use read file.path text with
        | .holds entries => (.ok entries, [])
        | .broken fault => (.error fault, [])
        | .useless warning =>
          let (found, warnings) := search read (file.path :: tried) rest
          (found, warning :: warnings)

def named? (entries : List (Yaml × Yaml)) : Option (Entries Yaml) :=
  entries.foldlM (fun found (key, value) => match key with
    | .str name => some (found.put name value)
    | _ => none) []

end ConfigFile

structure SettingsSources where
  given : Entries Json := []
  environment : Entries String := []
  envFile : Option String := none
  files : List ConfigFile := []

inductive SettingsFailure where
  | refused (errors : List FieldError)
  | fault (fault : Fault)

namespace SettingsSources

def smallNames {α : Type} (named : Entries α) : Entries α :=
  Entries.ofWrites (named.map fun (name, value) => (name.lowered, value))

/-- The values by name: of each the one from the first source that has it. A variable without a value
does not count. -/
def values (sources : SettingsSources) (file : Entries Yaml) : Entries Yaml :=
  let envFile := match sources.envFile with
    | some text => EnvFile.read sources.environment (Text.unifyLineEnds text.toList)
    | none => []
  let ofVariables := (smallNames envFile).filterMap fun (name, value) =>
    value.map fun value => (name, Yaml.str value)
  let ofEnvironment := (smallNames sources.environment).map fun (name, value) =>
    (name, Yaml.str value)
  let given := sources.given.map fun (name, value) => (name, Yaml.ofJson value)
  [ofVariables, ofEnvironment, given].foldl Entries.putAll file

/-- The settings that entries of a configuration file and the other sources give. -/
def settings (sources : SettingsSources) (entries : List (Yaml × Yaml)) :
    Except SettingsFailure Settings :=
  match ConfigFile.named? entries with
  | none => .error (.fault .wrongType)
  | some file => (Settings.ofValues (sources.values file)).mapError .refused

/-- The settings, and what is warned about, with a way to read configuration files. -/
def loadWith (read : ConfigFile.Reader) (sources : SettingsSources) :
    Except SettingsFailure Settings × List ConfigWarning :=
  let (found, warnings) := ConfigFile.search read [] sources.files
  (found.mapError .fault >>= sources.settings, warnings)

/-- The settings, and what is warned about. -/
def load (sources : SettingsSources) : Except SettingsFailure Settings × List ConfigWarning :=
  sources.loadWith Yaml.read

end SettingsSources

end ChatWidget
