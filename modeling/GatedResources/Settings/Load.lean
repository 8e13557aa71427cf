import GatedResources.Settings.Environment
import GatedResources.Settings.Server
import GatedResources.Settings.Yaml
import GatedResources.Trace

/-!
# Loading the settings

Three layers: the initial settings, a file, the environment. A later layer wins leaf by leaf.
-/

namespace GatedResources

inductive FileContent where
  | missing
  | malformed
  | tree (value : Json)
deriving DecidableEq, Repr

def FileContent.ofText (text : String) : FileContent :=
  match Yaml.parse text with
  | some value => .tree value
  | none => .malformed

structure SettingsFile where
  name : String
  content : FileContent
deriving DecidableEq, Repr

inductive SettingsLayer where
  | file
  | environment
deriving DecidableEq, Repr

inductive LoadError where
  | missingFile (name : String)
  | malformedFile
  | notMapping (found : Found)
  | refused (layer : SettingsLayer) (fault : Fault)
deriving DecidableEq, Repr

namespace LoadError

def message : LoadError -> String
  | .missingFile name => "config file '" ++ name ++ "' not found"
  | .malformedFile => "malformed YAML"
  | .notMapping found =>
      let text := match found with
        | .null => "unit value"
        | found => found.requestText
      "invalid type: " ++ text ++ ", expected a map"
  | .refused _ fault => fault.cause.settingsMessage

def path : LoadError -> List String
  | .refused _ fault => fault.path
  | _ => []

def place (fileName : String) : LoadError -> String
  | .missingFile _ => ""
  | .malformedFile | .notMapping _ => " in " ++ fileName ++ " YAML file"
  | .refused .file fault =>
      " for key " ++ quoted (".".intercalate ("default" :: fault.path)) ++ " in " ++ fileName ++
        " YAML file"
  | .refused .environment fault =>
      let keys := fault.path.map fun key => String.ofList (key.toList.map Char.toUpper)
      " for key " ++ quoted (".".intercalate keys) ++ " in " ++ ticked Environment.namePrefix ++
        " environment variable(s)"

end LoadError

namespace ServerSettings

/-- The tree that a file gives, empty without a file. -/
def fileTree : Option SettingsFile -> Except LoadError Json
  | none => .ok (.object [])
  | some ⟨name, .missing⟩ => .error (.missingFile name)
  | some ⟨_, .malformed⟩ => .error .malformedFile
  | some ⟨_, .tree (.object members)⟩ => .ok (.object members)
  | some ⟨_, .tree value⟩ => .error (.notMapping (Found.of value))

/-- The tree of the initial settings with those of a file and of the environment over it. -/
def merged (file environment : Json) : Json :=
  (initial.toJson.sorted.overlay file).overlay environment

/-- The settings of a file and of the environment. A fault is blamed on the last layer that says
what stands there. -/
def decodeMerged (file environment : Json) : Except LoadError ServerSettings :=
  match shape.decode .settings (merged file environment) with
  | .ok settings => .ok settings
  | .error fault =>
      .error (.refused (if environment.settles fault.path then .environment else .file) fault)

/-- Loads the settings. The environment is read unless the file is missing, whatever is wrong
with the file, and what cannot be read in it is a crash. -/
def load (file : Option SettingsFile) (entries : List (String × String)) :
    Outcome LoadError ServerSettings :=
  match file, Environment.settings entries with
  | some ⟨name, .missing⟩, _ => .failed (.missingFile name)
  | _, none => .crashed
  | file, some environment =>
      .ofExcept (do decodeMerged (← fileTree file) environment)

end ServerSettings
end GatedResources
