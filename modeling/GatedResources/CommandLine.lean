import GatedResources.Server.App
import GatedResources.Server.ListenAddress
import GatedResources.Settings.Load
import GatedResources.Settings.ReportFilter

/-!
# The command line

What the arguments ask for, and how a run of the program ends or comes to serve.
-/

namespace GatedResources

structure Invocation where
  file : Option String
  printSettings : Bool
deriving DecidableEq, Repr

inductive Command where
  | run (invocation : Invocation)
  | showVersion
  | showHelp
deriving DecidableEq, Repr

namespace Command

def isOption (argument : String) : Bool :=
  match argument.toList with
  | '-' :: _ :: _ => true
  | _ => false

def withFile (invocation : Invocation) (name : String) : Option Invocation :=
  if name.isEmpty || invocation.file.isSome then none
  else some { invocation with file := some name }

def withPrint (invocation : Invocation) : Option Invocation :=
  if invocation.printSettings then none else some { invocation with printSettings := true }

inductive Argument where
  | printSettings
  | version
  | help
  /-- The settings file, with its name unless that is the next argument. -/
  | file (name : Option String)
  | endOfOptions
  | unknown
deriving DecidableEq, Repr

/-- Tells what an argument is. Of short options written together the first counts, as no
other takes any after it. -/
def Argument.of (argument : String) : Argument :=
  match argument.toList with
  | ['-', '-'] => .endOfOptions
  | '-' :: '-' :: long =>
      let name := String.ofList (long.takeWhile (· != '='))
      let value := (long.dropWhile (· != '=')).tail?.map String.ofList
      match name, value with
      | "config", value => .file value
      | "print-config", none => .printSettings
      | "version", none => .version
      | "help", none => .help
      | _, _ => .unknown
  | ['-', 'c'] => .file none
  | '-' :: 'c' :: '=' :: value => .file (some (String.ofList value))
  | '-' :: 'c' :: value => .file (some (String.ofList value))
  | '-' :: 'V' :: _ => .version
  | '-' :: 'h' :: _ => .help
  | _ => .unknown

/-- Reads arguments one after the other; `none` if they are used wrongly. -/
def readFrom (invocation : Invocation) : List String -> Option Command
  | [] => some (.run invocation)
  | argument :: rest =>
      match Argument.of argument with
      | .unknown => none
      | .version => some .showVersion
      | .help => some .showHelp
      | .endOfOptions => if rest.isEmpty then some (.run invocation) else none
      | .printSettings =>
          match withPrint invocation with
          | some invocation => readFrom invocation rest
          | none => none
      | .file (some name) =>
          match withFile invocation name with
          | some invocation => readFrom invocation rest
          | none => none
      | .file none =>
          match rest with
          | [] => none
          | name :: rest =>
              if isOption name then
                none
              else
                match withFile invocation name with
                | some invocation => readFrom invocation rest
                | none => none

def read (arguments : List String) : Option Command :=
  readFrom ⟨none, false⟩ arguments

end Command

/-- How a run ends. Without `errors` the wording of what is reported is left open. -/
structure Exit where
  code : Nat
  output : String
  errors : Option String
deriving DecidableEq, Repr

inductive RunResult where
  | exit (exit : Exit)
  | serve (address : ListenAddress) (settings : ServerSettings) (database : Database)

structure Surroundings where
  environment : List (String × String)
  /-- The content of files by their names. -/
  file : String -> FileContent
  /-- Whether the machine can listen at a host. -/
  hasHost : Host -> Bool
  /-- The time in seconds. -/
  now : Nat

namespace CommandLine

def version : String := "0.2.13"

def versionText : String := "crudkit-server " ++ version ++ "\n"

def usageText : String := "Usage: crudkit-server [OPTIONS]\n"

def helpText : String :=
  "Gated CRUD resources over HTTP\n\n" ++
  usageText ++ "\n" ++
  "Options:\n" ++
  "  -c, --config <CONFIG>  YAML configuration file\n" ++
  "      --print-config     Print the effective configuration as JSON and exit\n" ++
  "  -h, --help             Print help\n" ++
  "  -V, --version          Print version\n"

def filterVariable : String := "RUST_LOG"

def causeLines : List String -> List String
  | [] => []
  | [cause] => ["    " ++ Trim.replaceAll "\n" "\n    " cause]
  | causes => causes.zipIdx.map fun (cause, index) =>
      "    " ++ Decimal.natural index ++ ": " ++ Trim.replaceAll "\n" "\n       " cause

def errorText (error : StartupError) : String :=
  let head := "Error: " ++ error.context ++ "\n"
  if error.causes.isEmpty then head
  else head ++ "\nCaused by:\n" ++ "\n".intercalate (causeLines error.causes) ++ "\n"

def shownName (name : String) : String :=
  let steps := Trim.splitAll '/' name.toList
  if steps.head?.any List.isEmpty then name
  else
    "/".intercalate ((steps.filter fun step => !step.isEmpty && step != ['.']).map String.ofList)

def loadFailure (fileName : String) (error : LoadError) : StartupError :=
  ⟨"load configuration", [error.message ++ error.place fileName]⟩

def settings (surroundings : Surroundings) (invocation : Invocation) :
    Outcome StartupError ServerSettings :=
  let file := invocation.file.map fun name => SettingsFile.mk name (surroundings.file name)
  match ServerSettings.load file surroundings.environment with
  | .done settings => .done settings
  | .failed error => .failed (loadFailure (shownName (invocation.file.getD "")) error)
  | .crashed => .crashed

/-- Checks the filter for reports. One of the environment counts if it is in order. -/
def checkReports (surroundings : Surroundings) (settings : ServerSettings) :
    Except StartupError Unit :=
  let given := surroundings.environment.lookup filterVariable
  match given.map ReportFilter.check, ReportFilter.check settings.reports.level with
  | some (.ok ()), _ => .ok ()
  | _, .ok () => .ok ()
  | _, .error refusal =>
      .error ⟨refusal.message, refusal.causes.map ReportFilter.Refusal.message⟩

def prepare (surroundings : Surroundings) (settings : ServerSettings) :
    Attempt StartupError RunResult := do
  Attempt.ofExcept (checkReports surroundings settings)
  let database ← Server.prepareDatabase settings
  let _ ← Server.router settings surroundings.now
  let bound := settings.listen.bindAddress
  match ListenAddress.parseFor surroundings.hasHost bound with
  | .ok address => return .serve address settings database
  | .error refusal => Attempt.fail ⟨"bind " ++ bound, [refusal.message]⟩

def failure (error : StartupError) : RunResult :=
  .exit ⟨1, "", some (errorText error)⟩

def crash : RunResult :=
  .exit ⟨101, "", none⟩

def execute (surroundings : Surroundings) (invocation : Invocation) : RunResult :=
  match settings surroundings invocation with
  | .failed error => failure error
  | .crashed => crash
  | .done settings =>
      if invocation.printSettings then
        .exit ⟨0, settings.toJson.indented ++ "\n", some ""⟩
      else
        match (prepare surroundings settings).outcome with
        | .done result => result
        | .failed error => failure error
        | .crashed => crash

def run (surroundings : Surroundings) (arguments : List String) : RunResult :=
  match Command.read arguments with
  | none => .exit ⟨2, "", none⟩
  | some .showVersion => .exit ⟨0, versionText, some ""⟩
  | some .showHelp => .exit ⟨0, helpText, some ""⟩
  | some (.run invocation) => execute surroundings invocation

end CommandLine
end GatedResources
