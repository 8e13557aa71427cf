import GatedResources.Decode.Decoder
import GatedResources.Settings.Duration
import GatedResources.Store.Error
import GatedResources.Text.Address
import GatedResources.Text.Percent
import GatedResources.Trace

/-!
# Connecting to a database

A database is named by an address whose scheme is its kind. Only one kind can be opened, and
only in memory or as a new file.
-/

namespace GatedResources

structure PoolSettings where
  greatestCount : Option Nat
  leastCount : Option Nat
  acquireTimeout : Option String
  statementReports : Bool
deriving DecidableEq, Repr

namespace PoolSettings

def initial : PoolSettings := ⟨none, none, none, false⟩

def shape : Shape PoolSettings where
  label := "ConnectOpts"
  closed := true
  initial := initial
  members := [
    Member.of "max_conns" .defaulted (Decoder.optional (Decoder.unsigned 32))
      fun greatestCount settings => { settings with greatestCount },
    Member.of "min_conns" .defaulted (Decoder.optional (Decoder.unsigned 32))
      fun leastCount settings => { settings with leastCount },
    Member.of "acquire_timeout" .defaulted (Decoder.optional Decoder.text)
      fun acquireTimeout settings => { settings with acquireTimeout },
    Member.of "sqlx_logging" .defaulted Decoder.flag
      fun statementReports settings => { settings with statementReports }]

def toJson (settings : PoolSettings) : Json :=
  .object [
    ("max_conns", Json.optionalNatural settings.greatestCount),
    ("min_conns", Json.optionalNatural settings.leastCount),
    ("acquire_timeout", Json.optionalString settings.acquireTimeout),
    ("sqlx_logging", .bool settings.statementReports)]

def timeout (settings : PoolSettings) : Outcome StoreError (Option Duration) :=
  match settings.acquireTimeout with
  | none => .done none
  | some text =>
      match Duration.parse text with
      | .done duration => .done (some duration)
      | .failed refusal => .failed (.settings ("acquire_timeout: " ++ refusal.message))
      | .crashed => .crashed

end PoolSettings

namespace Connection

def backend (name : String) : String :=
  String.ofList (name.toList.takeWhile (· != ':'))

def dropRepeated (beginning : List Char) : Nat -> List Char -> List Char
  | 0, symbols => symbols
  | fuel + 1, symbols =>
      if beginning.isPrefixOf symbols then
        dropRepeated beginning fuel (symbols.drop beginning.length)
      else
        symbols

inductive Refusal where
  | notAddress
  | noDriver
  | notText
  | unknownParameter (key : String)
  | unknownValue (key value : String)
  | unknownFileSystem (name : String)
  | notOpened
  | timedOut
deriving DecidableEq, Repr

def Refusal.message (name : String) : Refusal -> String
  | .notAddress => "The connection string '" ++ name ++ "' cannot be parsed."
  | .noDriver => "The connection string '" ++ name ++ "' has no supporting driver."
  | .notText => "error with configuration: the name of the file is not text"
  | .unknownParameter key =>
      "error with configuration: unknown query parameter " ++ ticked key ++
        " while parsing connection URL"
  | .unknownValue key value =>
      "error with configuration: unknown value " ++ quoted value ++ " for " ++ ticked key
  | .unknownFileSystem name =>
      "error returned from database: (code: 1) no such vfs: " ++ name
  | .notOpened => "error returned from database: (code: 14) unable to open database file"
  | .timedOut => "pool timed out while waiting for an open connection"

structure Location where
  path : List Char
  parameters : List (String × String)
deriving DecidableEq, Repr

namespace Location

def has (location : Location) (key value : String) : Bool :=
  location.parameters.contains (key, value)

def last? (location : Location) (key : String) : Option String :=
  location.parameters.reverse.lookup key

/-- Whether the database is no file beside the program: it is in memory, or goes away when it is
closed. -/
def isTransient (location : Location) : Bool :=
  location.path.isEmpty || location.path == ":memory:".toList || location.has "mode" "memory"

end Location

/-- The parameters that may be given, with their values; any value where none are listed. -/
def knownParameters : List (String × List String) := [
  ("mode", ["ro", "rw", "rwc", "memory"]),
  ("cache", ["private", "shared"]),
  ("immutable", ["true", "1", "false", "0"]),
  ("vfs", [])]

def checkParameters : List (String × String) -> Except Refusal Unit
  | [] => .ok ()
  | (key, value) :: rest =>
      match knownParameters.lookup key with
      | none => .error (.unknownParameter key)
      | some values =>
          if values.isEmpty || values.contains value then checkParameters rest
          else .error (.unknownValue key value)

def fileSystems : List String :=
  ["unix", "unix-none", "unix-dotfile", "unix-excl", "memdb"]

inductive Access where
  | readWrite
  | readOnly
deriving DecidableEq, Repr

/-- The location that a name gives: a path, which may hold escapes, and parameters after a
question mark. -/
def locate (name : String) : Except Refusal Location := do
  match Address.scheme? name with
  | none => .error .notAddress
  | some scheme =>
      if scheme != "sqlite" then
        .error .noDriver
      else
        let symbols := name.toList
        let symbols := dropRepeated "sqlite://".toList symbols.length symbols
        let symbols := dropRepeated "sqlite:".toList symbols.length symbols
        match Utf8.decode (Percent.decode (symbols.takeWhile (· != '?'))) with
        | none => .error .notText
        | some path =>
            let parameters :=
              Percent.formPairs (String.ofList ((symbols.dropWhile (· != '?')).drop 1))
            checkParameters parameters
            return ⟨path, parameters⟩

/-- Opens what is at a location. A file may be created beside the program. -/
def openAt (location : Location) : Except Refusal Access :=
  let path := location.path
  let readOnly := location.has "mode" "ro"
  let fileSystem := (location.last? "vfs").getD "unix"
  if path.contains '\x00' then
    .error .notText
  else if !fileSystems.contains fileSystem then
    .error (.unknownFileSystem fileSystem)
  else if location.isTransient then
    .ok (if readOnly then .readOnly else .readWrite)
  else if location.has "mode" "rwc" && !readOnly && !path.contains '/' && path != ['.'] &&
      path != ['.', '.'] then
    .ok (if ["true", "1"].contains ((location.last? "immutable").getD "false") then .readOnly
      else .readWrite)
  else
    .error .notOpened

def optionalText : Option Nat -> String
  | some value => "Some(" ++ Decimal.natural value ++ ")"
  | none => "None"

def refusalStart : String := "Connection Error: "

/-- The seconds at which a clock that has run for at least a second is beyond its range. -/
def clockLimit : Nat := Nat.pow 2 63 - 1

/-- The nanoseconds it takes at least to ask for a connection. -/
def askingTime : Nat := 10000

/-- Whether connections can be waited for. That there can be no connection, or that the end of
the timeout is beyond the range of the clock, is a crash. -/
def awaitConnection (settings : PoolSettings) (timeout : Option Duration) : Outcome Refusal Unit :=
  if settings.greatestCount = some 0 then
    .crashed
  else
    match timeout with
    | none => .done ()
    | some timeout =>
        if clockLimit ≤ timeout.seconds then .crashed
        else if timeout.seconds = 0 ∧ timeout.nanoseconds < askingTime then .failed .timedOut
        else .done ()

def connect (name : String) (settings : PoolSettings) : Attempt StoreError Access := do
  let timeout ← Attempt.ofOutcome settings.timeout
  Attempt.report .info "connecting to database"
    [("backend", backend name), ("max_conns", optionalText settings.greatestCount)]
  let opened : Outcome Refusal Access := do
    let location ← .ofExcept (locate name)
    awaitConnection settings timeout
    .ofExcept (openAt location)
  (Attempt.ofOutcome opened).convertError fun refusal =>
    Traced.quiet (.database (refusalStart ++ refusal.message name))

end Connection
end GatedResources
