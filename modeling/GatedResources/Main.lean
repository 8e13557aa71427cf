import GatedResources.CommandLine
import Std.Async.System
import Std.Http.Server
import Std.Time

/-!
# The program

Reads the arguments, the environment and the settings file, and carries out what the command
line decides. A run that comes to serve answers requests until it is stopped.
-/

namespace GatedResources
namespace Program

/-- A server at work: its settings, and the database between two requests. -/
structure Service where
  settings : ServerSettings
  database : Std.Mutex Database

def currentTime : IO Nat := do
  return (← Std.Time.Timestamp.now).toSecondsSinceUnixEpoch.toInt.toNat

def statuses : List Std.Http.Status := [
  .ok, .created, .noContent, .badRequest, .unauthorized, .forbidden, .notFound,
  .methodNotAllowed, .unsupportedMediaType, .unprocessableEntity, .internalServerError]

def statusOf (code : Nat) : Std.Http.Status :=
  (statuses.find? fun status => status.toCode.toNat == code).getD .internalServerError

def bodyText : Body -> String
  | .empty => ""
  | .json value => value.compact
  | .text content => content

def requestOf (head : Std.Http.Request.Head) (body : String) : Request :=
  let target := (toString head.uri).toList
  let path := target.takeWhile (· != '?')
  let query := target.dropWhile (· != '?')
  { method := toString head.method
    path := String.ofList path
    query := if query.isEmpty then none else some (String.ofList (query.drop 1))
    headers := head.headers.toList.map fun (name, value) => (name.value, value.value)
    body }

def withHeader (name : String) (value : Option String) (builder : Std.Http.Response.Builder) :
    Std.Http.Response.Builder :=
  match value with
  | some value => builder.header! name value
  | none => builder

def write (response : Response) : Std.Async.Async (Std.Http.Response Std.Http.Body.Full) :=
  ((Std.Http.Response.new.status (statusOf response.status)
    |> withHeader "content-type" response.contentType)
    |> withHeader "allow" response.allow).fromBytes (bodyText response.body).toUTF8

def answer (service : Service) (request : Request) : IO Response := do
  let time ← currentTime
  service.database.atomically do
    match (Server.router service.settings time).outcome with
    | .done router =>
        match (router.handle request (← get)).outcome with
        | .done (response, next) =>
            set next
            return response
        | .crashed => return Response.bare 500
    | _ => return Response.bare 500

instance : Std.Http.Server.Handler Service where
  ResponseBody := Std.Http.Body.Full
  onRequest service request := do
    let bytes : ByteArray ← request.body.readAll
    match String.fromUTF8? bytes with
    | some body => write (← answer service (requestOf request.line body))
    | none => write (Response.bare 400)

def networkAddress (address : ListenAddress) : Option Std.Net.SocketAddress :=
  let number := address.socketNumber.toUInt16
  match address.host with
  | .numbers octets =>
      (Std.Net.IPv4Addr.ofString (".".intercalate (octets.map Decimal.natural))).map
        fun host => .v4 ⟨host, number⟩
  | .name "localhost" =>
      (Std.Net.IPv4Addr.ofString "127.0.0.1").map fun host => .v4 ⟨host, number⟩
  | .name name =>
      let bare := Trim.both (fun symbol => symbol == '[' || symbol == ']') name.toList
      (Std.Net.IPv6Addr.ofString (String.ofList bare)).map fun host => .v6 ⟨host, number⟩

def finish (exit : Exit) : IO UInt32 := do
  (← IO.getStdout).putStr exit.output
  (← IO.getStderr).putStr (exit.errors.getD CommandLine.usageText)
  return exit.code.toUInt32

def serve (bound : String) (address : Std.Net.SocketAddress) (service : Service) : IO UInt32 := do
  try
    let server ← (Std.Http.Server.serve address service).block
    server.waitShutdown.block
    return 0
  catch error =>
    finish ⟨1, "", some (CommandLine.errorText ⟨"bind " ++ bound, [toString error]⟩)⟩

def readFile (arguments : List String) : IO FileContent := do
  match Command.read arguments with
  | some (.run ⟨some name, _⟩) =>
      try
        return FileContent.ofText (← IO.FS.readFile name)
      catch _ =>
        return .missing
  | _ => return .missing

def run (arguments : List String) : IO UInt32 := do
  let entries ← Std.Internal.UV.System.osEnviron
  let content ← readFile arguments
  let surroundings : Surroundings := {
    environment := entries.toList
    file := fun _ => content
    hasHost := fun _ => true
    now := ← currentTime }
  match CommandLine.run surroundings arguments with
  | .exit exit => finish exit
  | .serve address settings database =>
      let bound := settings.listen.bindAddress
      match networkAddress address with
      | some network => serve bound network ⟨settings, ← Std.Mutex.new database⟩
      | none =>
          finish ⟨1, "", some (CommandLine.errorText
            ⟨"bind " ++ bound, [ListenAddress.Refusal.unknownHost.message]⟩)⟩

end Program
end GatedResources

def main (arguments : List String) : IO UInt32 :=
  GatedResources.Program.run arguments
