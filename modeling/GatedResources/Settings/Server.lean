import GatedResources.Identity.Settings
import GatedResources.Store.Connection

/-!
# Settings of the server
-/

namespace GatedResources

structure ListenSettings where
  bindAddress : String
  graphPath : String
deriving DecidableEq, Repr

namespace ListenSettings

def shape : Shape ListenSettings where
  label := "ServerConfig"
  closed := true
  initial := ⟨"127.0.0.1:8087", "/graphql"⟩
  members := [
    Member.of "bind_addr" .defaulted Decoder.text
      fun bindAddress settings => { settings with bindAddress },
    Member.of "graph_path" .defaulted Decoder.text
      fun graphPath settings => { settings with graphPath }]

def toJson (settings : ListenSettings) : Json :=
  .object [
    ("bind_addr", .string settings.bindAddress), ("graph_path", .string settings.graphPath)]

end ListenSettings

structure DatabaseSettings where
  name : String
  pool : PoolSettings
deriving DecidableEq, Repr

namespace DatabaseSettings

def shape : Shape DatabaseSettings where
  label := "DatabaseConfig"
  closed := true
  initial := ⟨"sqlite::memory:", PoolSettings.initial⟩
  members := [
    Member.of "dsn" .defaulted Decoder.text fun name settings => { settings with name },
    Member.of "pool" .defaulted PoolSettings.shape.decode
      fun pool settings => { settings with pool }]

def toJson (settings : DatabaseSettings) : Json :=
  .object [("dsn", .string settings.name), ("pool", settings.pool.toJson)]

end DatabaseSettings

inductive ReportFormat where
  | text
  | json
deriving DecidableEq, Repr

namespace ReportFormat

def name : ReportFormat -> String
  | .text => "text"
  | .json => "json"

def decoder : Decoder ReportFormat :=
  Decoder.choice "LogFormat" [("text", .text), ("json", .json)]

end ReportFormat

structure ReportSettings where
  level : String
  format : ReportFormat
deriving DecidableEq, Repr

namespace ReportSettings

def shape : Shape ReportSettings where
  label := "LoggingConfig"
  closed := true
  initial := ⟨"info", .text⟩
  members := [
    Member.of "level" .defaulted Decoder.text fun level settings => { settings with level },
    Member.of "format" .defaulted ReportFormat.decoder
      fun format settings => { settings with format }]

def toJson (settings : ReportSettings) : Json :=
  .object [("level", .string settings.level), ("format", .string settings.format.name)]

end ReportSettings

structure ServerSettings where
  listen : ListenSettings
  database : DatabaseSettings
  reports : ReportSettings
  identity : IdentitySettings
deriving DecidableEq, Repr

namespace ServerSettings

def initial : ServerSettings :=
  ⟨ListenSettings.shape.initial, DatabaseSettings.shape.initial, ReportSettings.shape.initial,
    IdentitySettings.initial⟩

def shape : Shape ServerSettings where
  label := "AppConfig"
  closed := true
  initial := initial
  members := [
    Member.of "server" .defaulted ListenSettings.shape.decode
      fun listen settings => { settings with listen },
    Member.of "database" .defaulted DatabaseSettings.shape.decode
      fun database settings => { settings with database },
    Member.of "logging" .defaulted ReportSettings.shape.decode
      fun reports settings => { settings with reports },
    Member.of "auth" .defaulted IdentitySettings.shape.decode
      fun identity settings => { settings with identity }]

/-- The settings without the signing secret, in declaration order. -/
def toJson (settings : ServerSettings) : Json :=
  .object [
    ("server", settings.listen.toJson),
    ("database", settings.database.toJson),
    ("logging", settings.reports.toJson),
    ("auth", settings.identity.toJson)]

end ServerSettings
end GatedResources
