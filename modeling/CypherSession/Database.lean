import CypherSession.Settings.Url
import CypherSession.Settings.Written

/-!
# Databases

Settings together with the connection string that describes them without the password.
-/

namespace CypherSession

structure Database where
  settings : Settings
  deriving DecidableEq

namespace Database

def connectionString (database : Database) : String :=
  let settings := database.settings
  let user := (settings.username?.map (· ++ "@")).getD ""
  "neo4j:" ++ Endpoint.scheme settings.useTls ++ "://" ++ user ++ settings.host ++ ":" ++
    toString settings.port

def ofUrl (url : String) : Except ConnectionError Database := do return ⟨← Settings.ofUrl url⟩

/-- The text with the names of the fields, with the attributes in the order given. -/
def debugText (database : Database)
    (attributes : List (String × String) := database.settings.attributes.entries) : String :=
  Text.record "Database" [
    ("params", database.settings.debugText attributes),
    ("connection_string", Text.quote database.connectionString)]

def text (database : Database) : String := "Database(" ++ database.connectionString ++ ")"

end Database

end CypherSession
