import CypherSession.Database
import CypherSession.Text.Cut

/-!
# Drivers and their registry

A driver opens databases by their connection URLs. A registry keeps drivers under their names, in
the order in which the names came, and finds the first one that takes a URL.
-/

namespace CypherSession

structure Driver where
  name : String
  version : String
  vendor : String
  description : String
  deriving DecidableEq

namespace Driver

def http : Driver where
  name := "neo4j-http-tx"
  version := "0.1.0"
  vendor := "neo4j-http-tx contributors"
  description := "Transactional Cypher over the Neo4j HTTP endpoint"

def accepts (_ : Driver) (url : String) : Bool := Locator.isSupported url

def openDatabase (_ : Driver) (url : String) : Except ConnectionError Database :=
  Database.ofUrl url

def validates (driver : Driver) (url : String) : Bool := (driver.openDatabase url).isOk

def text (driver : Driver) : String :=
  driver.name ++ " v" ++ driver.version ++ " (" ++ driver.vendor ++ ")"

end Driver

structure Registry where
  drivers : List Driver := []
  deriving DecidableEq

namespace Registry

/-- Puts a driver in the place of the one with its name, or at the end. -/
def register (registry : Registry) (driver : Driver) : Registry :=
  if registry.drivers.any (·.name = driver.name) then
    ⟨registry.drivers.map fun other => if other.name = driver.name then driver else other⟩
  else ⟨registry.drivers ++ [driver]⟩

def withHttp : Registry := register {} .http

def deregister (registry : Registry) (name : String) : Option Driver × Registry :=
  (registry.drivers.find? (·.name = name), ⟨registry.drivers.eraseP (·.name = name)⟩)

def cutScheme : List Char → Option (List Char × List Char)
  | [] => none
  | c :: rest =>
    if "://".toList.isPrefixOf (c :: rest) then some ([], rest.drop 2)
    else (cutScheme rest).map fun (before, after) => (c :: before, after)

def redact (url : String) : String :=
  match cutScheme url.toList with
  | none => url
  | some (scheme, rest) =>
    match Text.cutLast '@' rest with
    | none => url
    | some (_, host) =>
      String.ofList scheme ++ "://" ++ redacted ++ "@" ++ String.ofList host

def driverFor (registry : Registry) (url : String) : Except ConnectionError Driver :=
  match registry.drivers.find? (·.accepts url) with
  | some driver => .ok driver
  | none => .error (.noSuitableDriver (redact url))

def openDatabase (registry : Registry) (url : String) : Except ConnectionError Database := do
  (← registry.driverFor url).openDatabase url

end Registry

end CypherSession
