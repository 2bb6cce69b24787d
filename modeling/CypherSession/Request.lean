import CypherSession.Statement.Descriptor

/-!
# Requests

The body of a request: the statements that the server is to run, in order. Each of them asks for
its results as rows.
-/

namespace CypherSession

structure RequestStatement where
  text : String
  parameters : List (String × Json.Value)
  includeStats : Bool

structure Request where
  statements : List RequestStatement := []

namespace Request

def empty : Request := {}

def size (request : Request) : Nat := request.statements.length

def isEmpty (request : Request) : Bool := request.statements.isEmpty

def encodeDescriptor (descriptor : Descriptor) : Except SessionError RequestStatement := do
  let parameters ← Parameter.entriesToValues descriptor.parameters.entries
  return ⟨descriptor.text, parameters, descriptor.wantStats⟩

/-- The request for descriptors, in order; nothing is sent if a parameter of one cannot be. -/
def ofDescriptors (descriptors : List Descriptor) : Except SessionError Request := do
  return ⟨← descriptors.mapM encodeDescriptor⟩

def statementValue (statement : RequestStatement) : Json.Value :=
  .object [
    ("includeStats", .bool statement.includeStats),
    ("parameters", .object statement.parameters),
    ("resultDataContents", .array [.string "row"]),
    ("statement", .string statement.text)]

def toValue (request : Request) : Json.Value :=
  .object [("statements", .array (request.statements.map statementValue))]

end Request

end CypherSession
