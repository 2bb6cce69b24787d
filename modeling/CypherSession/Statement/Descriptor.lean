import CypherSession.Statement.Parameter
import CypherSession.Statement.Placeholder

/-!
# Statement descriptors

What is sent for one statement: its text, its parameters by name, and whether the server is to
count what the statement changes.
-/

namespace CypherSession

structure Descriptor where
  text : String
  parameters : Dictionary Parameter := .empty
  wantStats : Bool := false

namespace Descriptor

def positionName (index : Nat) : String := toString (index + 1)

def positionedFrom (index : Nat) : List Parameter → List (String × Parameter)
  | [] => []
  | value :: rest => (positionName index, value) :: positionedFrom (index + 1) rest

def positional (text : String) (values : List Parameter) (wantStats : Bool) : Descriptor where
  text := (Placeholder.number text).1
  parameters := .ofList (positionedFrom 0 values)
  wantStats := wantStats

end Descriptor

end CypherSession
