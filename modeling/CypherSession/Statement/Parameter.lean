import CypherSession.Error

/-!
# Parameters

The values that can be bound to the parameters of a statement, and the JSON values by which they
are sent. Octets are sent as a list of integers. Only finite numbers can be sent.
-/

namespace CypherSession

inductive Parameter where
  | null
  | bool (value : Bool)
  | integer (value : Int64)
  | float (value : Binary64)
  | string (value : String)
  | binary (octets : List UInt8)
  | list (items : List Parameter)
  /-- The entries are in strictly increasing order of their names. -/
  | map (entries : List (String × Parameter))
  deriving Inhabited

def SessionError.nonFinite (value : Binary64) : SessionError :=
  .invalidState ("cannot bind non-finite float " ++ value.nonFiniteText ++
    ": NaN and Infinity are not supported")

namespace Parameter

mutual

/-- The JSON value of a parameter, unless a number in it is not finite. -/
def toValue : Parameter → Except SessionError Json.Value
  | .null => .ok .null
  | .bool value => .ok (.bool value)
  | .integer value => .ok (.number (.integer value.toInt))
  | .float value =>
    if value.isFinite then .ok (.number (.float value)) else .error (.nonFinite value)
  | .string value => .ok (.string value)
  | .binary octets => .ok (.array (octets.map fun octet => .number (.integer octet.toNat)))
  | .list items => (itemsToValues items).map .array
  | .map entries => (entriesToValues entries).map .object

def itemsToValues : List Parameter → Except SessionError (List Json.Value)
  | [] => .ok []
  | item :: rest => do
    let value ← toValue item
    let values ← itemsToValues rest
    return value :: values

def entriesToValues :
    List (String × Parameter) → Except SessionError (List (String × Json.Value))
  | [] => .ok []
  | (name, item) :: rest => do
    let value ← toValue item
    let values ← entriesToValues rest
    return (name, value) :: values

end

end Parameter

end CypherSession
