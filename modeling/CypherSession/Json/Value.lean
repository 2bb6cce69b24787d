import CypherSession.Dictionary
import CypherSession.Json.Document

/-!
# JSON values

Values as a program uses them: numbers by value, objects as dictionaries in which the last member
with a name counts. A document has a value if all its numbers are in range, none of its strings
holds half a character, and its containers are not nested too deeply.
-/

namespace CypherSession.Json

inductive Value where
  | null
  | bool (value : Bool)
  | number (value : Number)
  | string (value : String)
  | array (items : List Value)
  /-- The entries are in strictly increasing order of their names. -/
  | object (entries : List (String × Value))
  deriving Inhabited

namespace Value

mutual

def ofDocument? (depth : Nat) : Document → Option Value
  | .null => some .null
  | .bool value => some (.bool value)
  | .number numeral => numeral.number?.map .number
  | .string value? => value?.map .string
  | .array items =>
    match depth with
    | 0 => none
    | depth + 1 => (ofDocuments? depth items).map .array
  | .object members =>
    match depth with
    | 0 => none
    | depth + 1 => (ofMembers? depth members []).map .object

def ofDocuments? (depth : Nat) : List Document → Option (List Value)
  | [] => some []
  | item :: rest => do
    let value ← ofDocument? depth item
    let values ← ofDocuments? depth rest
    return value :: values

def ofMembers? (depth : Nat) :
    List (Option String × Document) → List (String × Value) → Option (List (String × Value))
  | [], entries => some entries
  | (name?, member) :: rest, entries => do
    let name ← name?
    let value ← ofDocument? depth member
    ofMembers? depth rest (insertEntry name value entries)

end

end Value

def maxDepth : Nat := 127

def Value.ofText? (text : String) : Option Value := do
  Value.ofDocument? maxDepth (← Document.ofText? text)

end CypherSession.Json
