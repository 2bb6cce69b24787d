import CypherSession.Json.Value

/-!
# Records

A record with known members, read from a document: an object, in which members of other names do
not count and each known member occurs at most once, or an array with the values of the first
members in their order.
-/

namespace CypherSession.Json.Document

def valuesNamed (names : List String) (members : List (Option String × Document)) :
    List Document :=
  members.filterMap fun (name?, value) => if name?.any (· ∈ names) then some value else none

def atMostOne? : List Document → Option (Option Document)
  | [] => some none
  | [value] => some (some value)
  | _ => none

/-- The values of the known members of an object, each of which may have several names. -/
def objectFields? (known : List (List String)) (members : List (Option String × Document)) :
    Option (List (Option Document)) :=
  if members.all (·.1.isSome) then
    known.mapM fun names => atMostOne? (valuesNamed names members)
  else none

def fields? (known : List (List String)) : Document → Option (List (Option Document))
  | .object members => objectFields? known members
  | .array items =>
    if items.length ≤ known.length then
      some (items.map some ++ List.replicate (known.length - items.length) none)
    else none
  | _ => none

/-! ## Members -/

def text? : Document → Option String
  | .string value? => value?
  | _ => none

def bool? : Document → Option Bool
  | .bool value => some value
  | _ => none

def word? : Document → Option Int64
  | .number numeral =>
    match numeral.number? with
    | some (.integer value) =>
      if Int64.minValue.toInt ≤ value ∧ value ≤ Int64.maxValue.toInt then
        some (Int64.ofInt value)
      else none
    | _ => none
  | _ => none

def list? {α : Type} (read : Document → Option α) : Document → Option (List α)
  | .array items => items.mapM read
  | _ => none

def nullable? {α : Type} (read : Document → Option α) : Document → Option (Option α)
  | .null => some none
  | document => (read document).map some

def orDefault {α : Type} (default : α) (read : Document → Option α) :
    Option Document → Option α
  | none => some default
  | some document => read document

end CypherSession.Json.Document
