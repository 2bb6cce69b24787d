import CypherSession.Json.Record
import CypherSession.Envelope

/-!
# Responses

The body of a response: the results of the statements in order, the errors, the URL that commits
the transaction, and when the transaction will expire.
-/

namespace CypherSession

open Json (Document Value)
open Json.Document

structure Response where
  commit? : Option String := none
  results : List Envelope := []
  expires? : Option String := none
  errors : List ServerError := []

namespace Response

/-- How many containers may be inside each other in a cell. Around it stand the response, its
results, the result, its data, the entry and the row. -/
def maxCellDepth : Nat := Json.maxDepth - 6

def row? : Document → Option (List Value)
  | .object members => do
    let [row?] ← objectFields? [["row"]] members | none
    orDefault [] (list? (Value.ofDocument? maxCellDepth)) row?
  | _ => none

def statsMembers : List (List String) :=
  [["contains_updates"], ["nodes_created"], ["nodes_deleted"], ["relationships_created"],
    ["relationship_deleted", "relationships_deleted"], ["properties_set"], ["labels_added"],
    ["labels_removed"], ["indexes_added"], ["indexes_removed"], ["constraints_added"],
    ["constraints_removed"]]

def stats? (document : Document) : Option Stats := do
  let updates? :: counters ← fields? statsMembers document | none
  let containsUpdates ← orDefault false bool? updates?
  let [nodesCreated, nodesDeleted, relationshipsCreated, relationshipsDeleted, propertiesSet,
    labelsAdded, labelsRemoved, indexesAdded, indexesRemoved, constraintsAdded,
    constraintsRemoved] ← counters.mapM (orDefault 0 word?) | none
  return {
    containsUpdates, nodesCreated, nodesDeleted, relationshipsCreated, relationshipsDeleted
    propertiesSet, labelsAdded, labelsRemoved, indexesAdded, indexesRemoved, constraintsAdded
    constraintsRemoved }

def result? (document : Document) : Option Envelope := do
  let [columns?, data?, stats?] ← fields? [["columns"], ["data"], ["stats"]] document | none
  let columns ← orDefault [] (list? text?) columns?
  let rows? ← orDefault none (nullable? (list? row?)) data?
  let stats? ← orDefault none (nullable? Response.stats?) stats?
  return { columns, rows := rows?.getD [], stats? }

def error? (document : Document) : Option ServerError := do
  let [code?, message?] ← fields? [["code"], ["message"]] document | none
  let code ← text? (← code?)
  let message ← orDefault "" text? message?
  return ⟨code, message⟩

def transactionExpires? (document : Document) : Option (Option String) := do
  let [expires?] ← fields? [["expires"]] document | none
  orDefault none (nullable? text?) expires?

def ofDocument? (document : Document) : Option Response := do
  let [commit?, results?, transaction?, errors?] ←
    fields? [["commit"], ["results"], ["transaction"], ["errors"]] document | none
  let commit? ← orDefault none (nullable? text?) commit?
  let results ← orDefault [] (list? result?) results?
  let expires? ← orDefault none (nullable? transactionExpires?) transaction?
  let errors ← orDefault [] (list? error?) errors?
  return { commit?, results, expires? := expires?.join, errors }

def ofText? (text : String) : Option Response := do ofDocument? (← Document.ofText? text)

end Response

end CypherSession
