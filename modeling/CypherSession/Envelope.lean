import CypherSession.Json.Value

/-!
# Result envelopes

What one statement came to: its columns and rows, the counters of what it changed, and the error
that the server reports for it.
-/

namespace CypherSession

structure Stats where
  containsUpdates : Bool := false
  nodesCreated : Int64 := 0
  nodesDeleted : Int64 := 0
  relationshipsCreated : Int64 := 0
  relationshipsDeleted : Int64 := 0
  propertiesSet : Int64 := 0
  labelsAdded : Int64 := 0
  labelsRemoved : Int64 := 0
  indexesAdded : Int64 := 0
  indexesRemoved : Int64 := 0
  constraintsAdded : Int64 := 0
  constraintsRemoved : Int64 := 0
  deriving DecidableEq

namespace Stats

/-- The nodes and relationships created and deleted; the sum wraps. -/
def updateCount (stats : Stats) : Int64 :=
  stats.nodesCreated + stats.nodesDeleted + stats.relationshipsCreated +
    stats.relationshipsDeleted

/-- The counter with a name; the relationships deleted have two names. -/
def get? (stats : Stats) (name : String) : Option Int64 :=
  match name with
  | "nodes_created" => some stats.nodesCreated
  | "nodes_deleted" => some stats.nodesDeleted
  | "relationships_created" => some stats.relationshipsCreated
  | "relationship_deleted" | "relationships_deleted" => some stats.relationshipsDeleted
  | "properties_set" => some stats.propertiesSet
  | "labels_added" => some stats.labelsAdded
  | "labels_removed" => some stats.labelsRemoved
  | "indexes_added" => some stats.indexesAdded
  | "indexes_removed" => some stats.indexesRemoved
  | "constraints_added" => some stats.constraintsAdded
  | "constraints_removed" => some stats.constraintsRemoved
  | _ => none

end Stats

structure ServerError where
  code : String
  message : String
  deriving DecidableEq

namespace ServerError

def transactionNotFoundCode : String := "Neo.ClientError.Transaction.TransactionNotFound"

def unknownIdCode : String := "Neo.ClientError.Transaction.UnknownId"

def isTransactionNotFound (error : ServerError) : Bool :=
  error.code = transactionNotFoundCode || error.code = unknownIdCode

end ServerError

structure Envelope where
  columns : List String := []
  rows : List (List Json.Value) := []
  stats? : Option Stats := none
  error? : Option ServerError := none

namespace Envelope

def failed (error : ServerError) : Envelope := { error? := some error }

def hasResultSet (envelope : Envelope) : Bool := !envelope.columns.isEmpty

/-- The number of updates, or -1 for a statement that returns rows. -/
def updateCount (envelope : Envelope) : Int64 :=
  if envelope.hasResultSet then -1
  else (envelope.stats?.map Stats.updateCount).getD 0

def columnIndex? (envelope : Envelope) (name : String) : Option Nat :=
  envelope.columns.findIdx? (· = name)

def value? (envelope : Envelope) (row : Nat) (name : String) : Option Json.Value := do
  let column ← envelope.columnIndex? name
  let cells ← envelope.rows[row]?
  cells[column]?

def limitRows (maxRows : Nat) (envelope : Envelope) : Envelope :=
  if maxRows = 0 then envelope else { envelope with rows := envelope.rows.take maxRows }

end Envelope

def updateCounts (envelopes : List Envelope) : List Int64 := envelopes.map Envelope.updateCount

end CypherSession
