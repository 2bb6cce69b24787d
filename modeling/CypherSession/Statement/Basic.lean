import CypherSession.Statement.Descriptor

/-!
# Statements

A statement under preparation: a text with numbered placeholders, the parameters bound so far, and
a batch of descriptors that wait to be sent together.
-/

namespace CypherSession

structure Batch where
  pending : List Descriptor := []

namespace Batch

def push (batch : Batch) (descriptor : Descriptor) : Batch :=
  ⟨batch.pending ++ [descriptor]⟩

def size (batch : Batch) : Nat := batch.pending.length

end Batch

structure Statement where
  text : String
  placeholders : Nat
  parameters : Dictionary Parameter := .empty
  includeStats : Bool := true
  batch : Batch := {}

def SessionError.noPlaceholder (index placeholders : Nat) : SessionError :=
  .invalidState ("parameter index " ++ toString index ++ " out of range: statement has " ++
    toString placeholders ++ " placeholders")

namespace Statement

def ofText (text : String) : Statement :=
  let (text, placeholders) := Placeholder.number text
  { text, placeholders }

def bind (statement : Statement) (index : Nat) (value : Parameter) :
    Except SessionError Statement :=
  if index < statement.placeholders then
    .ok { statement with
      parameters := statement.parameters.insert (Descriptor.positionName index) value }
  else .error (.noPlaceholder index statement.placeholders)

def bindNamed (statement : Statement) (name : String) (value : Parameter) : Statement :=
  let name := match name.toList with
    | '$' :: rest => String.ofList rest
    | _ => name
  { statement with parameters := statement.parameters.insert name value }

/-- Binds placeholders in order, starting with an index, up to the first value that has none; the
values before that one stay bound. -/
def bindFrom (statement : Statement) (index : Nat) :
    List Parameter → Statement × Except SessionError Unit
  | [] => (statement, .ok ())
  | value :: rest =>
    match statement.bind index value with
    | .ok statement => statement.bindFrom (index + 1) rest
    | .error error => (statement, .error error)

def bindAll (statement : Statement) (values : List Parameter) :
    Statement × Except SessionError Unit :=
  statement.bindFrom 0 values

def clearParameters (statement : Statement) : Statement :=
  { statement with parameters := .empty }

def descriptor (statement : Statement) : Descriptor where
  text := statement.text
  parameters := statement.parameters
  wantStats := statement.includeStats

def addToBatch (statement : Statement) (descriptor : Descriptor) : Statement :=
  { statement with batch := statement.batch.push descriptor }

def addBatch (statement : Statement) : Statement := statement.addToBatch statement.descriptor

def clearBatch (statement : Statement) : Statement := { statement with batch := {} }

end Statement

end CypherSession
