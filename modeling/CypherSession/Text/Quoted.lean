import CypherSession.Text.Shapeless

/-!
# Quoted texts

A text between double quotes, in which the quote, the backslash and some control characters are
written with a backslash and the other shapeless characters by their code point.
-/

namespace CypherSession.Text

def quoteChar (c : Char) : List Char :=
  match c with
  | '\x00' => ['\\', '0']
  | '\t' => ['\\', 't']
  | '\n' => ['\\', 'n']
  | '\r' => ['\\', 'r']
  | '"' => ['\\', '"']
  | '\\' => ['\\', '\\']
  | _ =>
    if isShapeless c then '\\' :: 'u' :: '\x7b' :: Nat.toDigits 16 c.toNat ++ ['\x7d']
    else [c]

def quote (text : String) : String :=
  String.ofList ('"' :: text.toList.flatMap quoteChar ++ ['"'])

def optional (value : Option String) : String :=
  match value with
  | none => "None"
  | some text => "Some(" ++ text ++ ")"

/-- A record's name, then its fields in braces. Two dots after them say that it has more. -/
def record (name : String) (fields : List (String × String)) (hasMore : Bool := false) : String :=
  let written := fields.map fun (field, value) => field ++ ": " ++ value
  let more := if hasMore then [".."] else []
  name ++ " \x7b " ++ ", ".intercalate (written ++ more) ++ " \x7d"

end CypherSession.Text
