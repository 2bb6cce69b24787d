import CypherSession.Text.Decimal

/-!
# Placeholders

The question marks of a query that stand for parameters, and queries in which they are numbered.
A question mark in a quoted span is no placeholder. A span lies between two equal quotes, or between
a quote and the end of the text; in a span between single or double quotes a backslash takes the
meaning from the character after it, between backquotes it is an ordinary character.
-/

namespace CypherSession.Placeholder

/-- Where a character stands with respect to the quoted spans before it. -/
inductive Span where
  | outside
  | quoted (mark : Char)
  /-- After a backslash in a quoted span. -/
  | escaped (mark : Char)
  deriving DecidableEq, Repr

def backquote : Char := '\x60'

def isQuote (c : Char) : Bool := c = '\'' || c = '"' || c = backquote

def Span.next (span : Span) (c : Char) : Span :=
  match span with
  | .outside => if isQuote c then .quoted c else .outside
  | .quoted mark =>
    if c = '\\' ∧ mark ≠ backquote then .escaped mark
    else if c = mark then .outside
    else .quoted mark
  | .escaped mark => .quoted mark

def Span.isPlaceholder (span : Span) (c : Char) : Bool := span = .outside && c = '?'

/-- The text with its placeholders numbered, the first one `count + 1`, and the last number. -/
def numberFrom (span : Span) (count : Nat) : List Char → List Char × Nat
  | [] => ([], count)
  | c :: rest =>
    if span.isPlaceholder c then
      let (text, total) := numberFrom .outside (count + 1) rest
      ('$' :: Text.digits (count + 1) ++ text, total)
    else
      let (text, total) := numberFrom (span.next c) count rest
      (c :: text, total)

/-- The text with a dollar sign and its number in the place of each placeholder, and how many
placeholders there are. -/
def number (text : String) : String × Nat :=
  let (numbered, count) := numberFrom .outside 0 text.toList
  (String.ofList numbered, count)

end CypherSession.Placeholder
