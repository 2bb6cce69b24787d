import CypherSession.Http.Domain.Excluded
import CypherSession.Http.Domain.Letters
import CypherSession.Http.Domain.Spellings
import CypherSession.Text.Canonical.Form

/-!
# The common spelling of domain names

Names that differ in case, in compatibility forms or in characters that cannot be seen are one name.
The rules are those of UTS #46, where the sharp s, the final sigma and the joiners stand for
themselves.
-/

namespace CypherSession.Http.Domain

/-- What a character is in the common spelling, unless no name holds it. -/
def spell? (c : Char) : Option (List Char) :=
  match letter? c.toNat with
  | some n => some [Char.ofNat n]
  | none =>
    match spelling? c.toNat with
    | some spelling => some (spelling.map Char.ofNat)
    | none => if isExcluded c then none else if isIgnored c then some [] else some [c]

def spelled? (text : List Char) : Option (List Char) := do
  return Text.Canonical.form (← text.mapM spell?).flatten

end CypherSession.Http.Domain
