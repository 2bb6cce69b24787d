import CypherSession.Statement.Descriptor
import CypherSession.Text.Word

/-!
# Read-only guard

A query counts as mutating if one of its words is `create`, `relate`, `delete` or `set`, whatever
the case of its letters. A word is a run of word characters that is not part of a longer one, so
that `deletedAt` does not count. The long s, U+017F, has the same case fold as `s`; of the other
letters in these words, only those of ASCII have their folds.
-/

namespace CypherSession.Guard

def mutatingWords : List (List Char) :=
  ["create".toList, "relate".toList, "delete".toList, "set".toList]

def fold (c : Char) : Char := if c = 'ſ' then 's' else c.toLower

def isMutatingWord (word : List Char) : Bool := word.map fold ∈ mutatingWords

/-- The longest runs of word characters; between neighbours that are none, the run is empty. -/
def words (text : List Char) : List (List Char) := text.splitOnP fun c => !Text.isWord c

def isMutating (text : String) : Bool := (words text.toList).any isMutatingWord

def check (descriptors : List Descriptor) : Except SessionError Unit :=
  match descriptors.find? fun descriptor => isMutating descriptor.text with
  | some descriptor => .error (.readOnly descriptor.text)
  | none => .ok ()

end CypherSession.Guard
