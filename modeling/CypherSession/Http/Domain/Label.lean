import CypherSession.Http.Domain.Mapping
import CypherSession.Text.Cut
import CypherSession.Text.Direction
import CypherSession.Text.Joining
import CypherSession.Text.Punycode

/-!
# Labels of domain names

The parts of a domain name between its dots. A label with characters beyond ASCII is written in
Punycode after a mark; such a label, read or written, has to be in the common spelling, must not
begin with a combining mark, and may hold joiners only where a script needs them. In a name with
characters that are written from right to left, each label runs in one direction.
-/

namespace CypherSession.Http.Domain

open Text (Direction combiningClass)

def punycodeMark : List Char := "xn--".toList

def isAscii (label : List Char) : Bool := label.all fun c => c.toNat < 0x80

/-- The longest text that is written in Punycode. The time to write or read Punycode grows with the
square of the length. -/
def maxWritten : Nat := 1000

def maxRead : Nat := 2000

/-- The characters that a label in the common spelling stands for. What Punycode hides has to be in
the common spelling as well, and must not look like Punycode. -/
def meaning? (label : List Char) : Option (List Char) :=
  if punycodeMark.isPrefixOf label then do
    let written := label.drop punycodeMark.length
    guard (written.length ≤ maxRead)
    let hidden ← Text.Punycode.decode? written
    guard (!isAscii hidden ∧ spelled? hidden = some hidden ∧ !punycodeMark.isPrefixOf hidden)
    return hidden
  else if isAscii label ∨ label.length ≤ maxWritten then some label
  else none

/-! ## Joiners -/

def zeroWidthNonJoiner : Char := '\u200C'
def zeroWidthJoiner : Char := '\u200D'

def nearest (text : List Char) (p : Char → Bool) : Bool :=
  (text.find? fun c => !Text.isTransparent c).any p

/-- Whether a character may stand after `before`, given from its end, and before `after`: a joiner
follows a mark that suppresses a vowel, or it parts two letters that would be joined. -/
def fits (before : List Char) (c : Char) (after : List Char) : Bool :=
  if c ≠ zeroWidthNonJoiner ∧ c ≠ zeroWidthJoiner then true
  else before.head?.any (combiningClass · = Text.viramaClass) ||
    c = zeroWidthNonJoiner && nearest before Text.joinsNext && nearest after Text.joinsPrevious

def joinersFit (before : List Char) : List Char → Bool
  | [] => true
  | c :: rest => fits before c rest && joinersFit (c :: before) rest

/-! ## Direction -/

/-- The directions in a label up to the last one that is not that of a mark. -/
def directions (label : List Char) : List Direction :=
  ((label.map Direction.ofChar).reverse.dropWhile (· = .nonspacingMark)).reverse

def runsFromLeft (label : List Char) : Bool :=
  (directions label).head? = some .leftToRight && !(directions label).any (·.isFromRight) &&
    ((directions label).getLast?.any fun last => last = .leftToRight || last = .europeanNumber)

def runsFromRight (label : List Char) : Bool :=
  let isLetter (direction : Direction) : Bool :=
    direction = .rightToLeft || direction = .arabicLetter
  let isNumber (direction : Direction) : Bool :=
    direction = .europeanNumber || direction = .arabicNumber
  (directions label).head?.any isLetter && !(directions label).contains .leftToRight &&
    ((directions label).getLast?.any fun last => isLetter last || isNumber last) &&
    !((directions label).contains .europeanNumber && (directions label).contains .arabicNumber)

def runsOneWay (label : List Char) : Bool :=
  label = [] || runsFromLeft label || runsFromRight label

/-! ## Names -/

def isSound (label : List Char) : Bool :=
  !label.head?.any Text.isMark && joinersFit [] label

def asciiForm (label : List Char) : List Char :=
  if isAscii label then label else punycodeMark ++ Text.Punycode.encode label

def isForbidden (c : Char) : Bool :=
  c.toNat ≤ 0x20 || c = '\x7f' || c ∈ "#/:<>?@[\\]^|%".toList

def ofText? (text : List Char) : Option (List Char) := do
  let labels := (← spelled? text).splitOnP (· = '.')
  guard (labels.all fun label => !label.any isForbidden)
  let meanings ← labels.mapM meaning?
  guard (meanings.all isSound)
  let isMixed := meanings.any fun label => label.any fun c => (Direction.ofChar c).isFromRight
  guard (!isMixed || meanings.all runsOneWay)
  let name := ['.'].intercalate (labels.map asciiForm)
  guard (name ≠ [])
  return name

end CypherSession.Http.Domain
