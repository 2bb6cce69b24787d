import CypherSession.Text.Canonical.Pairs
import CypherSession.Text.CombiningClass

/-!
# Composed form

Canonically equivalent texts have one composed form: characters are taken apart, the marks on each
are put in the order of their classes, and as many marks as possible are joined to what they stand
on. Syllables of Hangul are taken apart and put together by arithmetic.
-/

namespace CypherSession.Text.Canonical

/-! ## Hangul -/

def leadingBase : Nat := 0x1100
def vowelBase : Nat := 0x1161
def trailingBase : Nat := 0x11A7
def syllableBase : Nat := 0xAC00
def leadingCount : Nat := 19
def vowelCount : Nat := 21

def trailingCount : Nat := 28

def syllableCount : Nat := leadingCount * vowelCount * trailingCount

/-- The parts of a syllable: with a trailing consonant the syllable without it and the consonant,
otherwise the leading consonant and the vowel. -/
def syllableParts? (n : Nat) : Option (Nat × Nat) :=
  if n < syllableBase ∨ syllableBase + syllableCount ≤ n then none
  else
    let index := n - syllableBase
    let trailing := index % trailingCount
    if trailing = 0 then
      some (leadingBase + index / (vowelCount * trailingCount),
        vowelBase + index / trailingCount % vowelCount)
    else some (n - trailing, trailingBase + trailing)

def syllable? (first second : Nat) : Option Nat :=
  if leadingBase ≤ first ∧ first < leadingBase + leadingCount ∧
      vowelBase ≤ second ∧ second < vowelBase + vowelCount then
    some (syllableBase +
      ((first - leadingBase) * vowelCount + (second - vowelBase)) * trailingCount)
  else if syllableBase ≤ first ∧ first < syllableBase + syllableCount ∧
      (first - syllableBase) % trailingCount = 0 ∧
      trailingBase < second ∧ second < trailingBase + trailingCount then
    some (first + (second - trailingBase))
  else none

/-! ## Parts and wholes -/

def parts? (c : Char) : Option (Char × Char) :=
  let listed? := (pairs.find? fun (_, _, whole) => whole = c.toNat).map
    fun (first, second, _) => (first, second)
  (listed?.or (syllableParts? c.toNat)).map fun (first, second) =>
    (Char.ofNat first, Char.ofNat second)

def whole? (first second : Char) : Option Char :=
  let listed? := (pairs.find? fun (a, b, _) => a = first.toNat && b = second.toNat).map
    fun (_, _, whole) => whole
  (listed?.or (syllable? first.toNat second.toNat)).map Char.ofNat

def maxDepth : Nat := 3

def takeApart : Nat → Char → List Char
  | 0, c => [c]
  | depth + 1, c =>
    match parts? c with
    | some (first, second) => takeApart depth first ++ [second]
    | none => [c]

/-- Puts a character before a text, behind the marks at its head that belong closer to what they
stand on. -/
def place (c : Char) : List Char → List Char
  | [] => [c]
  | d :: rest =>
    if 0 < combiningClass d ∧ combiningClass d < combiningClass c then d :: place c rest
    else c :: d :: rest

/-- The text after a character, on which the marks `pending` stay, with the character joined to what
can be joined to it. A mark is kept off the character by another one of its class. -/
def joinFrom (base : Char) (pending : List Char) : List Char → List Char
  | [] => base :: pending
  | c :: rest =>
    let isFree := match pending.getLast? with
      | none => true
      | some mark => combiningClass mark < combiningClass c
    match (if isFree then whole? base c else none) with
    | some whole => joinFrom whole pending rest
    | none =>
      if combiningClass c = 0 then base :: pending ++ joinFrom c [] rest
      else joinFrom base (pending ++ [c]) rest

def form (text : List Char) : List Char :=
  match (text.flatMap (takeApart maxDepth)).foldr place [] with
  | [] => []
  | c :: rest => joinFrom c [] rest

end CypherSession.Text.Canonical
