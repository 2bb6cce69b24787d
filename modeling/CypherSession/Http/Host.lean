import CypherSession.Http.Domain.Label
import CypherSession.Text.Percent

/-!
# Hosts of URLs

The host of an `http` URL is an IPv6 address in brackets, an IPv4 address, or a name. Reading gives
the one form in which each is written: domain names in ASCII; IPv4 addresses with four decimal
parts; IPv6 addresses with the longest run of zero groups left out.
A name whose last label is a number is an IPv4 address or nothing.
-/

namespace CypherSession.Http.Host

open Text (cutFirst)

/-! ## IPv4 -/

def digitValue? (base : Nat) (c : Char) : Option Nat := do
  let value ← Text.Percent.hexValue? c
  if value.toNat < base then some value.toNat else none

def numberIn? (base : Nat) (text : List Char) : Option Nat := do
  return (← text.mapM (digitValue? base)).foldl (fun value digit => value * base + digit) 0

/-- A part of an IPv4 address: hexadecimal after `0x`, octal after `0`, decimal otherwise. -/
def part? (text : List Char) : Option Nat :=
  match text with
  | [] => none
  | '0' :: 'x' :: rest | '0' :: 'X' :: rest => numberIn? 16 rest
  | ['0'] => some 0
  | '0' :: rest => numberIn? 8 rest
  | _ => numberIn? 10 text

/-- The labels of a name; a dot at the end does not begin another one. -/
def labels (text : List Char) : List (List Char) :=
  let labels := text.splitOnP (· = '.')
  if 1 < labels.length ∧ labels.getLast? = some [] then labels.dropLast else labels

def endsInNumber (text : List Char) : Bool :=
  match (labels text).getLast? with
  | none => false
  | some label =>
    label ≠ [] && (label.all Char.isDigit ||
      (match label with
        | '0' :: 'x' :: rest | '0' :: 'X' :: rest => (numberIn? 16 rest).isSome
        | _ => false))

/-- The address of parts, of which the last one fills all octets that are left. -/
def address4? (parts : List Nat) : Option Nat := do
  let last ← parts.getLast?
  let front := parts.dropLast
  guard (parts.length ≤ 4 ∧ front.all (· < 256) ∧ last < Nat.pow 256 (5 - parts.length))
  let weights := [0x1000000, 0x10000, 0x100]
  return (List.zipWith (· * ·) front weights).foldl (· + ·) last

def write4 (address : Nat) : List Char :=
  let octets := [0x1000000, 0x10000, 0x100, 1].map fun weight =>
    Nat.toDigits 10 (address / weight % 256)
  ['.'].intercalate octets

def ofIpv4? (text : List Char) : Option (List Char) := do
  let parts ← (labels text).mapM part?
  return write4 (← address4? parts)

/-! ## IPv6 -/

def group? (text : List Char) : Option Nat :=
  if text = [] ∨ 4 < text.length then none else numberIn? 16 text

def plainPart? (text : List Char) : Option Nat := do
  guard (text ≠ [] ∧ text.length ≤ 3 ∧ (text = ['0'] ∨ text.head? ≠ some '0'))
  let value ← numberIn? 10 text
  guard (value < 256)
  return value

/-- The groups that a text between colons writes; in the last place there may be an IPv4 address,
which makes two groups. -/
def groups? : List (List Char) → Option (List Nat)
  | [] => some []
  | [last] =>
    if '.' ∈ last then do
      let [a, b, c, d] ← (last.splitOnP (· = '.')).mapM plainPart? | none
      return [a * 256 + b, c * 256 + d]
    else (group? last).map ([·])
  | text :: rest => do
    let group ← group? text
    let groups ← groups? rest
    return group :: groups

def cutGap : List Char → Option (List Char × List Char)
  | ':' :: ':' :: rest => some ([], rest)
  | c :: rest => (cutGap rest).map fun (before, after) => (c :: before, after)
  | [] => none

def splitGroups? (text : List Char) : Option (List Nat) :=
  if text = [] then some [] else groups? (text.splitOnP (· = ':'))

/-- The eight groups of an address, in which two colons stand for at least one zero group. -/
def address6? (text : List Char) : Option (List Nat) := do
  match cutGap text with
  | none =>
    let groups ← splitGroups? text
    guard (groups.length = 8)
    return groups
  | some (before, after) =>
    guard ('.' ∉ before)
    let front ← splitGroups? before
    let back ← splitGroups? after
    guard (front.length + back.length < 8)
    return front ++ List.replicate (8 - front.length - back.length) 0 ++ back

def zeroRun (groups : List Nat) : Nat := (groups.takeWhile (· = 0)).length

def longestRun (groups : List Nat) : Nat :=
  (List.range groups.length).foldl
    (fun longest index => max longest (zeroRun (groups.drop index))) 0

def writeGroups (groups : List Nat) : List Char :=
  [':'].intercalate (groups.map (Nat.toDigits 16))

def write6 (groups : List Nat) : List Char :=
  let longest := longestRun groups
  if longest < 2 then writeGroups groups
  else
    let start := ((List.range groups.length).find? fun index =>
      zeroRun (groups.drop index) = longest).getD 0
    writeGroups (groups.take start) ++ [':', ':'] ++ writeGroups (groups.drop (start + longest))

/-! ## Names -/

/-- The form of a name or an IPv4 address, in which percent escapes stand for octets of UTF-8. -/
def ofName? (text : List Char) : Option (List Char) := do
  let name ← Domain.ofText? (Text.Utf8.decodeLenient (Text.Percent.octets text))
  if endsInNumber name then ofIpv4? name else some name

def ofText? (text : List Char) : Option (List Char) :=
  match text with
  | '[' :: rest => do
    let (address, after) ← cutFirst ']' rest
    guard (after = [])
    return '[' :: write6 (← address6? address) ++ [']']
  | _ => ofName? text

end CypherSession.Http.Host
