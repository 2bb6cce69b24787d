import CypherSession.Json.Number

/-!
# JSON documents

A document as it is written: objects with their members in order, repeated names included, numbers
with their digits. A string is absent if one of its escapes is a surrogate without its other half;
readers that look at such a string refuse it, and those that skip it do not mind.

A text is cut into tokens by a character automaton, and the tokens are put together by a stack of
the containers that are open, so that documents of every depth can be read.
-/

namespace CypherSession.Json

inductive Document where
  | null
  | bool (value : Bool)
  | number (numeral : Numeral)
  | string (value? : Option String)
  | array (items : List Document)
  | object (members : List (Option String × Document))
  deriving Inhabited

/-! ## Tokens -/

inductive Token where
  | openArray
  | closeArray
  | openObject
  | closeObject
  | comma
  | colon
  | null
  | bool (value : Bool)
  | number (numeral : Numeral)
  | string (value? : Option String)
  deriving DecidableEq

inductive StringPart where
  | char (c : Char)
  | half (unit : Nat)
  deriving DecidableEq

namespace StringPart

def ofUnit (unit : Nat) : StringPart :=
  if 0xD800 ≤ unit ∧ unit < 0xE000 then .half unit else .char (Char.ofNat unit)

/-- The text of the parts, if each first half is followed by a second one. -/
def join? : List StringPart → Option (List Char)
  | [] => some []
  | .char c :: rest => (join? rest).map (c :: ·)
  | .half first :: .half second :: rest =>
    if first < 0xDC00 ∧ 0xDC00 ≤ second then
      (join? rest).map (Char.ofNat (0x10000 + (first - 0xD800) * 0x400 + (second - 0xDC00)) :: ·)
    else none
  | .half _ :: _ => none

end StringPart

namespace Token

/-- Where the automaton stands. What has been read of a token is kept in reverse. -/
inductive Mode where
  | between
  /-- In a number or a name without quotes. -/
  | bare (read : List Char)
  | quoted (parts : List StringPart)
  /-- After a backslash. -/
  | escaped (parts : List StringPart)
  /-- After some of the four digits of an escape. -/
  | digits (parts : List StringPart) (count value : Nat)

def isBare (c : Char) : Bool :=
  c.isAlphanum || c = '+' || c = '-' || c = '.'

def ofBare? (text : List Char) : Option Token :=
  if text = "null".toList then some .null
  else if text = "true".toList then some (.bool true)
  else if text = "false".toList then some (.bool false)
  else (Numeral.ofText? text).map .number

def hexDigit? (c : Char) : Option Nat :=
  if c.isDigit then some (c.toNat - 0x30)
  else if 'a' ≤ c ∧ c ≤ 'f' then some (c.toNat - 0x57)
  else if 'A' ≤ c ∧ c ≤ 'F' then some (c.toNat - 0x37)
  else none

def escape? (c : Char) : Option Char :=
  match c with
  | '"' | '\\' | '/' => some c
  | 'b' => some '\x08'
  | 'f' => some '\x0c'
  | 'n' => some '\n'
  | 'r' => some '\r'
  | 't' => some '\t'
  | _ => none

def start? (c : Char) : Option (Option Token × Mode) :=
  match c with
  | ' ' | '\t' | '\n' | '\r' => some (none, .between)
  | '[' => some (some .openArray, .between)
  | ']' => some (some .closeArray, .between)
  | '\x7b' => some (some .openObject, .between)
  | '\x7d' => some (some .closeObject, .between)
  | ',' => some (some .comma, .between)
  | ':' => some (some .colon, .between)
  | '"' => some (none, .quoted [])
  | _ => if isBare c then some (none, .bare [c]) else none

structure Scanner where
  mode : Mode := .between
  tokens : List Token := []

namespace Scanner

def start (tokens : List Token) (c : Char) : Option Scanner :=
  (start? c).map fun (token?, mode) => ⟨mode, token?.toList ++ tokens⟩

def step (scanner : Scanner) (c : Char) : Option Scanner :=
  match scanner.mode with
  | .between => start scanner.tokens c
  | .bare read =>
    if isBare c then some { scanner with mode := .bare (c :: read) }
    else do
      let token ← ofBare? read.reverse
      start (token :: scanner.tokens) c
  | .quoted parts =>
    if c = '"' then
      let value? := (StringPart.join? parts.reverse).map String.ofList
      some ⟨.between, .string value? :: scanner.tokens⟩
    else if c = '\\' then some { scanner with mode := .escaped parts }
    else if c < ' ' then none
    else some { scanner with mode := .quoted (.char c :: parts) }
  | .escaped parts =>
    if c = 'u' then some { scanner with mode := .digits parts 0 0 }
    else (escape? c).map fun c => { scanner with mode := .quoted (.char c :: parts) }
  | .digits parts count value => do
    let value := value * 16 + (← hexDigit? c)
    if count = 3 then return { scanner with mode := .quoted (.ofUnit value :: parts) }
    return { scanner with mode := .digits parts (count + 1) value }

def finish (scanner : Scanner) : Option (List Token) :=
  match scanner.mode with
  | .between => some scanner.tokens.reverse
  | .bare read => (ofBare? read.reverse).map fun token => (token :: scanner.tokens).reverse
  | _ => none

end Scanner

def scan? (text : List Char) : Option (List Token) := do
  let scanner ← text.foldl (fun scanner? c => scanner?.bind (Scanner.step · c)) (some {})
  scanner.finish

end Token

/-! ## Assembly -/

namespace Document

/-- A container part way through, its contents in reverse. -/
inductive Frame where
  | array (items : List Document)
  | object (members : List (Option String × Document))
  /-- An object whose last name still has no value. -/
  | member (members : List (Option String × Document)) (name? : Option String)

inductive Expected where
  /-- A value, and nothing else. -/
  | value
  /-- A value or the end of an array. -/
  | valueOrEnd
  /-- The name of a member. -/
  | name
  /-- The name of a member or the end of the object. -/
  | nameOrEnd
  /-- The colon after a name. -/
  | colon
  /-- A comma or the end of the container; after the whole document, nothing. -/
  | separator
  deriving DecidableEq

structure Assembly where
  frames : List Frame := []
  expected : Expected := .value
  complete? : Option Document := none

namespace Assembly

def place (value : Document) : List Frame → Option Assembly
  | [] => some ⟨[], .separator, some value⟩
  | .array items :: frames => some ⟨.array (value :: items) :: frames, .separator, none⟩
  | .member members name? :: frames =>
    some ⟨.object ((name?, value) :: members) :: frames, .separator, none⟩
  | .object _ :: _ => none

def takeValue (frames : List Frame) : Token → Option Assembly
  | .openArray => some ⟨.array [] :: frames, .valueOrEnd, none⟩
  | .openObject => some ⟨.object [] :: frames, .nameOrEnd, none⟩
  | .null => place .null frames
  | .bool value => place (.bool value) frames
  | .number numeral => place (.number numeral) frames
  | .string value? => place (.string value?) frames
  | _ => none

def close : Token → List Frame → Option Assembly
  | .closeArray, .array items :: frames => place (.array items.reverse) frames
  | .closeObject, .object members :: frames => place (.object members.reverse) frames
  | _, _ => none

def takeName : Token → List Frame → Option Assembly
  | .string name?, .object members :: frames =>
    some ⟨.member members name? :: frames, .colon, none⟩
  | _, _ => none

def step (assembly : Assembly) (token : Token) : Option Assembly :=
  let frames := assembly.frames
  match assembly.expected with
  | .value => takeValue frames token
  | .valueOrEnd => (close token frames).or (takeValue frames token)
  | .name => takeName token frames
  | .nameOrEnd => (close token frames).or (takeName token frames)
  | .colon => if token = .colon then some { assembly with expected := .value } else none
  | .separator =>
    match token, frames with
    | .comma, .array _ :: _ => some { assembly with expected := .value }
    | .comma, .object _ :: _ => some { assembly with expected := .name }
    | _, _ => close token frames

end Assembly

def ofTokens? (tokens : List Token) : Option Document := do
  let assembly ← tokens.foldl
    (fun assembly? token => assembly?.bind (Assembly.step · token)) (some {})
  assembly.complete?

def ofText? (text : String) : Option Document := do
  ofTokens? (← Token.scan? text.toList)

end Document

end CypherSession.Json
