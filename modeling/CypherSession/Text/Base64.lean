/-!
# Base64

Octets in groups of three, each group as four characters of six bits; an incomplete last group is
filled up with equals signs.
-/

namespace CypherSession.Text.Base64

def alphabet : List Char :=
  "ABCDEFGHIJKLMNOPQRSTUVWXYZabcdefghijklmnopqrstuvwxyz0123456789+/".toList

def symbol (value : Nat) : Char := alphabet.getD value '='

def group (bits : Nat) : List Char :=
  [symbol (bits / 0x40000 % 64), symbol (bits / 0x1000 % 64), symbol (bits / 0x40 % 64),
    symbol (bits % 64)]

def encode : List UInt8 → List Char
  | [] => []
  | [a] => (group (a.toNat * 0x10000)).take 2 ++ ['=', '=']
  | [a, b] => (group (a.toNat * 0x10000 + b.toNat * 0x100)).take 3 ++ ['=']
  | a :: b :: c :: rest =>
    group (a.toNat * 0x10000 + b.toNat * 0x100 + c.toNat) ++ encode rest

example : encode [0x6C, 0x69, 0x67, 0x68, 0x74] = "bGlnaHQ=".toList := by decide
example : encode [0x77] = "dw==".toList := by decide

end CypherSession.Text.Base64
