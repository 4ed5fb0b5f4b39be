/-!
# Base 64

Three bytes are written by four characters of six bits each. Where bytes are missing at the end,
equals signs stand for the characters that are not needed.
-/

namespace PromptLibrary.Encoding.Base64

/-- The characters that stand for six bits. -/
def alphabet : List Char :=
  "ABCDEFGHIJKLMNOPQRSTUVWXYZabcdefghijklmnopqrstuvwxyz0123456789+/".toList

/-- The characters of a number of three bytes. -/
def group (n : Nat) : List Char :=
  [n / 262144, n / 4096 % 64, n / 64 % 64, n % 64].map fun d => (alphabet[d]?).getD '='

/-- The characters that stand for bytes. -/
def encode : List UInt8 → List Char
  | [] => []
  | [a] => (group (a.toNat * 65536)).take 2 ++ ['=', '=']
  | [a, b] => (group (a.toNat * 65536 + b.toNat * 256)).take 3 ++ ['=']
  | a :: b :: c :: rest => group (a.toNat * 65536 + b.toNat * 256 + c.toNat) ++ encode rest

end PromptLibrary.Encoding.Base64
