import PromptLibrary.Encoding.Basic
import PromptLibrary.Encoding.Utf32
/-!
# JSON in bytes

A document that comes as bytes does not say how it is encoded. Since it begins with an ASCII
character, the zeros among its first bytes tell the width of its units and their byte order.
-/

namespace PromptLibrary.Json

open Encoding
open Encoding.Utf16 (ByteOrder)

/-- The ways in which text is put into bytes. -/
inductive Form where
  | utf8
  | utf16 (order : ByteOrder)
  | utf32 (order : ByteOrder)
  deriving DecidableEq, Repr

namespace Form

/-- The form that the first bytes of a document tell of. -/
def ofBytes : List UInt8 → Form
  | [0, _] => utf16 .big
  | [_, 0] => utf16 .little
  | a :: b :: c :: d :: _ =>
    if a = 0 then if b = 0 then utf32 .big else utf16 .big
    else if b = 0 then if c = 0 ∧ d = 0 then utf32 .little else utf16 .little
    else utf8
  | _ => utf8

def name : Form → String
  | utf8 => "utf-8"
  | utf16 .little => "utf-16-le"
  | utf16 .big => "utf-16-be"
  | utf32 .little => "utf-32-le"
  | utf32 .big => "utf-32-be"

/-- The text in bytes of a known form. -/
def decode : Form → List UInt8 → Except Malformed Text
  | utf8, bytes => (Utf8.decode bytes).map Text.ofChars
  | utf16 order, bytes => (Utf16.unitsFrom order 0 bytes).map Text.join
  | utf32 order, bytes => Utf32.decodeFrom order 0 bytes

end Form

/-- The text of a document in bytes. A byte order mark of UTF-8 is passed over. -/
def textOf (bytes : List UInt8) : Except Fault Text :=
  match bytes with
  | 0xEF :: 0xBB :: 0xBF :: rest => (Form.utf8.decode rest).mapError (.malformed "utf-8" rest)
  | _ =>
    let form := Form.ofBytes bytes
    (form.decode bytes).mapError (.malformed form.name bytes)

end PromptLibrary.Json
