import PromptLibrary.Encoding.Utf16
import PromptLibrary.Text.Quoted
import PromptLibrary.Text.Search
/-!
# Encodings

The encodings in which source files may be written, their names, and what is said about bytes that
do not fit. Text files are read with every line ending turned into a line feed.
-/

namespace PromptLibrary

inductive Encoding where
  | ascii
  | latin1
  | utf8
  /-- UTF-8 after an optional byte order mark. -/
  | utf8Marked
  /-- UTF-16 after a byte order mark. -/
  | utf16
  | utf16Little
  | utf16Big
  deriving DecidableEq, Repr

namespace Encoding

/-- Why bytes could not be decoded. -/
inductive Fault where
  /-- The bytes break the rules of the encoding called `codec`. -/
  | malformed (codec : String) (bytes : List UInt8) (place : Malformed)
  | noByteOrderMark
  deriving DecidableEq, Repr

def Fault.message : Fault → String
  | malformed codec bytes m =>
    let what :=
      if m.length = 1 then
        let byte := ((bytes[m.position]?).getD 0).toNat
        s!"byte 0x{String.ofList (Text.hexDigits 2 byte)} in position {m.position}"
      else s!"bytes in position {m.position}-{m.position + m.length - 1}"
    s!"'{codec}' codec can't decode {what}: {m.reason}"
  | noByteOrderMark => "UTF-16 stream does not start with BOM"

/-- A name in the form in which names are compared: lower case, words joined by underscores. -/
def plainName (name : List Char) : List Char :=
  let plain := name.map fun c => if c.isAlphanum || c = '.' then c.toLower else '_'
  Search.joinWith ['_'] ((Search.splitOn '_' plain).filter (· ≠ []))

/-- The names by which each encoding goes. -/
def names : Encoding → List String
  | ascii => ["ascii", "646", "ansi_x3.4_1968", "ansi_x3_4_1968", "ansi_x3.4_1986", "cp367",
      "csascii", "ibm367", "iso646_us", "iso_646.irv_1991", "iso_ir_6", "us", "us_ascii"]
  | latin1 => ["latin_1", "8859", "cp819", "csisolatin1", "ibm819", "iso8859", "iso8859_1",
      "iso_8859_1", "iso_8859_1_1987", "iso_ir_100", "l1", "latin", "latin1"]
  | utf8 => ["utf_8", "u8", "utf", "utf8", "utf8_ucs2", "utf8_ucs4", "cp65001"]
  | utf8Marked => ["utf_8_sig"]
  | utf16 => ["utf_16", "u16", "utf16"]
  | utf16Little => ["utf_16_le", "unicodelittleunmarked", "utf_16le"]
  | utf16Big => ["utf_16_be", "unicodebigunmarked", "utf_16be"]

/-- The encoding of a given name. -/
def named? (name : String) : Option Encoding :=
  let plain := String.ofList (plainName name.toList)
  [ascii, latin1, utf8, utf8Marked, utf16, utf16Little, utf16Big].find? (plain ∈ ·.names)

/-- Decodes bytes that stand for one character each, if they lie below 128. -/
def decodeAscii (position : Nat) : List UInt8 → Except Malformed (List Char)
  | [] => .ok []
  | b :: rest =>
    if b < 0x80 then (decodeAscii (position + 1) rest).map (Char.ofNat b.toNat :: ·)
    else .error ⟨position, 1, "ordinal not in range(128)"⟩

/-- The characters that bytes stand for. -/
def decode (e : Encoding) (bytes : List UInt8) : Except Fault (List Char) :=
  match e with
  | ascii => (decodeAscii 0 bytes).mapError (.malformed "ascii" bytes)
  | latin1 => .ok (bytes.map fun b => Char.ofNat b.toNat)
  | utf8 => (Utf8.decode bytes).mapError (.malformed "utf-8" bytes)
  | utf8Marked =>
    match bytes with
    | 0xEF :: 0xBB :: 0xBF :: rest => (Utf8.decode rest).mapError (.malformed "utf-8" rest)
    | [0xEF, 0xBB] => .ok []
    | [0xEF] => .ok []
    | _ => (Utf8.decode bytes).mapError (.malformed "utf-8" bytes)
  | utf16 =>
    match bytes with
    | 0xFF :: 0xFE :: rest =>
      (Utf16.decodeFrom .little 2 rest).mapError (.malformed "utf-16-le" bytes)
    | 0xFE :: 0xFF :: rest =>
      (Utf16.decodeFrom .big 2 rest).mapError (.malformed "utf-16-be" bytes)
    | _ =>
      match Utf16.decode .little bytes with
      | .error m => .error (.malformed "utf-16-le" bytes m)
      | .ok [] => .ok []
      | .ok _ => .error .noByteOrderMark
  | utf16Little => (Utf16.decode .little bytes).mapError (.malformed "utf-16-le" bytes)
  | utf16Big => (Utf16.decode .big bytes).mapError (.malformed "utf-16-be" bytes)

/-- Turns every line ending into a line feed. -/
def plainLines : List Char → List Char
  | [] => []
  | '\r' :: '\n' :: rest => '\n' :: plainLines rest
  | '\r' :: rest => '\n' :: plainLines rest
  | c :: rest => c :: plainLines rest

/-- The text of a file. -/
def readText (e : Encoding) (bytes : List UInt8) : Except Fault (List Char) :=
  (e.decode bytes).map plainLines

end Encoding

end PromptLibrary
