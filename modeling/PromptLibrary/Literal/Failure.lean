import PromptLibrary.Text.Quoted
import PromptLibrary.Value.Basic
/-!
# Why a literal is refused

The causes for which text is not a literal, and their wording. While a text is being read, a place
in it is named by the text that follows.
-/

namespace PromptLibrary.Literal

/-- The greatest number of brackets that may be open at once. -/
def depthLimit : Nat := 200

/-- What is wrong with the text of a literal. -/
inductive Reason where
  | endOfInput
  | endInObject
  | unexpected (c : Char)
  | unexpectedInKey (c : Char)
  | expected (wanted : Char) (found : Option Char)
  | expectedInObject (found : Option Char)
  | expectedInArray (found : Option Char)
  | trailing (rest : List Char)
  | tooDeep
  | unterminatedComment
  | undefinedSymbol (name : List Char)
  /-- A `+` between values that are not both strings. -/
  | notStrings (left right : Kind)
  /-- A bare name that stands in an object without a value. -/
  | valueless (key : Text)
  | templateKey
  | computedKey
  | spread
  | hole
  | badNumber (c : Char)
  | nameAfterNumber (number : List Char)
  | unterminatedString
  | unterminatedTemplate
  | unterminatedEscape
  | badHex (digits : List Char)
  | unterminatedCodePoint
  | badCodePoint (digits : List Char)
  | octalInTemplate
  | unpairedSurrogate
  | interpolation (span : List Char)
  | unterminatedInterpolation
  /-- The whole literal is something else than an object. -/
  | notObject (kind : Kind)
  /-- A member of the object is something else than a string. -/
  | notTemplate (key : Text) (kind : Kind)
  deriving DecidableEq, Repr

namespace Reason

/-- How a message shows the character that was found. -/
def foundText : Option Char → String
  | some c => Text.quotedString [c]
  | none => "end of input"

def message : Reason → String
  | endOfInput => "Unexpected end of input"
  | endInObject => "Unexpected end of input in object"
  | unexpected c => s!"Unexpected character {foundText (some c)}"
  | unexpectedInKey c =>
    s!"Unexpected character {foundText (some c)} where a property key was expected"
  | expected wanted found => s!"Expected '{wanted}' but found {foundText found}"
  | expectedInObject found => s!"Expected ',' or '\x7d' in object but found {foundText found}"
  | expectedInArray found => s!"Expected ',' or ']' in array but found {foundText found}"
  | trailing rest => s!"Unexpected trailing content {Text.quotedString (rest.take 20)}"
  | tooDeep => s!"Literal is nested deeper than {depthLimit} levels"
  | unterminatedComment => "Unterminated block comment"
  | undefinedSymbol name => s!"Reference to undefined symbol '{String.ofList name}'"
  | notStrings left right =>
    s!"'+' is only supported between strings, got {left.literalName} + {right.literalName}"
  | valueless key =>
    s!"Property '{key.asString}' has no value; " ++
      "shorthand properties and methods are not supported"
  | templateKey => "Template literals cannot be used as property keys"
  | computedKey => "Computed property keys are not supported"
  | spread => "Spread syntax is not supported"
  | hole => "Array holes are not supported"
  | badNumber c => s!"Invalid number starting with {foundText (some c)}"
  | nameAfterNumber number => s!"Identifier directly after number '{String.ofList number}'"
  | unterminatedString => "Unterminated string literal"
  | unterminatedTemplate => "Unterminated template literal"
  | unterminatedEscape => "Unterminated escape sequence"
  | badHex digits => s!"Invalid hexadecimal escape {Text.quotedString digits}"
  | unterminatedCodePoint => "Unterminated \\u\x7b...\x7d escape"
  | badCodePoint digits => s!"Invalid code point escape \\u\x7b{String.ofList digits}\x7d"
  | octalInTemplate => "Octal escape sequences are not allowed in template literals"
  | unpairedSurrogate => "Unpaired surrogate escape in string"
  | interpolation span =>
    s!"Template interpolation {Text.quotedString span} cannot be statically resolved"
  | unterminatedInterpolation => "Unterminated template interpolation"
  | notObject kind => s!"Top-level value is {kind.literalName}, expected an object"
  | notTemplate key kind =>
    s!"Template '{key.asString}' has a {kind.literalName} value, expected a string"

end Reason

/-- Why reading stopped, with the text that follows the place of the fault. -/
inductive Failure where
  | refused (reason : Reason) (rest : List Char)
  /-- An integer whose decimal text is beyond the limit on digits. -/
  | tooManyDigits
  /-- A code point that does not fit 32 bits. -/
  | codePointTooLarge
  deriving DecidableEq, Repr

/-- Why a literal was not evaluated. -/
inductive EvalError where
  | refused (reason : Reason) (offset : Option Nat)
  | tooManyDigits
  | codePointTooLarge
  deriving DecidableEq, Repr

/-- What the user is told about a refused literal; the other failures have no place to tell. -/
def EvalError.message : EvalError → String
  | refused reason (some offset) => s!"Evaluation failed: {reason.message} (at offset {offset})"
  | refused reason none => s!"Evaluation failed: {reason.message}"
  | tooManyDigits => "Exceeds the limit (4300 digits) for integer string conversion"
  | codePointTooLarge => "int too large to convert"

/-- The failure, with its place as an offset in the whole text. -/
def Failure.toError (text : List Char) : Failure → EvalError
  | refused reason rest => .refused reason (some (text.length - rest.length))
  | tooManyDigits => .tooManyDigits
  | codePointTooLarge => .codePointTooLarge

/-- What to do with `${...}` in a template. -/
inductive Interpolation where
  /-- Refuse the literal. -/
  | strict
  /-- Keep the text as it is. -/
  | literal
  deriving DecidableEq, Repr

def Interpolation.name : Interpolation → String
  | strict => "strict"
  | literal => "literal"

def Interpolation.all : List Interpolation := [strict, literal]

def Interpolation.named? (name : String) : Option Interpolation :=
  all.find? (·.name = name)

/-- What the user is told about a policy that does not exist. -/
def Interpolation.unknownMessage (name : String) : String :=
  s!"{Text.quotedString name.toList} is not a valid InterpolationPolicy"

end PromptLibrary.Literal
