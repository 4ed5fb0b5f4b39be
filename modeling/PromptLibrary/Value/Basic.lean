import PromptLibrary.Mapping
import PromptLibrary.Number.Double
/-!
# Values

The data that literals, stored files, replies and render variables are made of.
-/

namespace PromptLibrary

inductive Value where
  | null
  | bool (b : Bool)
  | int (i : Int)
  | float (x : Double)
  | string (t : Text)
  | array (items : List Value)
  | object (members : List (Text × Value))
  deriving Inhabited

/-- What kind of value something is. -/
inductive Kind where
  | null
  | bool
  | int
  | float
  | string
  | array
  | object
  deriving DecidableEq, Repr

namespace Kind

/-- The name of a kind in messages about literals. -/
def literalName : Kind → String
  | null => "null"
  | bool => "boolean"
  | int => "number"
  | float => "number"
  | string => "string"
  | array => "array"
  | object => "object"

/-- The name of a kind in messages about stored files and replies. -/
def storedName : Kind → String
  | null => "NoneType"
  | bool => "bool"
  | int => "int"
  | float => "float"
  | string => "str"
  | array => "list"
  | object => "dict"

end Kind

namespace Value

def kind : Value → Kind
  | null => .null
  | bool _ => .bool
  | int _ => .int
  | float _ => .float
  | string _ => .string
  | array _ => .array
  | object _ => .object

/-- Values that count as nothing: null, false, zero and what is empty. -/
def isNothing : Value → Bool
  | null => true
  | bool b => !b
  | int i => i = 0
  | float x => x.rank = 0
  | string t => t.isEmpty
  | array items => items.isEmpty
  | object members => members.isEmpty

end Value

end PromptLibrary
