import PromptLibrary.Value.Basic
/-!
# The order of values

Strings are ordered by code points, numbers by their value whatever their kind, and arrays by the
first items that differ. Between other values there is no order. A value that is not a number is
the same as itself, and neither less nor greater than a number.
-/

namespace PromptLibrary

/-- The amount that a value stands for in comparisons. -/
inductive Amount where
  | none
  | infinite (negative : Bool)
  | finite (num : Int) (den : Nat)
  deriving DecidableEq, Repr

namespace Amount

def ofDouble (x : Double) : Amount :=
  if x.isNaN then none
  else if x.isFinite then
    let (num, den) := Double.fraction x.rank
    finite (if x.negative then -(num : Int) else num) den
  else infinite x.negative

def same : Amount → Amount → Bool
  | none, none => true
  | infinite a, infinite b => a = b
  | finite a b, finite c d => a * d = c * b
  | _, _ => false

def less : Amount → Amount → Bool
  | infinite a, infinite b => a && !b
  | infinite a, finite _ _ => a
  | finite _ _, infinite b => !b
  | finite a b, finite c d => a * d < c * b
  | _, _ => false

end Amount

namespace Value

/-- The amount of a number; truth counts as one. -/
def amount? : Value → Option Amount
  | bool b => some (.finite (if b then 1 else 0) 1)
  | int i => some (.finite i 1)
  | float x => some (.ofDouble x)
  | _ => none

mutual

/-- Whether two values are the same: numbers by their value, objects whatever their order. -/
def same : Value → Value → Bool
  | null, null => true
  | string s, string t => s = t
  | array a, array b => sameItems a b
  | object a, object b => a.length = b.length && sameMembers a b
  | v, w =>
    match v.amount?, w.amount? with
    | some x, some y => x.same y
    | _, _ => false

def sameItems : List Value → List Value → Bool
  | [], [] => true
  | v :: a, w :: b => same v w && sameItems a b
  | _, _ => false

/-- Whether each member is found among others with the same value. -/
def sameMembers : List (Text × Value) → List (Text × Value) → Bool
  | [], _ => true
  | (k, v) :: a, b =>
    (match Mapping.get? k b with
      | some w => same v w
      | none => false) && sameMembers a b

end

/-- Two kinds of values between which there is no order. -/
structure Unordered where
  left : Kind
  right : Kind
  deriving DecidableEq, Repr

mutual

/-- Whether a value comes before another one. -/
def before : Value → Value → Except Unordered Bool
  | string s, string t => .ok (!Text.le t s)
  | array a, array b => beforeItems a b
  | v, w =>
    match v.amount?, w.amount? with
    | some x, some y => .ok (x.less y)
    | _, _ => .error ⟨v.kind, w.kind⟩

def beforeItems : List Value → List Value → Except Unordered Bool
  | [], b => .ok (!b.isEmpty)
  | _ :: _, [] => .ok false
  | v :: a, w :: b => if same v w then beforeItems a b else before v w

end

end Value

end PromptLibrary
