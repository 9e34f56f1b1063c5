/-
Values of the JSON data format.

A number is kept exactly as it was written: sign, digits and power of ten, and
whether it was written as an integer.  An object keeps its members in order, and
a key may occur more than once.
-/

namespace FreeNames

/-- The number `mantissa · 10 ^ exponent`, negated if `negative`. -/
structure Decimal where
  negative : Bool
  mantissa : Nat
  exponent : Int
  /-- Whether it was written without fraction and exponent. -/
  integral : Bool
  deriving DecidableEq, Repr, Inhabited

/-- An integer as a decimal. -/
def Decimal.ofNat (n : Nat) : Decimal := ⟨false, n, 0, true⟩

inductive Json
  | null
  | bool (b : Bool)
  | number (n : Decimal)
  | string (s : String)
  | array (items : List Json)
  | object (members : List (String × Json))
  deriving Repr, Inhabited

namespace Json

/-- The value of a key of an object; of a repeated key the last value counts. -/
def field? (j : Json) (key : String) : Option Json :=
  match j with
  | .object members => members.reverse.lookup key
  | _ => none

def ofNat (n : Nat) : Json := .number (.ofNat n)

end Json

end FreeNames
