/-
Numbers as they are told apart and shown.

A number written as an integer stays one if it fits in 64 bits; every other
number is rounded to the nearest binary floating point number of 64 bits, and is
shown with the fewest decimal digits that are rounded to it again.
-/
import FreeNames.Json.Value

namespace FreeNames

/-- The number `mantissa · 2 ^ exponent`, negated if `negative`, with at most 53 bits. -/
structure Binary64 where
  negative : Bool
  mantissa : Nat
  exponent : Int
  deriving DecidableEq, Repr, Inhabited

namespace Binary64

/-- The quotient rounded to the nearest integer, a half to the even one. -/
def roundDiv (num den : Nat) : Nat :=
  let q := num / den
  let r := num % den
  if 2 * r < den then q
  else if den < 2 * r then q + 1
  else if q % 2 = 0 then q else q + 1

/-- `num / den · base ^ e` as a quotient. -/
def scale (num den base : Nat) (e : Int) : Nat × Nat :=
  if 0 ≤ e then (num * base.pow e.toNat, den) else (num, den * base.pow (-e).toNat)

/-- The least exponent. -/
def minExponent : Int := -1074

/-- The exponent with which `num / den` has 53 bits before the point, or the least one. -/
def exponentOf (num den : Nat) : Int :=
  let guess : Int := (Nat.log2 num : Int) - (Nat.log2 den : Int) - 52
  let (n, d) := scale num den 2 (-guess)
  max minExponent (if n < Nat.pow 2 52 * d then guess - 1 else guess)

/-- The number nearest to `num / den`; `none` if it is too large. -/
def ofRatio? (negative : Bool) (num den : Nat) : Option Binary64 :=
  if num = 0 then some ⟨negative, 0, minExponent⟩
  else
    let e := exponentOf num den
    let (n, d) := scale num den 2 (-e)
    let m := roundDiv n d
    let (m, e) := if m = Nat.pow 2 53 then (Nat.pow 2 52, e + 1) else (m, e)
    if 971 < e then none else some ⟨negative, m, e⟩

/-- The number nearest to a decimal.  Far outside the range the powers need not be formed. -/
def ofDecimal? (x : Decimal) : Option Binary64 :=
  let magnitude : Int := (Nat.toDigits 10 x.mantissa).length + x.exponent
  if x.mantissa = 0 || magnitude < -400 then some ⟨x.negative, 0, minExponent⟩
  else if 400 < magnitude then none
  else
    let (n, d) := scale x.mantissa 1 10 x.exponent
    ofRatio? x.negative n d

/-! ### Fewest digits -/

/-- The power of ten of the leading digit of `num / den`.  Fuel bounds the leading zeros. -/
def leadingPower (num den : Nat) : Nat → Int
  | 0 => 0
  | fuel + 1 =>
    if den ≤ num then (Nat.toDigits 10 (num / den)).length - 1
    else leadingPower (num * 10) den fuel - 1

/-- Whether `c · 10 ^ k` is rounded to the number. -/
def isRoundedTo (x : Binary64) (c : Nat) (k : Int) : Bool :=
  let low := if x.mantissa = Nat.pow 2 52 && minExponent < x.exponent then 4 * x.mantissa - 1
    else 4 * x.mantissa - 2
  let high := 4 * x.mantissa + 2
  -- compare `c · 10 ^ k` with a quarter of the last place times `low` and `high`
  let (n, d) := scale c 1 10 k
  let (n, d) := scale n d 2 (2 - x.exponent)
  if x.mantissa % 2 = 0 then low * d ≤ n && n ≤ high * d else low * d < n && n < high * d

/-- The digits and power of ten with `count` digits, if such digits are rounded to the number. -/
def withDigits? (x : Binary64) (count : Nat) : Option (Nat × Int) :=
  let (num, den) := scale x.mantissa 1 2 x.exponent
  let k := leadingPower num den 400 - (count - 1 : Nat)
  let (n, d) := scale num den 10 (-k)
  let c := n / d
  let lower := isRoundedTo x c k
  let upper := isRoundedTo x (c + 1) k
  if lower && upper then some (if 2 * (n % d) ≤ d then c else c + 1, k)
  else if lower then some (c, k)
  else if upper then some (c + 1, k)
  else none

/-- The fewest digits that are rounded to the number, and their power of ten. -/
def shortest (x : Binary64) : Nat × Int :=
  ((List.range 17).findSome? fun i => withDigits? x (i + 1)).getD (0, 0)

/-- How a number is shown: with a point if its magnitude is from 10⁻⁵ up to 10¹⁶, and with an
exponent otherwise. -/
def text (x : Binary64) : String :=
  let sign := if x.negative then "-" else ""
  if x.mantissa = 0 then sign ++ "0.0"
  else
    let (c, k) := shortest x
    let digits := Nat.toDigits 10 c
    let zeros (n : Int) := List.replicate n.toNat '0'
    let point : Int := digits.length + k
    let body : List Char :=
      if 0 ≤ k && point ≤ 16 then digits ++ zeros k ++ ['.', '0']
      else if 0 < point && point ≤ 16 then
        digits.take point.toNat ++ ['.'] ++ digits.drop point.toNat
      else if -5 < point && point ≤ 0 then ['0', '.'] ++ zeros (-point) ++ digits
      else
        let power := (toString (point - 1)).toList
        digits.take 1 ++ (if digits.length = 1 then [] else '.' :: digits.drop 1) ++ 'e' :: power
    sign ++ String.ofList body

end Binary64

/-- What a number is taken for. -/
inductive Number
  | integer (i : Int)
  | floating (x : Binary64)
  deriving DecidableEq, Repr

namespace Decimal

/-- What a number is taken for; `none` if it is too large. -/
def number? (x : Decimal) : Option Number :=
  if x.integral && !x.negative && x.mantissa < Nat.pow 2 64 then some (.integer x.mantissa)
  else if x.integral && x.negative && 0 < x.mantissa && x.mantissa ≤ Nat.pow 2 63 then
    some (.integer (-x.mantissa))
  else (Binary64.ofDecimal? x).map .floating

/-- The text of a number. -/
def text (x : Decimal) : String :=
  match x.number? with
  | some (.integer i) => toString i
  | some (.floating b) => b.text
  | none => ""

end Decimal

namespace Json

mutual

/-- Whether no number in a value is too large. -/
def inRange : Json → Bool
  | .number n => n.number?.isSome
  | .array items => allInRange items
  | .object members => membersInRange members
  | _ => true

def allInRange : List Json → Bool
  | [] => true
  | x :: rest => x.inRange && allInRange rest

def membersInRange : List (String × Json) → Bool
  | [] => true
  | (_, x) :: rest => x.inRange && membersInRange rest

end

/-- Puts a member in its place among sorted members; a later member of the same key wins. -/
def insertMember (key : String) (x : Json) : List (String × Json) → List (String × Json)
  | [] => [(key, x)]
  | (k, y) :: rest =>
    if key < k then (key, x) :: (k, y) :: rest
    else if key == k then (key, x) :: rest
    else (k, y) :: insertMember key x rest

mutual

/-- The value with the members of all objects in rising order of their keys; of a repeated key
the last value stays. -/
def sorted : Json → Json
  | .array items => .array (sortedItems items)
  | .object members => .object (sortedMembers [] members)
  | x => x

def sortedItems : List Json → List Json
  | [] => []
  | x :: rest => x.sorted :: sortedItems rest

/-- Inserts members one after the other into sorted ones. -/
def sortedMembers (acc : List (String × Json)) : List (String × Json) → List (String × Json)
  | [] => acc
  | (key, x) :: rest => sortedMembers (insertMember key x.sorted acc) rest

end

end Json

end FreeNames
