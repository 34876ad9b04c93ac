import Rollback.Json.Basic
import Rollback.Text.Numeral

/-! JSON numbers. A number without point and exponent that fits into 64 bits (with or without a sign)
is whole; any other is a double. The double comes from at most 64 bits of digits, scaled by powers of
ten up to `10 ^ 308`, each step rounded. -/
namespace Rollback.Json

open Decimal (Binary64)
open Text (maxNat64)

/-- `10 ^ 308`, the greatest power of ten below the greatest double. -/
def widestPower : Nat := 308

def divideByTen (x : Binary64) (e : Nat) : Option Binary64 := (Binary64.ofNat (Nat.pow 10 e)).bind x.div

/-- Divides by `10 ^ widestPower` as often as told. -/
def divideWidest (x : Binary64) : Nat → Option Binary64
  | 0 => some x
  | times + 1 => (divideByTen x widestPower).bind fun y => divideWidest y times

/-- Scales by a power of ten. A division goes in steps of at most `10 ^ widestPower`; a product that
is too large is refused. -/
def scaleByTen (x : Binary64) (exponent : Int) : Option Binary64 :=
  match exponent with
  | .ofNat e =>
    if x.significand = 0 then some x
    else if widestPower < e then none
    else (Binary64.ofNat (Nat.pow 10 e)).bind x.mul
  | .negSucc e =>
    let steps := e / widestPower
    (divideWidest x steps).bind fun y => divideByTen y (e + 1 - widestPower * steps)

/-- Takes digits as long as the value stays below `2 ^ 64`: the value, how many digits it has, and
how many more were passed over. -/
def takeDigits (value used skipped : Nat) : List Char → Nat × Nat × Nat
  | [] => (value, used, skipped)
  | c :: cs =>
    let next := value * 10 + (c.toNat - '0'.toNat)
    if skipped = 0 ∧ next ≤ maxNat64 then takeDigits next (used + 1) 0 cs
    else takeDigits value used (skipped + 1) cs

/-- The parts of a number's text: the digits before and after the point, and the exponent with its
sign. -/
structure Numeral where
  negative : Bool
  whole : List Char
  fraction : Option (List Char)
  exponent : Option (Bool × List Char)

/-- The power of ten that the exponent asks for. -/
def Numeral.shift (n : Numeral) : Int :=
  match n.exponent with
  | none => 0
  | some (negative, ds) =>
    let value := (Text.digits? 10 ds).getD 0
    if negative then -(value : Int) else value

/-- The double that a number's text stands for; none if it is too large. -/
def Numeral.float? (n : Numeral) : Option Binary64 :=
  let (value, _, skipped) := takeDigits 0 0 0 n.whole
  let (value, used, _) :=
    match n.fraction with
    | none => (value, 0, 0)
    | some ds => takeDigits value 0 0 ds
  let exponent : Int := skipped - used + n.shift
  let result :=
    if value = 0 then some (Binary64.zero false)
    else if exponent < -100000 then some (Binary64.zero false)
    else (Binary64.ofNat value).bind fun x => scaleByTen x exponent
  result.map fun x => { x with negative := n.negative }

/-- The value of a number; none if it is too large for a double. -/
def Numeral.value? (n : Numeral) : Option Json :=
  match n.fraction, n.exponent with
  | none, none =>
    let value := (Text.digits? 10 n.whole).getD 0
    if n.negative then
      if value ≠ 0 ∧ value ≤ Text.maxInt64 + 1 then some (.integer (-(value : Int)))
      else n.float?.map .float
    else if value ≤ maxNat64 then some (.integer value)
    else n.float?.map .float
  | _, _ => n.float?.map .float

end Rollback.Json
