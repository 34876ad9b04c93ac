import Rollback.Decimal.Binary64

/-! The shortest decimal text of a double: the fewest digits that read back as the same number, and
of those the nearest to it. Numbers of moderate size are written with a point, others with an
exponent. -/
namespace Rollback.Decimal

/-- Decimal digits and the power of ten of the last of them. -/
structure Digits where
  value : Nat
  exponent : Int
  deriving DecidableEq, Repr

/-- `a / b` compared with `digits · 10 ^ exponent`, all scaled to natural numbers. -/
def Digits.scaledWith (d : Digits) (a b : Nat) : Nat × Nat :=
  match d.exponent with
  | .ofNat e => (a, d.value * Nat.pow 10 e * b)
  | .negSucc e => (a * Nat.pow 10 (e + 1), d.value * b)

/-- Moves at most `most` zeros at the end of the digits into the exponent. -/
def Digits.trim (d : Digits) : Nat → Digits
  | 0 => d
  | most + 1 =>
    if d.value ≠ 0 ∧ d.value % 10 = 0 then
      Digits.trim ⟨d.value / 10, d.exponent + 1⟩ most
    else d

namespace Binary64

/-- The reals that round to a number lie between these two fractions (over one denominator); the
ends belong to them when the significand is even. Below a power of two the gap is half as wide. -/
def roundingInterval (x : Binary64) : Nat × Nat × Nat :=
  let (n, d) := x.ratio
  let (unit, den) : Nat × Nat := match x.exponent with
    | .ofNat e => (1 <<< e, 4)
    | .negSucc _ => (1, 4 * d)
  let narrow := x.significand = hiddenBit ∧ minExponent < x.exponent
  (4 * n - (if narrow then unit else 2 * unit), 4 * n + 2 * unit, den)

def readsBack (x : Binary64) (c : Digits) : Bool :=
  let (low, high, den) := x.roundingInterval
  let (low', v) := c.scaledWith low den
  let (high', _) := c.scaledWith high den
  if x.significand % 2 = 0 then low' ≤ v && v ≤ high' else low' < v && v < high'

/-- The power of ten of the leading digit of a positive number. -/
def leadingPower (x : Binary64) : Int :=
  let (n, d) := x.ratio
  if d ≤ n then (Nat.toDigits 10 (n / d)).length - 1
  else
    let p := (Nat.toDigits 10 (d / n)).length
    if d ≤ n * Nat.pow 10 (p - 1) then 1 - (p : Int) else -(p : Int)

/-- The two neighbours of a positive number on the grid of the given power of ten that read back;
of two, the nearer, and on a tie the even one. -/
def onGrid (x : Binary64) (power : Int) : Option Digits :=
  let (n, d) := x.ratio
  let (num, den) : Nat × Nat := match power with
    | .ofNat e => (n, d * Nat.pow 10 e)
    | .negSucc e => (n * Nat.pow 10 (e + 1), d)
  let below : Digits := ⟨num / den, power⟩
  let above : Digits := ⟨num / den + 1, power⟩
  match x.readsBack below && below.value != 0, x.readsBack above with
  | true, true =>
    let r := 2 * (num % den)
    if r < den then some below
    else if den < r then some above
    else if below.value % 2 = 0 then some below else some above
  | true, false => some below
  | false, true => some above
  | false, false => none

/-- The first hit on grids of more and more digits. -/
def search (x : Binary64) (power : Int) : Nat → Digits
  | 0 => ⟨x.significand, 0⟩
  | n + 1 =>
    match x.onGrid power with
    | some d => d
    | none => search x (power - 1) n

def shortest (x : Binary64) : Digits := (x.search x.leadingPower 18).trim 20

end Binary64

/-- Where positional notation ends: a number whose point would stand more than `mostBefore` places
after the first digit, or more than `mostZeros` before it, is written with an exponent. -/
structure Layout where
  mostBefore : Int
  mostZeros : Int

/-- Sixteen digits before the point, four zeros after it. -/
def plainLayout : Layout := ⟨16, 4⟩

/-- The text of digits: always with a point or an exponent, so that it reads as a fraction. -/
def Layout.render (l : Layout) (d : Digits) : List Char :=
  let cs := Nat.toDigits 10 d.value
  let point : Int := cs.length + d.exponent
  if 0 ≤ d.exponent ∧ point ≤ l.mostBefore then
    cs ++ List.replicate d.exponent.toNat '0' ++ ['.', '0']
  else if 0 < point ∧ point ≤ l.mostBefore then
    cs.take point.toNat ++ '.' :: cs.drop point.toNat
  else if -l.mostZeros - 1 < point ∧ point ≤ 0 then
    '0' :: '.' :: List.replicate (-point).toNat '0' ++ cs
  else
    let power := point - 1
    let sign := if power < 0 then ['-'] else []
    cs.take 1 ++ (if cs.length = 1 then [] else '.' :: cs.drop 1)
      ++ 'e' :: sign ++ Nat.toDigits 10 power.natAbs

def Binary64.text (x : Binary64) : String :=
  let sign := if x.negative then ['-'] else []
  let body := if x.significand = 0 then ['0', '.', '0'] else plainLayout.render x.shortest
  String.ofList (sign ++ body)

end Rollback.Decimal
