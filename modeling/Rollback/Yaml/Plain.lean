import Rollback.Decimal.Binary64
import Rollback.Text.Numeral

/-! What an unquoted text stands for: null, a truth value, a number or a text. Whole numbers may be
decimal, hexadecimal, octal or binary; a decimal number with a leading zero is a text, and so are
words like `yes`. -/
namespace Rollback.Yaml

open Decimal (Binary64)

/-- A fraction, which may also be infinite or not a number. -/
inductive Fraction where
  | finite (x : Binary64)
  | infinite (negative : Bool)
  | undefined
  deriving DecidableEq, Repr, Inhabited

inductive Unquoted where
  | null
  | bool (value : Bool)
  /-- A whole number that fits into 64 bits, with or without a sign. -/
  | integer (value : Int)
  /-- A whole number that only fits into 128 bits. -/
  | tooWide
  | fraction (value : Fraction)
  | text
  deriving DecidableEq, Repr, Inhabited

def nullWords : List String := ["", "null", "Null", "NULL", "~"]

def isNullWord (s : String) : Bool := nullWords.contains s

def bool? (s : String) : Option Bool :=
  if ["true", "True", "TRUE"].contains s then some true
  else if ["false", "False", "FALSE"].contains s then some false
  else none

/-- Whether the text has digits only, after an optional sign, and begins with a zero that is not all
of it. -/
def hasLeadingZero (cs : List Char) : Bool :=
  let unsigned := match cs with
    | '-' :: rest => rest
    | '+' :: rest => rest
    | _ => cs
  match unsigned with
  | '0' :: c :: rest => (c :: rest).all Char.isDigit
  | _ => false

/-- The base that a number's first two characters name, and the digits after them. -/
def based? : List Char → Option (Nat × List Char)
  | '0' :: 'x' :: digits => some (16, digits)
  | '0' :: 'o' :: digits => some (8, digits)
  | '0' :: 'b' :: digits => some (2, digits)
  | _ => none

/-- The magnitude of a whole number without its sign; `whole` is the text with it. -/
def magnitude? (whole unsigned : List Char) : Option Nat :=
  match (based? unsigned).bind fun (base, digits) => Text.digits? base digits with
  | some n => some n
  | none => if hasLeadingZero whole then none else Text.digits? 10 unsigned

/-- The greatest magnitude of a whole number, whatever its sign: 128 bits. -/
def maxWide (negative : Bool) : Nat := if negative then Nat.pow 2 127 else Nat.pow 2 128 - 1

def integer? (cs : List Char) : Option Unquoted :=
  let (negative, unsigned) := match cs with
    | '-' :: rest => (true, rest)
    | '+' :: rest => (false, rest)
    | _ => (false, cs)
  match magnitude? cs unsigned with
  | none => none
  | some n =>
    if negative then
      if n ≤ Text.maxInt64 + 1 then some (.integer (-(n : Int)))
      else if n ≤ maxWide true then some .tooWide
      else none
    else if n ≤ Text.maxNat64 then some (.integer n)
    else if n ≤ maxWide false then some .tooWide
    else none

/-- The exponent after the digits of a fraction: none at all counts as zero. -/
def exponent? : List Char → Option Int
  | [] => some 0
  | c :: rest =>
    if c = 'e' ∨ c = 'E' then
      match rest with
      | '-' :: ds => (Text.digits? 10 ds).map fun n => -(n : Int)
      | '+' :: ds => (Text.digits? 10 ds).map fun n => (n : Int)
      | ds => (Text.digits? 10 ds).map fun n => (n : Int)
    else none

/-- A decimal fraction with an optional sign; none if it is too large for a double. -/
def decimal? (cs : List Char) : Option Binary64 :=
  let (negative, cs) := match cs with
    | '-' :: rest => (true, rest)
    | '+' :: rest => (false, rest)
    | _ => (false, cs)
  let (whole, cs) := cs.span Char.isDigit
  let (part, cs) := match cs with
    | '.' :: rest => rest.span Char.isDigit
    | _ => ([], cs)
  if whole.isEmpty && part.isEmpty then none
  else
    match exponent? cs, Text.digits? 10 (whole ++ part) with
    | some e, some n => Binary64.ofDecimal negative n (e - part.length)
    | _, _ => none

/-- A fraction, or one of the words for what is no finite number. -/
def fraction? (s : String) : Option Fraction :=
  if [".inf", ".Inf", ".INF", "+.inf", "+.Inf", "+.INF"].contains s then some (.infinite false)
  else if ["-.inf", "-.Inf", "-.INF"].contains s then some (.infinite true)
  else if [".nan", ".NaN", ".NAN"].contains s then some .undefined
  else
    match s.toList with
    | '+' :: '+' :: _ | '+' :: '-' :: _ => none
    | cs => (decimal? cs).map .finite

def resolve (s : String) : Unquoted :=
  if isNullWord s then .null
  else
    match bool? s with
    | some b => .bool b
    | none =>
      match integer? s.toList with
      | some n => n
      | none =>
        if hasLeadingZero s.toList then .text
        else
          match fraction? s with
          | some x => .fraction x
          | none => .text

end Rollback.Yaml
