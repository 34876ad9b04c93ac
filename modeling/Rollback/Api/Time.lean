import Rollback.Text.Split
import Rollback.Text.Numeral

/-! Times as objects carry them: a date, a time of day and the distance from Greenwich time. A time is
written back in Greenwich time. -/
namespace Rollback

/-- A point in time: minutes since the first day of 1970 began in Greenwich, and the seconds and
nanoseconds of the minute. A leap second is the sixtieth second of its minute. -/
structure Time where
  minute : Int
  second : Nat
  nanosecond : Nat
  deriving DecidableEq, Repr

namespace Time

def isLeap (year : Int) : Bool := year % 4 == 0 && (year % 100 != 0 || year % 400 == 0)

def daysInMonth (year : Int) : Nat → Nat
  | 1 | 3 | 5 | 7 | 8 | 10 | 12 => 31
  | 4 | 6 | 9 | 11 => 30
  | 2 => if isLeap year then 29 else 28
  | _ => 0

def daysBeforeYear (year : Int) : Int :=
  let last := year - 1
  365 * year + last / 4 - last / 100 + last / 400 + 1

def daysBeforeMonth (year : Int) : Nat → Nat
  | 0 => 0
  | month + 1 => daysBeforeMonth year month + daysInMonth year month

/-- The days from the first day of 1970 to a date. -/
def dayNumber (year : Int) (month day : Nat) : Int :=
  daysBeforeYear year - daysBeforeYear 1970 + daysBeforeMonth year month + (day - 1)

/-- The month and day of the day with a number (from zero) in a year. -/
def monthAndDay (year : Int) (month : Nat) : Nat → Nat → Nat × Nat
  | 0, day => (month, day + 1)
  | left + 1, day =>
    if day < daysInMonth year month then (month, day + 1)
    else monthAndDay year (month + 1) left (day - daysInMonth year month)

def dateOf (days : Int) : Int × Nat × Nat :=
  let n := days + daysBeforeYear 1970
  let guess := n * 400 / 146097
  let year := if n < daysBeforeYear guess then guess - 1
    else if daysBeforeYear (guess + 1) ≤ n then guess + 1 else guess
  let (month, day) := monthAndDay year 1 11 (n - daysBeforeYear year).toNat
  (year, month, day)

/-- At most `most` digits, but at least one, after white space. -/
def readNumber (most : Nat) (cs : List Char) : Option (Nat × List Char) :=
  let ds := ((Text.skipBlank cs).take most).takeWhile Char.isDigit
  (Text.digits? 10 ds).map (·, (Text.skipBlank cs).drop ds.length)

/-- One given character, after white space. -/
def readMark (mark : Char) (cs : List Char) : Option (List Char) :=
  match Text.skipBlank cs with
  | c :: rest => if c = mark then some rest else none
  | [] => none

/-- A year: four digits at most, or any number of them after a sign. -/
def readYear (cs : List Char) : Option (Int × List Char) :=
  match Text.skipBlank cs with
  | '-' :: rest => if rest.head?.any Char.isDigit then
      (readNumber rest.length rest).map fun (n, rest) => (-(n : Int), rest) else none
  | '+' :: rest => if rest.head?.any Char.isDigit then
      (readNumber rest.length rest).map fun (n, rest) => ((n : Int), rest) else none
  | rest => (readNumber 4 rest).map fun (n, rest) => ((n : Int), rest)

/-- The part of a second after its point, in nanoseconds; further digits are passed over. -/
def readFraction : List Char → Option (Nat × List Char)
  | '.' :: rest =>
    let ds := (rest.take 9).takeWhile Char.isDigit
    (Text.digits? 10 ds).map fun n =>
      (n * Nat.pow 10 (9 - ds.length), (rest.drop ds.length).dropWhile Char.isDigit)
  | cs => some (0, cs)

def readPair : List Char → Option (Nat × List Char)
  | a :: b :: rest => if a.isDigit && b.isDigit then (Text.digits? 10 [a, b]).map (·, rest) else none
  | _ => none

def readOffset (cs : List Char) : Option (Int × List Char) :=
  let signed (negative : Bool) (rest : List Char) : Option (Int × List Char) := do
    let (hours, rest) ← readPair rest
    let (minutes, rest) ← readPair (rest.dropWhile fun c => c == ':' || Text.isBlank c)
    if 24 ≤ hours ∨ 60 ≤ minutes then none
    else
      let all : Int := hours * 60 + minutes
      some (if negative then -all else all, rest)
  match cs with
  | 'Z' :: rest | 'z' :: rest => some (0, rest)
  | '+' :: rest => signed false rest
  | '-' :: rest | '\u2212' :: rest => signed true rest
  | a :: b :: c :: rest => if [a, b, c].map Char.toUpper = ['U', 'T', 'C'] then some (0, rest) else none
  | _ => none

/-- The time that a text gives; none if it gives none or a date or hour that does not exist. -/
def ofText? (s : String) : Option Time := do
  let (year, cs) ← readYear s.toList
  let (month, cs) ← readNumber 2 (← readMark '-' cs)
  let (day, cs) ← readNumber 2 (← readMark '-' cs)
  let cs ← match cs with
    | 'T' :: rest | 't' :: rest | ' ' :: rest => some rest
    | _ => none
  let (hour, cs) ← readNumber 2 cs
  let (minute, cs) ← readNumber 2 (← readMark ':' cs)
  let (second, cs) ← readNumber 2 (← readMark ':' cs)
  let (nanosecond, cs) ← readFraction cs
  let (offset, cs) ← readOffset (Text.skipBlank cs)
  if !(Text.skipBlank cs).isEmpty || day = 0 || daysInMonth year month < day || 23 < hour
      || 59 < minute || 60 < second then none
  else
    some ⟨(dayNumber year month day * 24 + hour) * 60 + minute - offset, second, nanosecond⟩

def padded (width n : Nat) : String :=
  let digits := Nat.repr n
  String.ofList (List.replicate (width - digits.length) '0') ++ digits

/-- A year: four digits, with a sign outside the years that need no more. -/
def yearText (year : Int) : String :=
  if 0 ≤ year ∧ year ≤ 9999 then padded 4 year.toNat
  else (if year < 0 then "-" else "+") ++ padded 4 year.natAbs

/-- The time to the second, and to the microsecond on demand. -/
def text (t : Time) (micro : Bool) : String :=
  let (year, month, day) := dateOf (t.minute / 1440)
  let inDay := (t.minute % 1440).toNat
  let fraction := if micro then "." ++ padded 6 (t.nanosecond / 1000) else ""
  yearText year ++ "-" ++ padded 2 month ++ "-" ++ padded 2 day ++ "T" ++ padded 2 (inDay / 60)
    ++ ":" ++ padded 2 (inDay % 60) ++ ":" ++ padded 2 t.second ++ fraction ++ "Z"

end Time

end Rollback
