/-! Whole numbers written in digits. A sign is one optional character before them; nothing else
(spaces, separators) is accepted. -/
namespace Rollback.Text

def digitValue (c : Char) : Option Nat :=
  if '0' ≤ c ∧ c ≤ '9' then some (c.toNat - '0'.toNat)
  else if 'a' ≤ c ∧ c ≤ 'f' then some (c.toNat - 'a'.toNat + 10)
  else if 'A' ≤ c ∧ c ≤ 'F' then some (c.toNat - 'A'.toNat + 10)
  else none

def digitIn (base : Nat) (c : Char) : Option Nat := (digitValue c).filter (· < base)

def readDigits (base : Nat) : Nat → List Char → Option Nat
  | value, [] => some value
  | value, c :: cs =>
    match digitIn base c with
    | some d => readDigits base (value * base + d) cs
    | none => none

/-- A number without sign: at least one digit and digits only. -/
def digits? (base : Nat) (cs : List Char) : Option Nat :=
  if cs.isEmpty then none else readDigits base 0 cs

/-- A number of at most `most` with an optional plus sign. -/
def natural? (base most : Nat) (cs : List Char) : Option Nat :=
  let unsigned := match cs with
    | '+' :: rest => rest
    | _ => cs
  (digits? base unsigned).filter (· ≤ most)

/-- A number from `-most - 1` to `most` with an optional sign. -/
def integer? (base most : Nat) (cs : List Char) : Option Int :=
  match cs with
  | '-' :: rest => ((digits? base rest).filter (· ≤ most + 1)).map fun n => -(n : Int)
  | _ => (natural? base most cs).map fun n => (n : Int)

def maxNat16 : Nat := Nat.pow 2 16 - 1

def maxInt32 : Nat := Nat.pow 2 31 - 1

def maxInt64 : Nat := Nat.pow 2 63 - 1

def maxNat64 : Nat := Nat.pow 2 64 - 1

def int64? (s : String) : Option Int := integer? 10 maxInt64 s.toList

def nat64? (s : String) : Option Nat := natural? 10 maxNat64 s.toList

end Rollback.Text
