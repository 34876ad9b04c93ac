import Rollback.Text.Numeral

/-! The order in which the versions of a group are preferred: stable ones first, then beta, then alpha
versions, each kind with the highest numbers first; texts that are no versions come last, in
alphabetical order. -/
namespace Rollback

/-- How finished a version is. -/
inductive Stability where
  | other
  | alpha
  | beta
  | stable
  deriving DecidableEq, Repr

def Stability.rank : Stability → Nat
  | .other => 0
  | .alpha => 1
  | .beta => 2
  | .stable => 3

structure ApiVersion where
  stability : Stability
  major : Nat
  /-- The number after the word, if there is one. -/
  minor? : Option Nat
  /-- The text of what is no version. -/
  text : String
  deriving DecidableEq, Repr

namespace ApiVersion

def maxNat32 : Nat := Nat.pow 2 32 - 1

/-- The version with a word and an optional number after the first number. -/
def ofSuffix? (major : Nat) (stability : Stability) (number : List Char) : Option ApiVersion :=
  if number.isEmpty then some ⟨stability, major, none, ""⟩
  else (Text.natural? 10 maxNat32 number).map fun minor => ⟨stability, major, some minor, ""⟩

/-- A version such as `v1`, `v2beta1` or `v1alpha`. -/
def ofChars? : List Char → Option ApiVersion
  | 'v' :: rest =>
    let (ds, suffix) := rest.span Char.isDigit
    (Text.natural? 10 maxNat32 ds).bind fun major =>
      match suffix with
      | [] => some ⟨.stable, major, none, ""⟩
      | 'a' :: 'l' :: 'p' :: 'h' :: 'a' :: number => ofSuffix? major .alpha number
      | 'b' :: 'e' :: 't' :: 'a' :: number => ofSuffix? major .beta number
      | _ => none
  | _ => none

/-- The version that a text names; any other text is one of its own. -/
def ofText (s : String) : ApiVersion := (ofChars? s.toList).getD ⟨.other, 0, none, s⟩

/-- Whether a missing number or a lower one comes first. -/
def minorLe : Option Nat → Option Nat → Bool
  | none, _ => true
  | some _, none => false
  | some a, some b => a ≤ b

def atLeast (a b : ApiVersion) : Bool :=
  if a.stability.rank ≠ b.stability.rank then b.stability.rank < a.stability.rank
  else if a.major ≠ b.major then b.major < a.major
  else if a.minor? ≠ b.minor? then minorLe b.minor? a.minor?
  else a.text ≤ b.text

end ApiVersion

end Rollback
