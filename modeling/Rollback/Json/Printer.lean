import Rollback.Json.Basic
import Rollback.Decimal.Shortest

/-! The two ways of writing a JSON document: on one line without blanks, and indented with one item
or member a line. -/
namespace Rollback.Json

def hexDigit (n : Nat) : Char := (Nat.toDigits 16 (n % 16)).headD '0'

/-- The form of a character inside a string: only the quote, the backslash and control characters
are written with a backslash. -/
def escapeChar (c : Char) : List Char :=
  match c with
  | '"' => ['\\', '"']
  | '\\' => ['\\', '\\']
  | '\x08' => ['\\', 'b']
  | '\x0c' => ['\\', 'f']
  | '\n' => ['\\', 'n']
  | '\r' => ['\\', 'r']
  | '\t' => ['\\', 't']
  | c => if c.toNat < 32 then ['\\', 'u', '0', '0', hexDigit (c.toNat / 16), hexDigit c.toNat]
    else [c]

def stringChars (s : String) : List Char := '"' :: s.toList.flatMap escapeChar ++ ['"']

def scalarChars : Json → List Char
  | .null => "null".toList
  | .bool true => "true".toList
  | .bool false => "false".toList
  | .integer n => (toString n).toList
  | .float x => x.text.toList
  | .string s => stringChars s
  | .array _ => "[]".toList
  | .object _ => "\x7b\x7d".toList

mutual

def compactChars : Json → List Char
  | .array items => '[' :: compactItems true items ++ [']']
  | .object members => '{' :: compactMembers true members ++ ['}']
  | v => scalarChars v

def compactItems (first : Bool) : List Json → List Char
  | [] => []
  | v :: rest => (if first then [] else [',']) ++ compactChars v ++ compactItems false rest

def compactMembers (first : Bool) : List (String × Json) → List Char
  | [] => []
  | (k, v) :: rest =>
    (if first then [] else [',']) ++ stringChars k ++ ':' :: compactChars v
      ++ compactMembers false rest

end

def newLine (depth : Nat) : List Char := '\n' :: List.replicate (2 * depth) ' '

mutual

def prettyChars (depth : Nat) : Json → List Char
  | .array (v :: rest) =>
    '[' :: newLine (depth + 1) ++ prettyChars (depth + 1) v ++ prettyItems (depth + 1) rest
      ++ newLine depth ++ [']']
  | .object ((k, v) :: rest) =>
    '{' :: newLine (depth + 1) ++ stringChars k ++ ':' :: ' ' :: prettyChars (depth + 1) v
      ++ prettyMembers (depth + 1) rest ++ newLine depth ++ ['}']
  | v => scalarChars v

def prettyItems (depth : Nat) : List Json → List Char
  | [] => []
  | v :: rest => ',' :: newLine depth ++ prettyChars depth v ++ prettyItems depth rest

def prettyMembers (depth : Nat) : List (String × Json) → List Char
  | [] => []
  | (k, v) :: rest =>
    ',' :: newLine depth ++ stringChars k ++ ':' :: ' ' :: prettyChars depth v
      ++ prettyMembers depth rest

end

def compact (v : Json) : String := String.ofList v.compactChars

def pretty (v : Json) : String := String.ofList (prettyChars 0 v)

end Rollback.Json
