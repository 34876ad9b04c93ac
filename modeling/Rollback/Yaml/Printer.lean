import Rollback.Decimal.Shortest
import Rollback.Json.Basic
import Rollback.Yaml.Style

/-! The block form of a document: one item or member a line, two columns deeper at each level, the
items of a member not deeper than its key. -/
namespace Rollback.Yaml

/-- What has been written (the last character first) and where the next character goes. -/
structure Pen where
  written : List Char
  column : Nat
  /-- Nothing or a blank stands before the next character. -/
  afterBlank : Bool
  /-- Only indentation and its marks stand before it on the line. -/
  atIndent : Bool

namespace Pen

def start : Pen := ⟨[], 0, true, true⟩

def put (p : Pen) (c : Char) : Pen := { p with written := c :: p.written, column := p.column + 1 }

def putAll (p : Pen) (cs : List Char) : Pen := cs.foldl put p

def newLine (p : Pen) : Pen := { p with written := '\n' :: p.written, column := 0 }

/-- Writes a line end of the text itself. -/
def putBreak (p : Pen) (c : Char) : Pen := { p with written := c :: p.written, column := 0 }

/-- Goes to a column, on a new line unless only indentation up to it has been written. -/
def indentTo (p : Pen) (column : Nat) : Pen :=
  let p := if !p.atIndent || column < p.column || (p.column == column && !p.afterBlank)
    then p.newLine else p
  { p.putAll (List.replicate (column - p.column) ' ') with afterBlank := true, atIndent := true }

/-- Writes a mark, after a blank if one is needed. `blank` tells whether it counts as one, `indent`
whether it counts as indentation. -/
def mark (p : Pen) (cs : List Char) (spaced blank indent : Bool) : Pen :=
  let p := if spaced && !p.afterBlank then p.put ' ' else p
  { p.putAll cs with afterBlank := blank, atIndent := p.atIndent && indent }

def plain (p : Pen) (cs : List Char) : Pen :=
  let p := if p.afterBlank then p else p.put ' '
  { p.putAll cs with afterBlank := false, atIndent := false }

/-- The lines of a text with its own line ends, each line at the column. `broken` tells that the last
character was a line end, `quote` which character is written twice. -/
def lines (column : Nat) (quote : Option Char) (broken : Bool) (p : Pen) : List Char → Pen × Bool
  | [] => (p, broken)
  | c :: rest =>
    if isBreak c then
      lines column quote true { p.putBreak c with atIndent := true } rest
    else
      let p := if broken then p.indentTo column else p
      let p := if quote = some c then p.put c else p
      lines column quote false { p.put c with atIndent := false } rest

def single (p : Pen) (column : Nat) (cs : List Char) : Pen :=
  let (p, broken) := lines column (some '\x27') false (p.mark ['\x27'] true false false) cs
  let p := if broken then p.indentTo column else p
  p.mark ['\x27'] false false false

def shortEscapes : List (Char × Char) :=
  [('\x00', '0'), ('\x07', 'a'), ('\x08', 'b'), ('\t', 't'), ('\n', 'n'), ('\x0b', 'v'),
    ('\x0c', 'f'), ('\r', 'r'), ('\x1b', 'e'), ('"', '"'), ('\\', '\\'), ('\u0085', 'N'),
    ('\u2028', 'L'), ('\u2029', 'P')]

def hexDigits (width n : Nat) : List Char :=
  let digits := (Nat.toDigits 16 n).map Char.toUpper
  List.replicate (width - digits.length) '0' ++ digits

def escaped (c : Char) : List Char :=
  match shortEscapes.lookup c with
  | some letter => ['\\', letter]
  | none =>
    if isPrintable c then [c]
    else if c.toNat ≤ 0xFF then '\\' :: 'x' :: hexDigits 2 c.toNat
    else if c.toNat ≤ 0xFFFF then '\\' :: 'u' :: hexDigits 4 c.toNat
    else '\\' :: 'U' :: hexDigits 8 c.toNat

def double (p : Pen) (cs : List Char) : Pen :=
  (p.mark ('"' :: cs.flatMap escaped ++ ['"']) true false false)

/-- The marks after the bar of a literal block: the depth when the text begins with a blank, and what
becomes of the line ends at its end. -/
def blockHints (cs : List Char) : List Char :=
  let depth := if cs.head?.any fun c => isSpace c || isBreak c then ['2'] else []
  let chomp := match cs.reverse with
    | [] => ['-']
    | last :: before =>
      if !isBreak last then ['-']
      else
        match before with
        | [] => ['+']
        | c :: _ => if isBreak c then ['+'] else []
  depth ++ chomp

def literal (p : Pen) (column : Nat) (cs : List Char) : Pen :=
  let p := p.mark ('|' :: blockHints cs) true false false
  (lines column none true { p.newLine with afterBlank := true, atIndent := true } cs).1

def text (p : Pen) (column : Nat) (style : Style) (cs : List Char) : Pen :=
  match style with
  | .plain => p.plain cs
  | .single => p.single column cs
  | .double => p.double cs
  | .literal => p.literal column cs

end Pen

/-- The column two deeper than the given one; at the root there is none yet. -/
def deeper (column? : Option Nat) : Nat :=
  match column? with
  | none => 2
  | some column => column + 2

/-- The column of the items or members of a block. -/
def blockColumn (column? : Option Nat) (sameColumn : Bool) : Nat :=
  match column? with
  | none => 0
  | some column => if sameColumn then column else column + 2

/-- The longest key, in octets, that stands on one line with its value. -/
def maxSimpleKey : Nat := 128

def isSimpleKey (key : String) : Bool := !hasBreak key.toList && key.utf8ByteSize ≤ maxSimpleKey

/-- A number, a truth value or null; the brackets of an empty array or object. -/
def scalarText : Json → List Char
  | .null => "null".toList
  | .bool true => "true".toList
  | .bool false => "false".toList
  | .integer n => (toString n).toList
  | .float x => x.text.toList
  | _ => []

mutual

/-- Writes a value below the given column. `inMember` tells that it belongs to a member. -/
def write (column? : Option Nat) (inMember : Bool) (p : Pen) : Json → Pen
  | .string s => p.text (deeper column?) (styleOf s) s.toList
  | .array [] => (p.mark ['['] true true false).mark [']'] false false false
  | .object [] => (p.mark ['{'] true true false).mark ['}'] false false false
  | .array (v :: rest) =>
    writeItems (blockColumn column? (inMember && !p.atIndent)) p (v :: rest)
  | .object (m :: rest) => writeMembers (blockColumn column? false) p (m :: rest)
  | v => p.plain (scalarText v)

def writeItems (column : Nat) (p : Pen) : List Json → Pen
  | [] => p
  | v :: rest =>
    let p := (p.indentTo column).mark ['-'] true false true
    writeItems column (write (some column) false p v) rest

def writeMembers (column : Nat) (p : Pen) : List (String × Json) → Pen
  | [] => p
  | (key, v) :: rest =>
    let p := p.indentTo column
    let p :=
      if isSimpleKey key then
        (p.text (column + 2) (styleOf key) key.toList).mark [':'] false false false
      else
        let p := (p.mark ['?'] true false true).text (column + 2) (styleOf key) key.toList
        (p.indentTo column).mark [':'] true false true
    writeMembers column (write (some column) true p v) rest

end

def render (v : Json) : String :=
  String.ofList ((write none false .start v).indentTo 0).written.reverse

end Rollback.Yaml
