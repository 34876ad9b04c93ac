/-! The kinds of characters that the layout of a document depends on. -/
namespace Rollback.Yaml

/-- A line feed, a carriage return or one of the three line ends outside ASCII. -/
def isBreak (c : Char) : Bool :=
  c == '\n' || c == '\r' || c == '\u0085' || c == '\u2028' || c == '\u2029'

/-- A space, a tab or the end of a line or text. -/
def endsWord (c : Char) : Bool := c == ' ' || c == '\t' || c == '\x00' || isBreak c

/-- Whether a character can stand in a text without an escape. -/
def isPrintable (c : Char) : Bool :=
  let n := c.toNat
  n == 0x0A || (0x20 ≤ n && n ≤ 0x7E) || (0xA0 ≤ n && n ≤ 0xD7FF)
    || (0xE000 ≤ n && n ≤ 0xFFFD && n != 0xFEFF) || 0x10000 ≤ n

def wordEndsAt : List Char → Bool
  | [] => true
  | c :: _ => endsWord c

def isAllowed (c : Char) : Bool :=
  let n := c.toNat
  n == 0x09 || n == 0x0A || n == 0x0D || (0x20 ≤ n && n ≤ 0x7E) || n == 0x85
    || (0xA0 ≤ n && n ≤ 0xD7FF) || (0xE000 ≤ n && n ≤ 0xFFFD) || 0x10000 ≤ n

/-- A space or a tab. -/
def isGap (c : Char) : Bool := c == ' ' || c == '\t'

/-- A letter, a digit, a hyphen or a low line, all of ASCII. -/
def isNameChar (c : Char) : Bool := c.isAlphanum || c == '_' || c == '-'

/-- What a line end becomes inside a text: most are written as a line feed. -/
def lineEndChar (c : Char) : Char := if c == '\u2028' || c == '\u2029' then c else '\n'

/-- A line end at the start of the characters: what it becomes, how many characters it takes, and
what follows. -/
def lineEnd? : List Char → Option (Char × Nat × List Char)
  | '\r' :: '\n' :: rest => some ('\n', 2, rest)
  | c :: rest => if isBreak c then some (lineEndChar c, 1, rest) else none
  | [] => none

/-- Whether a line begins with the mark between documents or the one after a document. -/
def atDocumentMark : List Char → Bool
  | '-' :: '-' :: '-' :: rest => wordEndsAt rest
  | '.' :: '.' :: '.' :: rest => wordEndsAt rest
  | _ => false

/-- A place in a text: how many characters stand before it, how many lines, and how many characters
of its line. -/
structure Mark where
  index : Nat
  line : Nat
  column : Nat
  deriving DecidableEq, Repr, Inhabited

namespace Mark

def start : Mark := ⟨0, 0, 0⟩

/-- Some characters further on in the line. -/
def next (m : Mark) (count : Nat) : Mark := ⟨m.index + count, m.line, m.column + count⟩

/-- After a line end of some characters. -/
def nextLine (m : Mark) (count : Nat) : Mark := ⟨m.index + count, m.line + 1, 0⟩

end Mark

/-- A place in a text with what follows it. -/
structure Cursor where
  mark : Mark
  rest : List Char
  deriving Repr, Inhabited

namespace Cursor

def next (c : Cursor) (count : Nat) : Cursor := ⟨c.mark.next count, c.rest.drop count⟩

def skipWhile (c : Cursor) (p : Char → Bool) : Cursor :=
  go c.mark c.rest
where
  go (m : Mark) : List Char → Cursor
    | [] => ⟨m, []⟩
    | x :: rest => if p x then go (m.next 1) rest else ⟨m, x :: rest⟩

/-- The characters from here on that have a property, and the place after them. -/
def takeWhile (c : Cursor) (p : Char → Bool) : List Char × Cursor :=
  let taken := c.rest.takeWhile p
  (taken, c.next taken.length)

def peek (c : Cursor) : Option Char := c.rest.head?

def endsWord (c : Cursor) : Bool := wordEndsAt c.rest

end Cursor

end Rollback.Yaml
