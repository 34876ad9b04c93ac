import Rollback.Yaml.Characters
import Rollback.Yaml.Plain

/-! How a text is written: plain, between single or double quotes, or as a literal block. The plain
form is chosen where it reads back as the same text, and the others where it would not. -/
namespace Rollback.Yaml

inductive Style where
  | plain
  | single
  | double
  | literal
  deriving DecidableEq, Repr, Inhabited

/-- The characters that no plain text begins with. -/
def openers : List Char :=
  ['#', ',', '[', ']', '{', '}', '&', '*', '!', '|', '>', '\x27', '"', '%', '@', '\x60']

/-- Whether the text after `before` holds a colon at the end of a word or a hash at the start of
one. -/
def hasInnerMark (before : Char) : List Char → Bool
  | [] => false
  | c :: rest =>
    (c == ':' && wordEndsAt rest) || (c == '#' && endsWord before) || hasInnerMark c rest

def hasMarks (cs : List Char) : Bool :=
  match cs with
  | [] => false
  | c :: rest =>
    ['-', '-', '-'].isPrefixOf cs || ['.', '.', '.'].isPrefixOf cs || openers.contains c
      || ((c == '?' || c == ':' || c == '-') && wordEndsAt rest) || hasInnerMark c rest

/-- Whether one character with the first property is followed by one with the second. -/
def hasPair (p q : Char → Bool) : List Char → Bool
  | a :: b :: rest => (p a && q b) || hasPair p q (b :: rest)
  | _ => false

def isSpace (c : Char) : Bool := c == ' '

def hasBreak (cs : List Char) : Bool := cs.any isBreak

def hasBareEdge (cs : List Char) : Bool :=
  let bare (c : Char) := isSpace c || isBreak c
  cs.head?.any bare || cs.getLast?.any bare

/-- Only double quotes keep a space before a line end and characters that need an escape. -/
def needsEscapes (cs : List Char) : Bool :=
  hasPair isSpace isBreak cs || cs.any fun c => !isPrintable c

def plainAllowed (cs : List Char) : Bool :=
  !hasBareEdge cs && !hasBreak cs && !needsEscapes cs && !hasMarks cs

def singleAllowed (cs : List Char) : Bool := !hasPair isBreak isSpace cs && !needsEscapes cs

def literalAllowed (cs : List Char) : Bool :=
  !cs.getLast?.any isSpace && !needsEscapes cs

/-- The way of writing a text. A text with a line feed asks for a literal block; one that would read
as something else, or looks like a number, for single quotes. -/
def styleOf (s : String) : Style :=
  let cs := s.toList
  let quoted : Style := if cs.isEmpty || singleAllowed cs then .single else .double
  if cs.contains '\n' then if literalAllowed cs then .literal else .double
  else if resolve s ≠ .text ∨ hasLeadingZero cs then quoted
  else if plainAllowed cs then .plain
  else quoted

end Rollback.Yaml
