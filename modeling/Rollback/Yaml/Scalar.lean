import Rollback.Text.Numeral
import Rollback.Yaml.Characters

/-! What can be wrong with a document, and reading scalars: plain ones, quoted ones and blocks. Line ends
inside plain and quoted scalars are folded: a single one becomes a space, of several the first is dropped.
The functions work through the text character by character; `fuel` bounds them by the length of the text. -/
namespace Rollback.Yaml

inductive Fault where
  /-- A character that no document may hold. -/
  | character
  /-- A tab where the depth of a line is told by spaces. -/
  | tab
  /-- A key without its colon. -/
  | key
  /-- An entry where none may begin. -/
  | entry
  /-- A character that begins nothing. -/
  | start
  /-- A scalar without its end, or with a wrong escape or head. -/
  | scalar
  | directive
  | tag
  | anchor
  /-- Something else than what has to follow. -/
  | order
  /-- Too many collections inside each other. -/
  | depth
  /-- Too many uses of anchors. -/
  | repetition
  /-- A value that its tag does not allow. -/
  | value
  | duplicateKey
  deriving DecidableEq, Repr, Inhabited

/-- The one wording for all faults of a document. -/
def Fault.message (_ : Fault) : String := "<yaml error>"

namespace Scalar

/-- The blanks and line ends since the last character of a scalar, the last of them first. -/
structure Gap where
  blanks : List Char
  /-- The first line end (none if it was escaped) and those after it. -/
  ends? : Option (Option Char × List Char)

namespace Gap

def empty : Gap := ⟨[], none⟩

def escaped : Gap := ⟨[], some (none, [])⟩

def isEmpty (g : Gap) : Bool := g.blanks.isEmpty && g.ends?.isNone

/-- A blank only counts before the first line end. -/
def withBlank (g : Gap) (c : Char) : Gap :=
  if g.ends?.isSome then g else { g with blanks := c :: g.blanks }

def withEnd (g : Gap) (c : Char) : Gap :=
  match g.ends? with
  | none => ⟨[], some (some c, [])⟩
  | some (first, later) => ⟨[], some (first, c :: later)⟩

/-- What the gap becomes in the scalar, the last character first. -/
def folded (g : Gap) : List Char :=
  match g.ends? with
  | none => g.blanks
  | some (none, later) => later
  | some (some first, later) =>
    if first != '\n' then later ++ [first]
    else if later.isEmpty then [' ']
    else later

end Gap

structure Scanned where
  text : List Char
  /-- Whether a line ended after its last character. -/
  lineEnded : Bool
  after : Cursor

/-- The characters that end a plain scalar inside brackets. -/
def flowMarks : List Char := [',', '[', ']', '{', '}']

/-- A plain scalar that ends here, of the characters `text` (the last first). -/
def plainEnd (text : List Char) (gap : Gap) (m : Mark) (cs : List Char) : Scanned :=
  ⟨text.reverse, gap.ends?.isSome, ⟨m, cs⟩⟩

/-- Reads a plain scalar after the characters `text` (the last first). Outside brackets it goes on in
lines that begin at the column `least` or later. -/
def plainFrom (flow : Bool) (least : Int) : Nat → List Char → Gap → Mark → List Char →
    Except Fault Scanned
  | 0, _, _, _, _ => .error .scalar
  | fuel + 1, text, gap, m, cs =>
    match cs with
    | [] => .ok (plainEnd text gap m cs)
    | c :: rest =>
      if isGap c then
        if c == '\t' && gap.ends?.isSome && decide ((m.column : Int) < least) then .error .tab
        else plainFrom flow least fuel text (gap.withBlank c) (m.next 1) rest
      else
        match lineEnd? cs with
        | some (e, n, rest) => plainFrom flow least fuel text (gap.withEnd e) (m.nextLine n) rest
        | none =>
          if !gap.isEmpty && ((!flow && decide ((m.column : Int) < least))
              || (m.column == 0 && atDocumentMark cs) || c == '#') then .ok (plainEnd text gap m cs)
          else if flow && c == ':' && rest.head?.any fun d => d == '?' || flowMarks.contains d then
            .error .scalar
          else if (c == ':' && wordEndsAt rest) || (flow && flowMarks.contains c) then
            .ok (plainEnd text gap m cs)
          else plainFrom flow least fuel (c :: gap.folded ++ text) .empty (m.next 1) rest

/-- The characters that a letter after a backslash stands for. -/
def escapes : List (Char × Char) :=
  [('0', '\x00'), ('a', '\x07'), ('b', '\x08'), ('t', '\t'), ('\t', '\t'), ('n', '\n'), ('v', '\x0b'),
    ('f', '\x0c'), ('r', '\r'), ('e', '\x1b'), (' ', ' '), ('"', '"'), ('/', '/'), ('\\', '\\'),
    ('N', '\u0085'), ('_', '\u00a0'), ('L', '\u2028'), ('P', '\u2029')]

/-- How many digits follow a letter after a backslash that announces a code point. -/
def codeLength : Char → Option Nat
  | 'x' => some 2
  | 'u' => some 4
  | 'U' => some 8
  | _ => none

/-- The character of an escape after its backslash, and how many characters the escape takes. -/
def escape? : List Char → Option (Char × Nat)
  | [] => none
  | c :: rest =>
    match escapes.lookup c with
    | some e => some (e, 1)
    | none =>
      match codeLength c with
      | none => none
      | some n =>
        let ds := rest.take n
        if ds.length < n then none
        else
          match Text.digits? 16 ds with
          | some code => if code.isValidChar then some (Char.ofNat code, n + 1) else none
          | none => none

/-- Reads a quoted scalar up to its closing quote, after the characters `text` (the last first). -/
def quotedFrom (quote : Char) : Nat → List Char → Gap → Mark → List Char → Except Fault Scanned
  | 0, _, _, _, _ => .error .scalar
  | fuel + 1, text, gap, m, cs =>
    match cs with
    | [] => .error .scalar
    | c :: rest =>
      if isGap c then quotedFrom quote fuel text (gap.withBlank c) (m.next 1) rest
      else
        match lineEnd? cs with
        | some (e, n, rest) => quotedFrom quote fuel text (gap.withEnd e) (m.nextLine n) rest
        | none =>
          let joined := gap.folded ++ text
          if m.column == 0 && atDocumentMark cs then .error .scalar
          else if c == quote then
            if quote == '\x27' && rest.head? == some quote then
              quotedFrom quote fuel (c :: joined) .empty (m.next 2) (rest.drop 1)
            else .ok ⟨joined.reverse, false, ⟨m.next 1, rest⟩⟩
          else if quote == '"' && c == '\\' then
            match lineEnd? rest with
            | some (_, n, rest) => quotedFrom quote fuel joined .escaped (m.nextLine (n + 1)) rest
            | none =>
              match escape? rest with
              | some (e, n) => quotedFrom quote fuel (e :: joined) .empty (m.next (n + 1)) (rest.drop n)
              | none => .error .scalar
          else quotedFrom quote fuel (c :: joined) .empty (m.next 1) rest

/-- What becomes of the line ends at the end of a block. -/
inductive Chomp where
  | strip
  | clip
  | keep
  deriving DecidableEq, Repr

/-- The marks after the bar or angle of a block: what becomes of the line ends at its end, how much
deeper than its surroundings it stands (zero if its first line tells), and the place after them. -/
def blockHead (c : Cursor) : Except Fault (Chomp × Nat × Cursor) :=
  let chomp? (c : Cursor) : Option (Chomp × Cursor) :=
    match c.peek with
    | some '+' => some (.keep, c.next 1)
    | some '-' => some (.strip, c.next 1)
    | _ => none
  let depth (c : Cursor) : Except Fault (Nat × Cursor) :=
    match c.peek with
    | some d =>
      if !d.isDigit then .ok (0, c)
      else if d == '0' then .error .scalar
      else .ok (d.toNat - '0'.toNat, c.next 1)
    | none => .ok (0, c)
  match chomp? c with
  | some (chomp, c) => (depth c).map fun (n, c) => (chomp, n, c)
  | none => (depth c).map fun (n, c) =>
    match (if n = 0 then none else chomp? c) with
    | some (chomp, c) => (chomp, n, c)
    | none => (.clip, n, c)

/-- Skips the rest of a line that may hold blanks and a comment only, with its end. -/
def skipLine (fault : Fault) (c : Cursor) : Except Fault Cursor :=
  let c := c.skipWhile isGap
  let c := if c.peek == some '#' then c.skipWhile fun x => !isBreak x else c
  match lineEnd? c.rest with
  | some (_, n, rest) => .ok ⟨c.mark.nextLine n, rest⟩
  | none => if c.rest.isEmpty then .ok c else .error fault

/-- Empty lines before the text of a block's line. -/
structure Margin where
  /-- Their line ends, the last first. -/
  ends : List Char
  /-- The deepest column of their indentation. -/
  deepest : Nat
  after : Cursor

/-- Skips indentation and empty lines. `depth` is the column of the block's text, zero as long as it
is not known. -/
def margin (depth : Nat) (deepest : Nat) (ends : List Char) : Nat → Mark → List Char →
    Except Fault Margin
  | 0, _, _ => .error .scalar
  | fuel + 1, m, cs =>
    let inside := depth == 0 || m.column < depth
    if inside && cs.head? == some ' ' then margin depth deepest ends fuel (m.next 1) (cs.drop 1)
    else
      let deepest := max deepest m.column
      if inside && cs.head? == some '\t' then .error .tab
      else
        match lineEnd? cs with
        | some (e, n, rest) => margin depth deepest (e :: ends) fuel (m.nextLine n) rest
        | none => .ok ⟨ends, deepest, ⟨m, cs⟩⟩

/-- What has been read of a block: its characters, and the line ends after them, all with the last
first. -/
structure Block where
  text : List Char
  /-- The line end of the last line of text. -/
  lineEnd : List Char
  /-- The line ends of empty lines after it. -/
  emptyEnds : List Char
  /-- Whether the last line of text began with a blank. -/
  indented : Bool

/-- The characters of a block with the line ends that come before one more line of text. A single
line end between two lines that begin with no blank becomes a space in a folded block. -/
def Block.joined (b : Block) (folded indented : Bool) : List Char :=
  if folded && b.lineEnd == ['\n'] && !b.indented && !indented then
    b.emptyEnds ++ (if b.emptyEnds.isEmpty then [' '] else []) ++ b.text
  else b.emptyEnds ++ b.lineEnd ++ b.text

/-- Reads the lines of a block whose text stands at the column `depth`. -/
def blockLines (folded : Bool) (depth : Nat) : Nat → Block → Cursor → Except Fault (Block × Cursor)
  | 0, _, _ => .error .scalar
  | fuel + 1, b, c =>
    match c.peek with
    | none => .ok (b, c)
    | some first =>
      if c.mark.column != depth then .ok (b, c)
      else
        let indented := isGap first
        let (line, c) := c.takeWhile fun x => !isBreak x
        let text := line.reverse ++ b.joined folded indented
        let (lineEnd, c) : List Char × Cursor := match lineEnd? c.rest with
          | some (e, n, rest) => ([e], ⟨c.mark.nextLine n, rest⟩)
          | none => ([], c)
        match margin depth 0 [] fuel c.mark c.rest with
        | .error fault => .error fault
        | .ok around => blockLines folded depth fuel ⟨text, lineEnd, around.ends, indented⟩ around.after

/-- Reads a block after its bar or angle; `indent` is the column of the collection around it, -1 at
the root. -/
def block (folded : Bool) (indent : Int) (c : Cursor) : Except Fault Scanned := do
  let (chomp, deeper, c) ← blockHead c
  let c ← skipLine .scalar c
  let fuel := c.rest.length + 1
  let known := if deeper = 0 then 0 else (max indent 0).toNat + deeper
  let around ← margin known 0 [] fuel c.mark c.rest
  let depth := if known = 0 then max (max around.deepest (indent + 1).toNat) 1 else known
  let (b, c) ← blockLines folded depth fuel ⟨[], [], around.ends, false⟩ around.after
  let text := match chomp with
    | .strip => b.text
    | .clip => b.lineEnd ++ b.text
    | .keep => b.emptyEnds ++ b.lineEnd ++ b.text
  pure ⟨text.reverse, false, c⟩

end Scalar

end Rollback.Yaml
