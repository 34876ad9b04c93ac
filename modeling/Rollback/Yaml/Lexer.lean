import Rollback.Yaml.Token

/-! Cutting a document into tokens. Depth is told by columns outside brackets: a deeper entry or key
opens a block, and a line that begins further left closes those to its right. Whether a scalar is a
key shows only at the colon after it, so every token that could begin a key is kept back until then;
it stops being one at the end of its line or after a thousand characters.

Tokens are read one at a time, and a fault is noticed when its token is asked for. -/
namespace Rollback.Yaml

/-- A token that may turn out to begin a key. -/
structure OpenKey where
  /-- Whether nothing but a key may stand there. -/
  required : Bool
  /-- How many tokens come before it. -/
  number : Nat
  mark : Mark

/-- A text of which some tokens have been read. -/
structure Lexer where
  cursor : Cursor
  /-- The tokens that have been read and not yet taken. -/
  queue : List Token
  /-- How many tokens have been taken. -/
  taken : Nat
  /-- The column of the innermost block, -1 outside all blocks. -/
  indent : Int
  /-- The columns of the blocks around it, the innermost first. -/
  outer : List Int
  /-- Whether a key may begin here. -/
  keyAllowed : Bool
  /-- What may begin a key in the innermost brackets. -/
  openKey? : Option OpenKey
  /-- The same for each of the brackets around them, the innermost first. There are as many as
  brackets are open. -/
  around : List (Option OpenKey)
  /-- Where the text is no longer readable. -/
  limit? : Option Nat
  /-- More than the number of characters and of open blocks. -/
  fuel : Nat

def maxKeyLength : Nat := 1024

/-- How many octets of a text are looked at together. -/
def sheetSize : Nat := 16384

/-- The number of characters before the sheet with the first character that no document may hold. A
sheet begins at `start` and has `used` octets before the character with the given index. -/
def readableLimit (start used index : Nat) : List Char → Option Nat
  | [] => none
  | c :: rest =>
    let size := c.utf8Size
    let fits := used + size ≤ sheetSize
    let start := if fits then start else index
    if isAllowed c then readableLimit start (if fits then used + size else size) (index + 1) rest
    else some start

/-- The blanks, comments and line ends before a token. A key may begin after a line end outside
brackets; a tab counts as a blank only where no key may begin. -/
def skipToToken (flow : Bool) (comment keyAllowed : Bool) (m : Mark) : List Char → Bool × Cursor
  | [] => (keyAllowed, ⟨m, []⟩)
  | '\r' :: '\n' :: rest => skipToToken flow false (keyAllowed || !flow) (m.nextLine 2) rest
  | c :: rest =>
    if isBreak c then skipToToken flow false (keyAllowed || !flow) (m.nextLine 1) rest
    else if comment || c == ' ' || (c == '\t' && (flow || !keyAllowed)) then
      skipToToken flow comment keyAllowed (m.next 1) rest
    else if c == '#' then skipToToken flow true keyAllowed (m.next 1) rest
    else (keyAllowed, ⟨m, c :: rest⟩)

namespace Lexer

def ofChars (cs : List Char) : Lexer :=
  { cursor := ⟨.start, cs⟩, queue := [], taken := 0, indent := -1, outer := [], keyAllowed := true,
    openKey? := none, around := [], limit? := readableLimit 0 0 0 cs, fuel := 2 * cs.length + 8 }

/-- Whether the next token stands inside brackets. -/
def inFlow (l : Lexer) : Bool := !l.around.isEmpty

def push (l : Lexer) (t : Token) : Lexer := { l with queue := l.queue ++ [t] }

def nextNumber (l : Lexer) : Nat := l.taken + l.queue.length

def insertAt (l : Lexer) (number : Nat) (t : Token) : Lexer :=
  let before := number - l.taken
  { l with queue := l.queue.take before ++ t :: l.queue.drop before }

/-- Whether it is too late for a token to begin a key. -/
def isStale (m : Mark) (k : OpenKey) : Bool :=
  k.mark.line < m.line || k.mark.index + maxKeyLength < m.index

/-- Gives up a token that is too far back to begin a key. -/
def refresh (m : Mark) (k? : Option OpenKey) : Except Fault (Option OpenKey) :=
  match k? with
  | none => .ok none
  | some k => if !isStale m k then .ok (some k) else if k.required then .error .key else .ok none

/-- Gives up all tokens that are too far back to begin a key. -/
def refreshKeys (l : Lexer) : Except Fault Lexer := do
  let around ← l.around.mapM (refresh l.cursor.mark)
  let openKey? ← refresh l.cursor.mark l.openKey?
  pure { l with openKey? := openKey?, around := around }

/-- Nothing read so far in these brackets begins a key any more. -/
def closeKey (l : Lexer) : Except Fault Lexer :=
  if l.openKey?.any (·.required) then .error .key else .ok { l with openKey? := none }

def saveKey (l : Lexer) : Except Fault Lexer :=
  if !l.keyAllowed then .ok l
  else
    let required := !l.inFlow && l.indent == (l.cursor.mark.column : Int)
    let k : OpenKey := ⟨required, l.nextNumber, l.cursor.mark⟩
    l.closeKey.map fun l => { l with openKey? := some k }

/-- Opens a block at a column unless one is open there already; its token goes before the one with
the number. -/
def openBlock (l : Lexer) (column number : Nat) (t : Token) : Lexer :=
  if l.inFlow || (column : Int) ≤ l.indent then l
  else { l.insertAt number t with indent := column, outer := l.indent :: l.outer }

/-- Closes blocks to the right of a column: the column of the innermost block left and of those
around it, and the number of blocks closed. -/
def closeTo (column indent : Int) (closed : Nat) : List Int → Int × List Int × Nat
  | [] => (indent, [], closed)
  | next :: outer =>
    if column < indent then closeTo column next (closed + 1) outer
    else (indent, next :: outer, closed)

def closeBlocks (l : Lexer) (column : Int) : Lexer :=
  if l.inFlow then l
  else
    let (indent, outer, closed) := closeTo column l.indent 0 l.outer
    { l with indent := indent, outer := outer,
             queue := l.queue ++ List.replicate closed .blockEnd }

def mark (l : Lexer) (t : Token) (count : Nat) : Lexer :=
  { l.push t with cursor := l.cursor.next count }

/-- A token that has been read elsewhere. -/
def accept (l : Lexer) (answer : Except Fault (Token × Cursor)) : Except Fault Lexer :=
  answer.map fun (t, c) => { l.push t with cursor := c }

def readEnd (l : Lexer) : Except Fault Lexer :=
  let m := l.cursor.mark
  let m : Mark := if m.column = 0 then m else ⟨m.index, m.line + 1, 0⟩
  let l := { l with cursor := ⟨m, l.cursor.rest⟩ }
  (l.closeBlocks (-1)).closeKey.map fun l => { l.push .streamEnd with keyAllowed := false }

def readDirective (l : Lexer) : Except Fault Lexer := do
  let l ← (l.closeBlocks (-1)).closeKey
  { l with keyAllowed := false }.accept (Token.readDirective l.fuel l.cursor)

def readDocumentMark (l : Lexer) (t : Token) : Except Fault Lexer :=
  (l.closeBlocks (-1)).closeKey.map fun l => { l with keyAllowed := false }.mark t 3

def readOpening (l : Lexer) (t : Token) : Except Fault Lexer :=
  l.saveKey.map fun l =>
    { l with openKey? := none, around := l.openKey? :: l.around, keyAllowed := true }.mark t 1

def readClosing (l : Lexer) (t : Token) : Except Fault Lexer :=
  l.closeKey.map fun l =>
    let l := match l.around with
      | [] => l
      | k? :: around => { l with openKey? := k?, around := around }
    { l with keyAllowed := false }.mark t 1

def readComma (l : Lexer) : Except Fault Lexer :=
  l.closeKey.map fun l => { l with keyAllowed := true }.mark .flowEntry 1

def readHyphen (l : Lexer) : Except Fault Lexer :=
  if !l.inFlow && !l.keyAllowed then .error .entry
  else
    (l.openBlock l.cursor.mark.column l.nextNumber .blockSequence).closeKey.map fun l =>
      { l with keyAllowed := true }.mark .blockEntry 1

def readQuestion (l : Lexer) : Except Fault Lexer :=
  if !l.inFlow && !l.keyAllowed then .error .entry
  else
    (l.openBlock l.cursor.mark.column l.nextNumber .blockMapping).closeKey.map fun l =>
      { l with keyAllowed := !l.inFlow }.mark .key 1

/-- The colon before a value. It makes a key of the token that could begin one. -/
def readColon (l : Lexer) : Except Fault Lexer :=
  match l.openKey? with
  | some k =>
    let l := (l.insertAt k.number .key).openBlock k.mark.column k.number .blockMapping
    .ok ({ l with openKey? := none, keyAllowed := false }.mark .value 1)
  | none =>
    if !l.inFlow && !l.keyAllowed then .error .entry
    else
      let l := l.openBlock l.cursor.mark.column l.nextNumber .blockMapping
      .ok ({ l with keyAllowed := !l.inFlow }.mark .value 1)

/-- An alias, anchor or tag, which may stand before a key. -/
def readProperty (l : Lexer) (answer : Except Fault (Token × Cursor)) : Except Fault Lexer := do
  let l ← l.saveKey
  { l with keyAllowed := false }.accept answer

def scalarToken (plain : Bool) (s : Scalar.Scanned) : Token × Cursor :=
  (.scalar plain (String.ofList s.text), s.after)

def readQuoted (l : Lexer) (quote : Char) : Except Fault Lexer :=
  let c := l.cursor.next 1
  l.readProperty ((Scalar.quotedFrom quote l.fuel [] .empty c.mark c.rest).map (scalarToken false))

def readBlock (l : Lexer) (folded : Bool) : Except Fault Lexer := do
  let l ← l.closeKey
  let answer := Scalar.block folded l.indent (l.cursor.next 1)
  { l with keyAllowed := true }.accept (answer.map (scalarToken false))

/-- A plain scalar. A key may follow when a line has ended after it. -/
def readPlain (l : Lexer) : Except Fault Lexer := do
  let l ← l.saveKey
  let s ← Scalar.plainFrom l.inFlow (l.indent + 1) l.fuel [] .empty l.cursor.mark l.cursor.rest
  { l with keyAllowed := s.lineEnded }.accept (.ok (scalarToken true s))

/-- The characters that begin no plain scalar. -/
def indicators : List Char :=
  ['-', '?', ':', ',', '[', ']', '{', '}', '#', '&', '*', '!', '|', '>', '\x27', '"', '%', '@', '\x60']

/-- Whether a plain scalar begins with a character before the given ones. -/
def beginsPlain (flow : Bool) (c : Char) (rest : List Char) : Bool :=
  !(endsWord c || indicators.contains c) || (c == '-' && !rest.head?.any isGap)
    || (!flow && (c == '?' || c == ':') && !wordEndsAt rest)

def readToken (l : Lexer) (c : Char) (rest : List Char) : Except Fault Lexer :=
  let flow := l.inFlow
  let lineStart := l.cursor.mark.column = 0
  let spaced := wordEndsAt rest
  if lineStart && c == '%' then l.readDirective
  else if lineStart && atDocumentMark (c :: rest) then
    l.readDocumentMark (if c == '-' then .documentStart else .documentEnd)
  else
    match c with
    | '[' => l.readOpening .sequenceStart
    | '{' => l.readOpening .mappingStart
    | ']' => l.readClosing .sequenceEnd
    | '}' => l.readClosing .mappingEnd
    | ',' => l.readComma
    | '*' => l.readProperty ((Token.name (l.cursor.next 1)).map fun (s, c) => (.alias s, c))
    | '&' => l.readProperty ((Token.name (l.cursor.next 1)).map fun (s, c) => (.anchor s, c))
    | '!' => l.readProperty (Token.readTag flow l.fuel l.cursor)
    | '\x27' => l.readQuoted '\x27'
    | '"' => l.readQuoted '"'
    | _ =>
      if c == '-' && spaced then l.readHyphen
      else if c == '?' && (flow || spaced) then l.readQuestion
      else if c == ':' && (flow || spaced) then l.readColon
      else if c == '|' && !flow then l.readBlock false
      else if c == '>' && !flow then l.readBlock true
      else if beginsPlain flow c rest then l.readPlain
      else .error .start

/-- Whether the text is unreadable within the next characters. -/
def isUnreadable (l : Lexer) (ahead : Nat) : Bool :=
  l.limit?.any fun limit => limit < l.cursor.mark.index + ahead

/-- Reads at least one more token. A byte order mark is skipped at the start of the text. -/
def readMore (l : Lexer) : Except Fault Lexer := do
  if l.isUnreadable 1 then throw .character
  let c := if l.cursor.mark.index = 0 && l.cursor.peek == some '\uFEFF' then l.cursor.next 1
    else l.cursor
  let (keyAllowed, c) := skipToToken l.inFlow false l.keyAllowed c.mark c.rest
  let l ← { l with keyAllowed := keyAllowed, cursor := c }.refreshKeys
  let l := l.closeBlocks c.mark.column
  if l.isUnreadable 4 then throw .character
  let l ← match c.rest with
    | [] => l.readEnd
    | x :: rest => l.readToken x rest
  if l.isUnreadable 1 then throw .character
  pure l

/-- Whether the first token in the queue may still turn out to begin a key. -/
def isPending (l : Lexer) : Bool :=
  (l.openKey? :: l.around).any fun k? => k?.any fun k => k.number == l.taken

/-- Reads tokens until the first one is settled. -/
def fill : Nat → Lexer → Except Fault Lexer
  | 0, _ => .error .start
  | fuel + 1, l => do
    if l.queue.isEmpty then fill fuel (← l.readMore)
    else
      let l ← l.refreshKeys
      if l.isPending then fill fuel (← l.readMore) else pure l

/-- The next token, which stays in the queue. -/
def peek (l : Lexer) : Except Fault (Token × Lexer) := do
  let l ← fill l.fuel l
  match l.queue with
  | t :: _ => pure (t, l)
  | [] => throw .start

def drop (l : Lexer) : Lexer := { l with queue := l.queue.drop 1, taken := l.taken + 1 }

end Lexer

end Rollback.Yaml
