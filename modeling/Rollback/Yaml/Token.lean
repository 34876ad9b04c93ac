import Rollback.Yaml.Scalar

/-! The smallest parts of a document, and how those that are introduced by a mark of their own are
read: tags, anchors and directives. -/
namespace Rollback.Yaml

inductive Token where
  | streamEnd
  | version (major minor : Nat)
  /-- A short form for the beginning of tags. -/
  | shorthand (name start : String)
  | documentStart
  | documentEnd
  | blockSequence
  | blockMapping
  | blockEnd
  | sequenceStart
  | sequenceEnd
  | mappingStart
  | mappingEnd
  | blockEntry
  | flowEntry
  | key
  | value
  | alias (name : String)
  | anchor (name : String)
  | tag (handle suffix : String)
  | scalar (plain : Bool) (text : String)
  deriving DecidableEq, Repr, Inhabited

namespace Token

def name (c : Cursor) : Except Fault (String × Cursor) :=
  let (chars, c) := c.takeWhile isNameChar
  let ended := c.endsWord || c.peek.any fun x => ['?', ':', ',', ']', '}', '%', '@', '\x60'].contains x
  if chars.isEmpty || !ended then .error .anchor else .ok (String.ofList chars, c)

/-- The characters of a tag besides names. -/
def tagChars : List Char :=
  [';', '/', '?', ':', '@', '&', '=', '+', '$', '.', '!', '~', '*', '\x27', '(', ')']

/-- The characters of a tag between angle brackets besides those of any tag. -/
def verbatimChars : List Char := [',', '[', ']']

/-- The value of an octet written as a percent sign and two digits. -/
def escapedOctet? : List Char → Option (Nat × List Char)
  | '%' :: a :: b :: rest => (Text.digits? 16 [a, b]).map (·, rest)
  | _ => none

/-- How many octets a character has that begins with this one. -/
def octetCount (first : Nat) : Option Nat :=
  if first < 0x80 then some 1
  else if first / 32 = 6 then some 2
  else if first / 16 = 14 then some 3
  else if first / 8 = 30 then some 4
  else none

/-- The further octets of a character, after the bits `bits` of those before them. -/
def furtherOctets (bits : Nat) : Nat → List Char → Option (Nat × List Char)
  | 0, cs => some (bits, cs)
  | more + 1, cs =>
    match escapedOctet? cs with
    | some (octet, rest) =>
      if octet / 64 = 2 then furtherOctets (bits * 64 + octet % 64) more rest else none
    | none => none

/-- A character written as the percent signs and digits of its octets, and how many characters that
takes. -/
def escapedChar? (cs : List Char) : Option (Char × Nat) := do
  let (first, rest) ← escapedOctet? cs
  let count ← octetCount first
  let bits := if count = 1 then first else first % Nat.pow 2 (7 - count)
  let (code, _) ← furtherOctets bits (count - 1) rest
  some (Char.ofNat code, 3 * count)

/-- The characters of a tag from here on, after `done` (the last first). -/
def tagText (verbatim : Bool) : Nat → List Char → Cursor → Except Fault (List Char × Cursor)
  | 0, _, _ => .error .tag
  | fuel + 1, done, c =>
    match c.peek with
    | none => .ok (done.reverse, c)
    | some x =>
      if x == '%' then
        match escapedChar? c.rest with
        | some (e, n) => tagText verbatim fuel (e :: done) (c.next n)
        | none => .error .tag
      else if isNameChar x || tagChars.contains x || (verbatim && verbatimChars.contains x) then
        tagText verbatim fuel (x :: done) (c.next 1)
      else .ok (done.reverse, c)

/-- The same, refusing a tag without any character. -/
def tagTextSome (verbatim : Bool) (fuel : Nat) (c : Cursor) : Except Fault (List Char × Cursor) :=
  match tagText verbatim fuel [] c with
  | .ok ([], _) => .error .tag
  | answer => answer

/-- The exclamation mark at the start of a tag with the name after it, and the exclamation mark after
that if there is one. -/
def tagHandle (c : Cursor) : Except Fault (List Char × Cursor) :=
  if c.peek != some '!' then .error .tag
  else
    let (chars, c) := (c.next 1).takeWhile isNameChar
    if c.peek == some '!' then .ok ('!' :: chars ++ ['!'], c.next 1) else .ok ('!' :: chars, c)

/-- Whether a handle is closed by an exclamation mark of its own. -/
def isClosed (handle : List Char) : Bool := 1 < handle.length && handle.getLast? == some '!'

/-- The handle and suffix of a tag: verbatim between angle brackets, after a handle that a directive
may have defined, or after a single exclamation mark. That mark alone is a tag as well. -/
def tagParts (fuel : Nat) (c : Cursor) : Except Fault (List Char × List Char × Cursor) := do
  if c.rest[1]? == some '<' then
    let (suffix, c) ← tagTextSome true fuel (c.next 2)
    if c.peek != some '>' then throw .tag
    pure ([], suffix, c.next 1)
  else
    let (handle, c) ← tagHandle c
    if isClosed handle then
      let (suffix, c) ← tagTextSome false fuel c
      pure (handle, suffix, c)
    else
      let (more, c) ← tagText false fuel [] c
      let suffix := handle.drop 1 ++ more
      pure (if suffix.isEmpty then ([], ['!'], c) else (['!'], suffix, c))

/-- A tag, which ends with a blank or the line, or with a comma inside brackets. -/
def readTag (flow : Bool) (fuel : Nat) (c : Cursor) : Except Fault (Token × Cursor) := do
  let (handle, suffix, c) ← tagParts fuel c
  if c.endsWord || (flow && c.peek == some ',') then
    pure (.tag (String.ofList handle) (String.ofList suffix), c)
  else throw .tag

def versionPart (c : Cursor) : Except Fault (Nat × Cursor) :=
  let (ds, c) := c.takeWhile Char.isDigit
  if 9 < ds.length then .error .directive
  else
    match Text.digits? 10 ds with
    | some n => .ok (n, c)
    | none => .error .directive

def readVersion (c : Cursor) : Except Fault (Token × Cursor) := do
  let (major, c) ← versionPart (c.skipWhile isGap)
  if c.peek != some '.' then throw .directive
  let (minor, c) ← versionPart (c.next 1)
  pure (.version major minor, c)

def readHandle (fuel : Nat) (c : Cursor) : Except Fault (Token × Cursor) := do
  let (handle, c) ← tagHandle (c.skipWhile isGap)
  if !isClosed handle && handle != ['!'] then throw .tag
  if !c.peek.any isGap then throw .tag
  let (start, c) ← tagTextSome true fuel (c.skipWhile isGap)
  if !c.endsWord then throw .tag
  pure (.shorthand (String.ofList handle) (String.ofList start), c)

def readDirective (fuel : Nat) (c : Cursor) : Except Fault (Token × Cursor) := do
  let (name, c) := (c.next 1).takeWhile isNameChar
  if name.isEmpty || !c.endsWord then throw .directive
  let (token, c) ← match String.ofList name with
    | "YAML" => readVersion c
    | "TAG" => readHandle fuel c
    | _ => throw .directive
  let c ← Scalar.skipLine .directive c
  pure (token, c)

end Token

end Rollback.Yaml
