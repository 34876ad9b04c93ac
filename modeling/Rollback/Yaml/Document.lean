import Rollback.Yaml.Value

/-! The documents of a text. Three hyphens begin a document and three points may end it; directives
before the hyphens belong to the one document that follows. -/
namespace Rollback.Yaml

namespace Reader

def sharedShorthands : List (String × String) := [("!", "!"), ("!!", Value.sharedTag "")]

/-- The directives before a document: whether there has been one about the version, and the short
forms that they define. -/
def directives : Nat → Bool → List (String × String) → Reader (List (String × String))
  | 0, _, _ => throw .directive
  | fuel + 1, versioned, found => do
    match ← peek with
    | .version major minor =>
      if versioned || major ≠ 1 || (minor ≠ 1 && minor ≠ 2) then throw .directive
      drop
      directives fuel true found
    | .shorthand name start =>
      if (found.lookup name).isSome then throw .directive
      drop
      directives fuel versioned (found ++ [(name, start)])
    | _ => pure found

def skipEnds : Nat → Reader Unit
  | 0 => throw .order
  | fuel + 1 => do
    if (← peek) = .documentEnd then drop; skipEnds fuel else pure ()

/-- Whether a token belongs to the frame of a document and not to its content. -/
def isFrame : Token → Bool
  | .version .. | .shorthand .. | .documentStart | .documentEnd | .streamEnd => true
  | _ => false

def begin (shorthands : List (String × String)) : Reader Unit :=
  modify fun s => { s with anchors := [], shorthands := shorthands ++ sharedShorthands }

def content (mayBeMissing : Bool) : Reader Node := do
  let root ← if mayBeMissing && isFrame (← peek) then pure .empty else node maxDepth blockPlace
  if (← peek) = .documentEnd then drop
  pure root

/-- The next document, if there is one. Only the first may begin without its mark. -/
def document? (first : Bool) : Reader (Option Node) := do
  let fuel := (← get).lexer.fuel
  if !first then skipEnds fuel
  match ← peek with
  | .streamEnd => pure none
  | token =>
    if first && (token = .documentEnd || !isFrame token) then
      begin []
      return some (← content false)
    else
      begin (← directives fuel false [])
      if (← peek) ≠ .documentStart then throw .order
      drop
      return some (← content true)

end Reader

def documentsFrom : Nat → Bool → Stream → List (Except Fault Value)
  | 0, _, _ => []
  | fuel + 1, first, s =>
    match (Reader.document? first).run s with
    | .error fault => [.error fault]
    | .ok (none, _) => []
    | .ok (some root, s) =>
      match Value.ofNode root with
      | .error fault => [.error fault]
      | .ok v => .ok v :: documentsFrom fuel false s

/-- The values of the documents of a text, in order; the last may be a fault instead. -/
def documents (text : String) : List (Except Fault Value) :=
  let lexer := Lexer.ofChars text.toList
  documentsFrom lexer.fuel true ⟨lexer, [], []⟩

end Rollback.Yaml
