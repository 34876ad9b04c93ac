import Rollback.Yaml.Lexer

/-! The structure of a document: scalars, sequences and mappings, some of them with a tag or an anchor,
and aliases in place of nodes that stand elsewhere. -/
namespace Rollback.Yaml

/-- A node of a document. An anchor is known by a number; of several nodes with one number the last to
begin counts. -/
inductive Node where
  | alias (anchor : Nat)
  | scalar (anchor? : Option Nat) (tag? : Option String) (plain : Bool) (text : String)
  | sequence (anchor? : Option Nat) (tag? : Option String) (items : List Node)
  | mapping (anchor? : Option Nat) (tag? : Option String) (entries : List (Node × Node))
  deriving Inhabited

namespace Node

def empty : Node := .scalar none none true ""

mutual

/-- How many parts a node has: a collection counts at its start and at its end. -/
def size : Node → Nat
  | .alias _ | .scalar .. => 1
  | .sequence _ _ items => 2 + sizeItems items
  | .mapping _ _ entries => 2 + sizeEntries entries

def sizeItems : List Node → Nat
  | [] => 0
  | n :: rest => size n + sizeItems rest

def sizeEntries : List (Node × Node) → Nat
  | [] => 0
  | (k, v) :: rest => size k + size v + sizeEntries rest

end

/-- Nodes by the numbers of their anchors, the last to begin first. -/
abbrev Anchored := List (Nat × Node)

mutual

/-- Adds the anchored nodes inside a node, in the order in which they begin. -/
def anchored (found : Anchored) : Node → Anchored
  | .alias _ => found
  | .scalar a t p s => note a (.scalar a t p s) found
  | .sequence a t items => anchoredItems (note a (.sequence a t items) found) items
  | .mapping a t entries => anchoredEntries (note a (.mapping a t entries) found) entries

def anchoredItems (found : Anchored) : List Node → Anchored
  | [] => found
  | n :: rest => anchoredItems (anchored found n) rest

def anchoredEntries (found : Anchored) : List (Node × Node) → Anchored
  | [] => found
  | (k, v) :: rest => anchoredEntries (anchored (anchored found k) v) rest

/-- Adds a node if it has an anchor. -/
def note (anchor? : Option Nat) (n : Node) (found : Anchored) : Anchored :=
  match anchor? with
  | some a => (a, n) :: found
  | none => found

end

end Node

structure Stream where
  lexer : Lexer
  /-- The names of the anchors in the current document, with their numbers. -/
  anchors : List (String × Nat)
  /-- The short forms of tags in the current document. -/
  shorthands : List (String × String)

abbrev Reader := StateT Stream (Except Fault)

namespace Reader

def peek : Reader Token := fun s => do
  let (t, lexer) ← s.lexer.peek
  pure (t, { s with lexer := lexer })

def drop : Reader Unit := modify fun s => { s with lexer := s.lexer.drop }

/-- Gives a name to the node that begins here. Its number is how many names there were before; a name
that is given again gets a number of its own. -/
def anchor (name : String) : Reader Nat := do
  let s ← get
  let number := s.anchors.length
  set { s with anchors := (name, number) :: s.anchors.filter (·.1 ≠ name) }
  pure number

def anchorOf (name : String) : Reader Nat := do
  match (← get).anchors.lookup name with
  | some number => pure number
  | none => throw .anchor

def expandTag (handle suffix : String) : Reader String := do
  if handle = "" then pure suffix
  else
    match (← get).shorthands.lookup handle with
    | some start => pure (start ++ suffix)
    | none => throw .tag

/-- The anchor and the tag before a node, in either order. -/
def properties : Reader (Option Nat × Option String) := do
  let anchorHere : Reader (Option String) := do
    match ← peek with
    | .anchor name => drop; pure (some name)
    | _ => pure none
  let tagHere : Reader (Option (String × String)) := do
    match ← peek with
    | .tag handle suffix => drop; pure (some (handle, suffix))
    | _ => pure none
  let first? ← anchorHere
  let tag? ← tagHere
  let name? ← match first?, tag? with
    | none, some _ => anchorHere
    | _, _ => pure first?
  let tag? ← tag?.mapM fun (handle, suffix) => expandTag handle suffix
  let _ ← peek
  let number? ← name?.mapM anchor
  pure (number?, tag?)

/-- How a node may be written at a place. -/
structure Place where
  /-- Not inside brackets. -/
  block : Bool
  /-- The items of a sequence may stand at the column of the key before them. -/
  indentless : Bool

abbrev Child := Place → Reader Node

def blockPlace : Place := ⟨true, false⟩

def memberPlace : Place := ⟨true, true⟩

def flowPlace : Place := ⟨false, false⟩

/-- The node at a place, or the missing node when one of the given tokens comes next. -/
def childBefore (child : Child) (place : Place) (stop : List Token) : Reader Node := do
  if stop.contains (← peek) then pure .empty else child place

def blockItems (child : Child) : Nat → List Node → Reader (List Node)
  | 0, _ => throw .order
  | fuel + 1, done => do
    match ← peek with
    | .blockEntry =>
      drop
      let n ← childBefore child blockPlace [.blockEntry, .blockEnd]
      blockItems child fuel (n :: done)
    | .blockEnd => drop; pure done.reverse
    | _ => throw .order

def indentlessItems (child : Child) : Nat → List Node → Reader (List Node)
  | 0, _ => throw .order
  | fuel + 1, done => do
    match ← peek with
    | .blockEntry =>
      drop
      let n ← childBefore child blockPlace [.blockEntry, .key, .value, .blockEnd]
      indentlessItems child fuel (n :: done)
    | _ => pure done.reverse

def blockValue (child : Child) : Reader Node := do
  match ← peek with
  | .value => drop; childBefore child memberPlace [.key, .value, .blockEnd]
  | _ => pure .empty

def blockEntries (child : Child) : Nat → List (Node × Node) → Reader (List (Node × Node))
  | 0, _ => throw .order
  | fuel + 1, done => do
    match ← peek with
    | .key =>
      drop
      let k ← childBefore child memberPlace [.key, .value, .blockEnd]
      let v ← blockValue child
      blockEntries child fuel ((k, v) :: done)
    | .blockEnd => drop; pure done.reverse
    | _ => throw .order

/-- The comma that comes before all items between brackets but the first. -/
def comma (first : Bool) : Reader Unit := do
  if first then pure ()
  else
    match ← peek with
    | .flowEntry => drop
    | _ => throw .order

def flowValue (child : Child) (stop : Token) : Reader Node := do
  match ← peek with
  | .value => drop; childBefore child flowPlace [.flowEntry, stop]
  | _ => pure .empty

/-- A single entry as an item between square brackets, after its key mark. A token that can begin no
key is passed over. -/
def loneEntry (child : Child) : Reader Node := do
  let k ← match ← peek with
    | .value | .flowEntry | .sequenceEnd => drop; pure .empty
    | _ => child flowPlace
  let v ← flowValue child .sequenceEnd
  pure (.mapping none none [(k, v)])

def flowItems (child : Child) : Nat → List Node → Reader (List Node)
  | 0, _ => throw .order
  | fuel + 1, done => do
    if (← peek) = .sequenceEnd then drop; pure done.reverse
    else
      comma done.isEmpty
      match ← peek with
      | .sequenceEnd => drop; pure done.reverse
      | .key => drop; flowItems child fuel ((← loneEntry child) :: done)
      | _ => flowItems child fuel ((← child flowPlace) :: done)

def flowEntries (child : Child) : Nat → List (Node × Node) → Reader (List (Node × Node))
  | 0, _ => throw .order
  | fuel + 1, done => do
    if (← peek) = .mappingEnd then drop; pure done.reverse
    else
      comma done.isEmpty
      match ← peek with
      | .mappingEnd => drop; pure done.reverse
      | .key =>
        drop
        let k ← childBefore child flowPlace [.value, .flowEntry, .mappingEnd]
        let v ← flowValue child .mappingEnd
        flowEntries child fuel ((k, v) :: done)
      | _ => flowEntries child fuel ((← child flowPlace, .empty) :: done)

/-- The number of collections that may stand inside each other. -/
def maxDepth : Nat := 128

/-- The tag of a scalar. A lone exclamation mark says that the scalar is as plain as it looks. -/
def scalarTag (tag? : Option String) : Option String := tag?.filter (· ≠ "!")

/-- Reads a node; `inner` reads the nodes inside it, and is missing where no collection may stand. -/
def nodeWith (inner : Option Child) : Child
  | place => do
    match ← peek with
    | .alias name =>
      let number ← anchorOf name
      drop
      pure (.alias number)
    | _ =>
      let (anchor?, tag?) ← properties
      let token ← peek
      let fuel := (← get).lexer.fuel
      match token with
      | .scalar plain text => drop; pure (.scalar anchor? (scalarTag tag?) plain text)
      | .blockEntry =>
        if !place.indentless then missing anchor? tag?
        else
          let some child := inner | throw .depth
          pure (.sequence anchor? tag? (← indentlessItems child fuel []))
      | .sequenceStart =>
        let some child := inner | throw .depth
        drop; pure (.sequence anchor? tag? (← flowItems child fuel []))
      | .mappingStart =>
        let some child := inner | throw .depth
        drop; pure (.mapping anchor? tag? (← flowEntries child fuel []))
      | .blockSequence =>
        if !place.block then missing anchor? tag?
        else
          let some child := inner | throw .depth
          drop; pure (.sequence anchor? tag? (← blockItems child fuel []))
      | .blockMapping =>
        if !place.block then missing anchor? tag?
        else
          let some child := inner | throw .depth
          drop; pure (.mapping anchor? tag? (← blockEntries child fuel []))
      | _ => missing anchor? tag?
where
  /-- A node of which only the tag or anchor is written. -/
  missing (anchor? : Option Nat) (tag? : Option String) : Reader Node :=
    if anchor?.isSome || tag?.isSome then pure (.scalar anchor? tag? true "") else throw .order

/-- Reads a node in which at most `depth` collections stand inside each other. -/
def node : Nat → Child
  | 0 => nodeWith none
  | depth + 1 => nodeWith (some (node depth))

end Reader

end Rollback.Yaml
