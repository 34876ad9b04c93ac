import Rollback.Decimal.Shortest
import Rollback.Json.Basic
import Rollback.Yaml.Node
import Rollback.Yaml.Plain

/-! The value of a document: its nodes with their aliases followed and their scalars understood, and
the JSON document that has the same content. -/
namespace Rollback.Yaml

inductive Value where
  | null
  | bool (value : Bool)
  | integer (value : Int)
  | fraction (value : Fraction)
  | text (value : String)
  | sequence (items : List Value)
  | mapping (entries : List (Value × Value))
  /-- A value with a tag of the document's own. -/
  | tagged (name : String) (value : Value)
  deriving Inhabited

/-- Equality of fractions: what is no number equals itself, and both zeros are equal. -/
def Fraction.same : Fraction → Fraction → Bool
  | .finite x, .finite y => x.same y
  | .infinite a, .infinite b => a == b
  | .undefined, .undefined => true
  | _, _ => false

namespace Value

/-- A tag with a single exclamation mark before it. A name that is only that mark keeps it. -/
def tagText (name : String) : String :=
  match name.toList with
  | '!' :: c :: rest => String.ofList ('!' :: c :: rest)
  | _ => "!" ++ name

mutual

/-- Equality of values. The order of a mapping's entries does not matter. -/
def same : Value → Value → Bool
  | .null, .null => true
  | .bool a, .bool b => a == b
  | .integer a, .integer b => a == b
  | .fraction a, .fraction b => a.same b
  | .text a, .text b => a == b
  | .sequence as, .sequence bs => sameItems as bs
  | .mapping as, .mapping bs => as.length == bs.length && sameEntries as bs
  | .tagged s a, .tagged t b => tagText s == tagText t && same a b
  | _, _ => false

def sameItems : List Value → List Value → Bool
  | [], [] => true
  | a :: as, b :: bs => same a b && sameItems as bs
  | _, _ => false

def sameEntries : List (Value × Value) → List (Value × Value) → Bool
  | [], _ => true
  | (k, v) :: rest, bs => bs.any (fun b => same k b.1 && same v b.2) && sameEntries rest bs

end

/-- Whether the value is null, whatever its tags. -/
def isNull : Value → Bool
  | .null => true
  | .tagged _ v => v.isNull
  | _ => false

/-- The anchored nodes of a document and how often they may be used. -/
structure Anchors where
  nodes : Node.Anchored
  mostUses : Nat

/-- Makes a value, counting the uses of anchors. -/
abbrev Composer := StateT Nat (Except Fault)

/-- The node that an alias stands for, and whether the node was an alias. -/
def follow (anchors : Anchors) (n : Node) : Composer (Node × Bool) := do
  match n with
  | .alias number =>
    let uses := (← get) + 1
    if anchors.mostUses < uses then throw .repetition
    set uses
    match anchors.nodes.lookup number with
    | some n => pure (n, true)
    | none => throw .anchor
  | n => pure (n, false)

def ownTag? (tag : String) : Option String :=
  match tag.toList with
  | ['!'] => some "!"
  | '!' :: rest => some (String.ofList rest)
  | _ => none

/-- The beginning of the tags that all documents share. -/
def sharedTag (name : String) : String := "tag:yaml.org,2002:" ++ name

def ofPlain (s : String) : Except Fault Value :=
  match resolve s with
  | .null => .ok .null
  | .bool b => .ok (.bool b)
  | .integer n => .ok (.integer n)
  | .tooWide => .error .value
  | .fraction x => .ok (.fraction x)
  | .text => .ok (.text s)

/-- The value of a scalar that its tag makes a truth value, a number or null; none for other tags. -/
def ofSharedTag? (tag s : String) : Option (Option Value) :=
  if tag = sharedTag "bool" then some ((bool? s).map .bool)
  else if tag = sharedTag "int" then
    some (match integer? s.toList with
      | some (.integer n) => some (.integer n)
      | _ => none)
  else if tag = sharedTag "float" then some ((fraction? s).map .fraction)
  else if tag = sharedTag "null" then
    some (if s ≠ "" ∧ isNullWord s then some .null else none)
  else none

/-- The value of a scalar. Any other tag makes it a text. -/
def ofScalar (tag? : Option String) (plain : Bool) (s : String) : Except Fault Value :=
  match tag? with
  | none => if plain then ofPlain s else .ok (.text s)
  | some tag =>
    match ofSharedTag? tag s with
    | none => .ok (.text s)
    | some none => .error .value
    | some (some v) => .ok v

def addEntry (done : List (Value × Value)) (k v : Value) : Except Fault (List (Value × Value)) :=
  if done.any fun entry => same entry.1 k then .error .duplicateKey else .ok ((k, v) :: done)

/-- The value of a collection without regard to its tag; `inner` makes the values inside it, and is
missing where too many collections stand inside each other. Keys are looked at as if they had no tag
when the mapping has one. -/
def ofCollection (inner : Option (Bool → Node → Composer Value)) (tagged : Bool) (n : Node) :
    Composer Value := do
  let some inner := inner | throw .depth
  match n with
  | .sequence _ _ items => pure (.sequence (← items.mapM (inner false)))
  | .mapping _ _ entries =>
    let done ← entries.foldlM (fun done (k, v) => do
      let k ← inner tagged k
      let v ← inner false v
      addEntry done k v) []
    pure (.mapping done.reverse)
  | _ => throw .order

/-- The value of a node; `inner` is that of `ofCollection`. -/
def ofNodeWith (anchors : Anchors) (inner : Option (Bool → Node → Composer Value)) (tagged : Bool)
    (n : Node) : Composer Value := do
  let (n, followed) ← follow anchors n
  let tagged := tagged && !followed
  match n with
  | .alias _ => throw .anchor
  | .scalar _ tag? plain s =>
    match tag?.bind ownTag? with
    | some name => if tagged then ofScalar none plain s else
        pure (.tagged name (← ofScalar none plain s))
    | none => ofScalar (if tagged then none else tag?) plain s
  | .sequence _ tag? _ | .mapping _ tag? _ =>
    match tag?.bind ownTag? with
    | some name => if tagged then ofCollection inner true n else
        pure (.tagged name (← ofCollection inner true n))
    | none => ofCollection inner tagged n

/-- The value of a node in which at most `depth` collections stand inside each other. -/
def ofNodeAt (anchors : Anchors) : Nat → Bool → Node → Composer Value
  | 0 => ofNodeWith anchors none
  | depth + 1 => ofNodeWith anchors (some (ofNodeAt anchors depth))

/-- How often the anchors of a document may be used, for each of its parts. -/
def usesPerPart : Nat := 100

def ofNode (n : Node) : Except Fault Value :=
  let anchors : Anchors := ⟨Node.anchored [] n, usesPerPart * n.size⟩
  (ofNodeAt anchors Reader.maxDepth false n).run' 0

/-- The key of an entry: texts, numbers and truth values have one. -/
def key? : Value → Option String
  | .text s => some s
  | .integer n => some (toString n)
  | .bool b => some (if b then "true" else "false")
  | .fraction (.finite x) => some x.text
  | _ => none

mutual

/-- The JSON document with the same content; none if a key has no text. What is no finite number
becomes null, and of several entries with one key the last counts. -/
def toJson? : Value → Option Json
  | .null => some .null
  | .bool b => some (.bool b)
  | .integer n => some (.integer n)
  | .fraction (.finite x) => some (.float x)
  | .fraction _ => some .null
  | .text s => some (.string s)
  | .sequence items => (itemsToJson? items).map .array
  | .mapping entries => (entriesToJson? [] entries).map .object
  | .tagged name v => (toJson? v).map fun v => .object [(tagText name, v)]

def itemsToJson? : List Value → Option (List Json)
  | [] => some []
  | v :: rest =>
    match toJson? v with
    | some v => (itemsToJson? rest).map (v :: ·)
    | none => none

def entriesToJson? (done : Members) : List (Value × Value) → Option Members
  | [] => some done
  | (k, v) :: rest =>
    match k.key?, toJson? v with
    | some k, some v => entriesToJson? (insert k v done) rest
    | _, _ => none

end

end Value

end Rollback.Yaml
