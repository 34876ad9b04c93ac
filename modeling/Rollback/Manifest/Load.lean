import Rollback.Manifest.Files
import Rollback.Manifest.Reference
import Rollback.Text.Numeral
import Rollback.Text.Utf8

/-! Reading the manifests that a user names: files, directories and the standard input. Of a directory
the files with an extension of manifests are read, in the order of their names, each directory's
content where its name stands. A directory is walked to its end before its first file is read. -/
namespace Rollback.Manifest

structure Source where
  /-- What a path leads to. -/
  find : String → Except PathFault FileNode
  /-- What the standard input still holds. -/
  input : List UInt8

/-- The manifests of a file system, seen from a working directory, and of the standard input. -/
def Source.ofTree (tree : FileTree) (working : List String) (input : List UInt8) : Source :=
  ⟨tree.find working, input⟩

inductive LoadFault where
  | told (cause : Cause)
  /-- A sum does not fit in 64 bits, and the program ends on the spot. -/
  | overflow
  deriving DecidableEq, Repr, Inhabited

namespace LoadFault

def within (context : String) : LoadFault → LoadFault
  | .told cause => .told (cause.within context)
  | .overflow => .overflow

/-- The failure of the request that names the manifests. -/
def failure : LoadFault → Failure
  | .told cause => .resolution cause
  | .overflow => .overflow

end LoadFault

def extensions : List String := ["yaml", "yml", "json"]

/-- What follows the last point of a name that does not begin with it. -/
def extension? (name : String) : Option String :=
  match Text.cutChars '.' name.toList.reverse with
  | none | some (_, []) => none
  | some (after, _) => some (String.ofList after.reverse)

def hasManifestExtension (name : String) : Bool := (extension? name).any extensions.contains

/-- A manifest in a directory: the names on the way to it and what it holds. -/
abbrev Placed := List String × FileContent

/-- A directory that cannot be listed: the names on the way to it and why. -/
structure Unlisted where
  place : List String
  reason : String
  deriving DecidableEq, Repr, Inhabited

def Unlisted.cause (path : String) (u : Unlisted) : Cause :=
  ⟨"walking " ++ path,
    ["IO error for operation on " ++ u.place.foldl joinPath path ++ ": " ++ u.reason, u.reason]⟩

/-- What a walk finds, or the first directory on it that cannot be listed. -/
abbrev Walk := Except Unlisted (List Placed)

/-- A walk seen from one directory above. -/
def Walk.below (name : String) : Walk → Walk
  | .ok found => .ok (found.map fun f => (name :: f.1, f.2))
  | .error u => .error { u with place := name :: u.place }

/-- What there is at each entry of a directory, in the order of the names of the entries. -/
def inOrder (answers : List (String × Walk)) : Walk :=
  ((sortEntries answers).mapM fun answer : String × Walk => answer.2).map List.flatten

mutual

def inEntries (recursive : Bool) : List (String × FileNode) → List (String × Walk)
  | [] => []
  | (name, node) :: rest => (name, inNode recursive name node) :: inEntries recursive rest

/-- The manifests at an entry. Links are passed over, and so are directories unless they are entered. -/
def inNode (recursive : Bool) (name : String) : FileNode → Walk
  | .directory entries =>
    if recursive then (inOrder (inEntries recursive entries)).below name else .ok []
  | .closed reason => if recursive then .error ⟨[name], reason⟩ else .ok []
  | node =>
    if hasManifestExtension name then .ok (node.content?.toList.map fun content => ([name], content))
    else .ok []

end

def inDirectory (recursive : Bool) (entries : FileTree) : Walk := inOrder (inEntries recursive entries)

/-- The files to be read at a node that was named: the node itself, or the manifests of the directory. -/
def filesOf (recursive : Bool) : FileNode → Walk
  | .directory entries => inDirectory recursive entries
  | .closed reason => .error ⟨[], reason⟩
  | node => .ok (node.content?.toList.map fun content => ([], content))

/-- A manifest that has been found: its path and what it holds. -/
abbrev Found := String × FileContent

/-- Whether a path means the standard input: a hyphen, with nothing but slashes and points after it. -/
def isInput (path : String) : Bool :=
  match Text.splitAt '/' path with
  | name :: rest => name == "-" && rest.all fun part => part == "" || part == "."
  | [] => false

/-- How many octets are taken of a manifest to see whether it is too large: one more than the limit. The
sum is checked. -/
def taken (limit : Nat) : Except LoadFault Nat :=
  if limit < Text.maxNat64 then .ok (limit + 1) else .error .overflow

/-- The text of a manifest whose octets are at most `limit`. -/
def readText (limit : Nat) (octets : List UInt8) : Except LoadFault String :=
  match taken limit with
  | .error fault => .error fault
  | .ok size =>
    let octets := octets.take size
    if limit < octets.length then .error (.told (.plain s!"manifest is too large (>{limit} bytes)"))
    else (Text.decodeText octets).mapError fun fault => .told (.plain fault.message)

def parseFrom (path : String) (text : Except LoadFault String) (context : String) :
    Except LoadFault (List Reference) :=
  match text with
  | .error fault => .error (fault.within context)
  | .ok text =>
    (Reference.parse text).mapError fun cause => .told (cause.within ("error parsing " ++ path))

/-- A file that cannot be opened is told before its size is limited. -/
def readContent (limit : Nat) : FileContent → Except LoadFault String
  | .error reason => .error (.told (.plain reason))
  | .ok octets => readText limit octets

def ofFile (limit : Nat) (found : Found) : Except LoadFault (List Reference) :=
  parseFrom found.1 (readContent limit found.2) ("reading " ++ found.1)

def atPath (source : Source) (recursive : Bool) (path : String) : Except Cause (List Found) :=
  match source.find path with
  | .error fault =>
    .error ⟨"the path " ++ Text.quote path ++ " does not exist", [fault.message]⟩
  | .ok node =>
    match filesOf recursive node with
    | .error unlisted => .error (unlisted.cause path)
    | .ok files => .ok (files.map fun file => (file.1.foldl joinPath path, file.2))

/-- The references that one path gives, and the input that is left. -/
def loadPath (limit : Nat) (recursive : Bool) (source : Source) (path : String) :
    Except LoadFault (List Reference × Source) :=
  if isInput path then do
    let refs ← parseFrom path (readText limit source.input) "reading manifests from stdin"
    pure (refs, { source with input := source.input.drop (limit + 1) })
  else do
    let found ← (atPath source recursive path).mapError .told
    let refs ← found.mapM (ofFile limit)
    pure (refs.flatten, source)

/-- The references that all paths give, in order, and the input that is left. -/
def load (limit : Nat) (recursive : Bool) (source : Source) :
    List String → Except LoadFault (List Reference × Source)
  | [] => .ok ([], source)
  | path :: rest => do
    let (refs, source) ← loadPath limit recursive source path
    let (more, source) ← load limit recursive source rest
    pure (refs ++ more, source)

end Rollback.Manifest
