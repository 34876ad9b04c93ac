import Rollback.Json.Basic
import Rollback.Text.Split

/-! A file system at rest and the paths into it. A path is followed from the root or from the working
directory on, through directories and links. Of the rights on a directory only one is kept, to list it
and to enter it; names are texts, and there are no special files. -/
namespace Rollback

/-- What a file holds, or why it cannot be opened. -/
abbrev FileContent := Except String (List UInt8)

inductive FileNode where
  | file (octets : List UInt8)
  | unreadable (reason : String)
  | link (target : String)
  /-- The entries have different names. -/
  | directory (entries : List (String × FileNode))
  /-- A directory that can be neither listed nor entered. -/
  | closed (reason : String)
  deriving Inhabited

def FileNode.content? : FileNode → Option FileContent
  | .file octets => some (.ok octets)
  | .unreadable reason => some (.error reason)
  | _ => none

/-- The entries of a directory, of the root as a rule. -/
abbrev FileTree := List (String × FileNode)

inductive PathFault where
  | notFound
  /-- A file stands where a directory should be. -/
  | notDirectory
  /-- A directory on the way cannot be entered. -/
  | denied
  | tooManyLinks
  | nameTooLong
  | nulCharacter
  deriving DecidableEq, Repr

def PathFault.message : PathFault → String
  | .notFound => "No such file or directory (os error 2)"
  | .notDirectory => "Not a directory (os error 20)"
  | .denied => "Permission denied (os error 13)"
  | .tooManyLinks => "Too many levels of symbolic links (os error 40)"
  | .nameTooLong => "File name too long (os error 36)"
  | .nulCharacter => "file name contained an unexpected NUL byte"

def joinPath (path name : String) : String :=
  if Text.endsWith "/" path then path ++ name else path ++ "/" ++ name

def maxPathSize : Nat := 4095

def maxNameSize : Nat := 255

def maxLinks : Nat := 40

/-- Whether a path is too large to be opened, whatever it leads to. -/
def exceeds (path : String) : Bool := maxPathSize < path.utf8ByteSize

mutual

/-- What can be opened of a node by a path to it: nothing whose own path is too large. -/
def FileNode.openedAt (path : String) : FileNode → FileNode
  | .link target => .link target
  | .directory entries =>
    if exceeds path then .closed PathFault.nameTooLong.message else .directory (openedIn path entries)
  | .closed reason => .closed (if exceeds path then PathFault.nameTooLong.message else reason)
  | .file octets => if exceeds path then .unreadable PathFault.nameTooLong.message else .file octets
  | .unreadable reason => .unreadable (if exceeds path then PathFault.nameTooLong.message else reason)

def openedIn (path : String) : List (String × FileNode) → List (String × FileNode)
  | [] => []
  | (name, node) :: rest => (name, node.openedAt (joinPath path name)) :: openedIn path rest

end

namespace FileTree

def empty : FileTree := []

/-- Adds a node under a path of names, with the directories above it. A directory that is already
there keeps its entries. -/
def add (node : FileNode) : List String → FileTree → FileTree
  | [], tree => tree
  | [name], tree =>
    match lookup name tree, node with
    | some (.directory _), .directory _ => tree
    | _, _ => insert name node tree
  | name :: rest, tree =>
    let inner := match lookup name tree with
      | some (.directory entries) => entries
      | _ => []
    insert name (.directory (add node rest inner)) tree

def nodeAt? (tree : FileTree) : List String → Option FileNode
  | [] => some (.directory tree)
  | name :: rest =>
    match lookup name tree with
    | some (.directory entries) => nodeAt? entries rest
    | some node => if rest.isEmpty then some node else none
    | none => none

def names (path : String) : List String := Text.splitAt '/' path

/-- Where a path begins: at the root if it begins with a slash, and else in the directory `here`. Places
are kept with the last name first. -/
def start (here : List String) (path : String) : List String :=
  if Text.startsWith "/" path then [] else here

/-- The node at a path, from the directory `here` on. The directory above the root is the root. -/
def follow (tree : FileTree) (links : Nat) (here : List String) (path : List String) :
    Except PathFault FileNode :=
  match path with
  | [] =>
    match nodeAt? tree here.reverse with
    | some node => .ok node
    | none => .error .notFound
  | name :: rest =>
    match nodeAt? tree here.reverse with
    | some (.directory entries) =>
      if name = "" ∨ name = "." then follow tree links here rest
      else if name = ".." then follow tree links (here.drop 1) rest
      else if maxNameSize < name.utf8ByteSize then .error .nameTooLong
      else
        match lookup name entries with
        | some (.link target) =>
          match links with
          | 0 => .error .tooManyLinks
          | links + 1 => follow tree links (start here target) (names target ++ rest)
        | some _ => follow tree links (name :: here) rest
        | none => .error .notFound
    | some (.closed _) => if name = "" then follow tree links here rest else .error .denied
    | some _ => .error .notDirectory
    | none => .error .notFound
  termination_by (links, path.length)

/-- What a path leads to from the working directory, given by its names from the root on. -/
def find (tree : FileTree) (working : List String) (path : String) : Except PathFault FileNode :=
  if Text.has '\x00' path then .error .nulCharacter
  else if path = "" then .error .notFound
  else if exceeds path then .error .nameTooLong
  else (follow tree maxLinks (start working.reverse path) (names path)).map (·.openedAt path)

end FileTree

end Rollback
