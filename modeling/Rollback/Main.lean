import Rollback.CommandLine.Ending
import Rollback.Yaml.Document

/-! The program. It reads the manifests and the configuration that its command line names, and writes
what the run gives. It has no link to a network, so every request to a server fails as it does on a
machine that is offline. -/
namespace Rollback.Program

def octets (bytes : ByteArray) : List UInt8 := bytes.data.toList

/-- The number of an error of the system, and what the system says of it. -/
def detail? : IO.Error → Option (UInt32 × String)
  | .noFileOrDirectory _ code text | .permissionDenied _ code text | .inappropriateType _ code text
  | .invalidArgument _ code text | .resourceExhausted _ code text | .noSuchThing _ code text
  | .hardwareFault code text | .otherError code text => some (code, text)
  | _ => none

/-- The wording of a failure to open a file or to list a directory. -/
def reasonOf (error : IO.Error) : String :=
  match detail? error with
  | some (code, text) => text ++ " (os error " ++ toString code ++ ")"
  | none => toString error

def fileOf (read : IO ByteArray) : IO FileNode := do
  try return .file (octets (← read))
  catch error => return .unreadable (reasonOf error)

mutual

/-- What stands behind an entry of a directory; links are not followed. -/
partial def nodeOf (entry : IO.FS.DirEntry) : IO FileNode := do
  match ← entry.path.symlinkMetadata.toBaseIO with
  | .error error => return .unreadable (reasonOf error)
  | .ok seen =>
    match seen.type with
    | .dir => directoryOf entry.path.readDir
    | .file => fileOf (IO.FS.readBinFile entry.path)
    | _ => return .link ""

partial def directoryOf (list : IO (Array IO.FS.DirEntry)) : IO FileNode := do
  match ← list.toBaseIO with
  | .error error => return .closed (reasonOf error)
  | .ok entries =>
    return .directory (← entries.toList.mapM fun entry => return (entry.fileName, ← nodeOf entry))

end

def find (path : String) : IO FileNode := do
  let path := (← IO.currentDir) / path
  match (← path.metadata).type with
  | .dir => directoryOf path.readDir
  | _ => fileOf (IO.FS.readBinFile path)

def faultOf (error : IO.Error) : PathFault :=
  match detail? error with
  | some (13, _) => .denied
  | some (20, _) => .notDirectory
  | some (36, _) => .nameTooLong
  | some (40, _) => .tooManyLinks
  | _ => .notFound

def findAll (paths : List String) : IO (List (String × Except PathFault FileNode)) :=
  paths.mapM fun path => do
    try return (path, .ok (← find path))
    catch error => return (path, .error (faultOf error))

/-- The manifests that a command needs. The standard input is read only if it is named. -/
def manifests (paths : List String) : IO Manifest.Source := do
  let found ← findAll (paths.filter fun path => !Manifest.isInput path)
  let input ← if paths.any Manifest.isInput then (← IO.getStdin).readBinToEnd else pure .empty
  return ⟨fun path => (lookup path found).getD (.error .notFound), octets input⟩

def environment : IO Environment :=
  [UndoOptions.namespaceVariable, Settings.timeoutVariable, Settings.limitVariable].filterMapM
    fun name => do return (← IO.getEnv name).map (name, ·)

def contexts : IO Contexts := do
  let path := match ← IO.getEnv "KUBECONFIG", ← IO.getEnv "HOME" with
    | some path, _ => path
    | none, some home => home ++ "/.kube/config"
    | none, none => ".kube/config"
  try
    match Yaml.documents (← IO.FS.readFile path) with
    | .ok config :: _ => return (config.toJson?.map Contexts.ofJson).getD .empty
    | _ => return .empty
  catch _ => return .empty

def filenames : Except UsageFault Command → List String
  | .ok (.undo o) => o.filenames
  | _ => []

/-- Runs the program on the words of its command line; the answer is the exit status. -/
def run (words : List String) : IO UInt32 := do
  let manifests ← manifests (filenames (Command.ofWords words))
  let around : Surroundings Unit :=
    { environment := ← environment, contexts := ← contexts, manifests := manifests,
      send := fun _ => pure .noNetwork }
  let ending := Ending.ofWords around words ()
  IO.print ending.output
  IO.eprint ending.complaint
  return ending.status.toUInt32

end Rollback.Program

def main (words : List String) : IO UInt32 := Rollback.Program.run words
