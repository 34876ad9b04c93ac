import Rollback.Proofs.Manifest.Limit
import Rollback.Proofs.Manifest.Walk

/-! The references that paths to files and directories give. They are those of the files at each path, one
path after the other, and the first path that is missing, the first directory that cannot be listed or the
first file that is faulty ends it. Entering directories only adds to what is read. -/
namespace Rollback.Manifest

/-- The references of a file that can be opened and holds a text that is not too large. -/
def HasReferences (limit : Nat) (content : FileContent) (refs : List Reference) : Prop :=
  ∃ octets text, content = .ok octets ∧ octets.length ≤ limit ∧ Text.encode text = octets ∧
    Reference.parse text = .ok refs

/-- What can be wrong with a file. -/
inductive Faulty (limit : Nat) : FileContent → Prop where
  | unreadable (reason : String) : Faulty limit (.error reason)
  | tooLarge {octets : List UInt8} (large : limit < octets.length) : Faulty limit (.ok octets)
  | notText {octets : List UInt8} (other : ∀ text, Text.encode text ≠ octets) : Faulty limit (.ok octets)
  | unparsable {text : String} {cause : Cause} (failed : Reference.parse text = .error cause) :
      Faulty limit (.ok (Text.encode text))

/-- The files that are selected at a path, in order: the file itself, or the manifests of the directory. -/
inductive FilesAt (source : Source) (recursive : Bool) (path : String) : List Placed → Prop where
  | file {node : FileNode} {content : FileContent} (found : source.find path = .ok node)
      (file : node.content? = some content) : FilesAt source recursive path [([], content)]
  | directory {entries : FileTree} {manifests : List Placed}
      (found : source.find path = .ok (.directory entries))
      (all : Listing (Selected recursive entries) manifests) : FilesAt source recursive path manifests

/-- A directory that has to be listed for a path cannot be: the one that is named, or one below it if
directories are entered. -/
inductive Barred (source : Source) (recursive : Bool) (path : String) : Prop where
  | named {reason : String} (found : source.find path = .ok (.closed reason))
  | below {entries : FileTree} {place : List String} {reason : String}
      (found : source.find path = .ok (.directory entries)) (entered : recursive = true)
      (inside : entries.HasAt place (.closed reason))

/-- The references at a path at which all directories can be listed: those of its files one after the
other. -/
def Loads (limit : Nat) (source : Source) (recursive : Bool) (path : String)
    (refs : List Reference) : Prop :=
  ¬ Barred source recursive path ∧ ∃ files answers, FilesAt source recursive path files ∧
    List.Forall₂ (fun file refs => HasReferences limit file.2 refs) files answers ∧ refs = answers.flatten

variable {limit : Nat} {recursive : Bool} {source left : Source} {path : String} {paths : List String}
  {content : FileContent} {refs : List Reference} {files files' : List Placed}

theorem ofFile_eq_ok (below : limit < Text.maxNat64) (path : String) (content : FileContent)
    (refs : List Reference) : ofFile limit (path, content) = .ok refs ↔ HasReferences limit content refs := by
  cases content with
  | error reason =>
    constructor
    · rintro ⟨⟩
    · rintro ⟨octets, text, ⟨⟩, -⟩
  | ok octets =>
    have parsed : ofFile limit (path, .ok octets) = .ok refs ↔
        ∃ text, readText limit octets = .ok text ∧ Reference.parse text = .ok refs := by
      simp only [ofFile, readContent, parseFrom]
      cases readText limit octets with
      | error fault => simp
      | ok text => simp [Traversal.mapError_eq_ok_iff]
    rw [parsed]
    simp only [readText_eq_ok below]
    constructor
    · rintro ⟨text, ⟨fits, encoded⟩, parsed⟩
      exact ⟨octets, text, rfl, fits, encoded, parsed⟩
    · rintro ⟨octets, text, same, fits, encoded, parsed⟩
      cases same
      exact ⟨text, ⟨fits, encoded⟩, parsed⟩

theorem faulty_iff : Faulty limit content ↔ ∀ refs, ¬ HasReferences limit content refs := by
  constructor
  · rintro faulty refs ⟨octets, text, rfl, fits, encoded, parsed⟩
    cases faulty with
    | tooLarge large => omega
    | notText other => exact other text encoded
    | unparsable failed =>
      cases Text.encode_injective encoded
      rw [failed] at parsed
      cases parsed
  · intro none
    cases content with
    | error reason => exact .unreadable reason
    | ok octets =>
      by_cases large : limit < octets.length
      · exact .tooLarge large
      · by_cases encoded : ∃ text, Text.encode text = octets
        · obtain ⟨text, rfl⟩ := encoded
          cases parsed : Reference.parse text with
          | error cause => exact .unparsable parsed
          | ok refs => exact absurd ⟨_, text, rfl, not_lt.mp large, rfl, parsed⟩ (none refs)
        · exact .notText fun text same => encoded ⟨text, same⟩

theorem ofFile_fails (below : limit < Text.maxNat64) :
    (∃ fault, ofFile limit (path, content) = .error fault) ↔ Faulty limit content := by
  rw [faulty_iff]
  simp only [← ofFile_eq_ok below path content]
  cases ofFile limit (path, content) <;> simp

theorem FilesAt.unique (here : FilesAt source recursive path files)
    (here' : FilesAt source recursive path files') : files = files' := by
  cases here with
  | file found file =>
    cases here' with
    | file found' file' =>
      cases found.symm.trans found'
      cases file.symm.trans file'
      rfl
    | directory found' =>
      cases found.symm.trans found'
      cases file
  | directory found all =>
    cases here' with
    | file found' file =>
      cases found.symm.trans found'
      cases file
    | directory found' all' =>
      cases found.symm.trans found'
      exact all.unique all'

theorem FilesAt.found (here : FilesAt source recursive path files) :
    ∃ node, source.find path = .ok node := by
  cases here with
  | file found => exact ⟨_, found⟩
  | directory found => exact ⟨_, found⟩

theorem Barred.found (barred : Barred source recursive path) : ∃ node, source.find path = .ok node := by
  cases barred with
  | named found => exact ⟨_, found⟩
  | below found => exact ⟨_, found⟩

theorem barred_of_unlisted (proper : source.Proper) {node : FileNode} {unlisted : Unlisted}
    (found : source.find path = .ok node) (stopped : filesOf recursive node = .error unlisted) :
    Barred source recursive path := by
  cases node with
  | directory entries =>
    obtain ⟨entered, inside⟩ := hasAt_of_unlisted entries (proper.directory path entries found) _ stopped
    exact .below found entered inside
  | closed reason => exact .named found
  | _ => cases stopped

theorem filesAt_of_walked (proper : source.Proper) {node : FileNode} (found : source.find path = .ok node)
    (walked : filesOf recursive node = .ok files) :
    FilesAt source recursive path files ∧ ¬ Barred source recursive path := by
  have notClosed (reason : String) : node ≠ .closed reason := by
    rintro rfl
    cases walked
  have unbarred : ¬ Barred source recursive path := by
    rintro (found' | ⟨found', rfl, inside⟩)
    · exact notClosed _ (Except.ok.inj (found.symm.trans found'))
    · cases found.symm.trans found'
      obtain ⟨unlisted, stopped⟩ := unlisted_of_hasAt (proper.directory path _ found) inside
      cases walked.symm.trans stopped
  refine ⟨?_, unbarred⟩
  obtain ⟨content, file⟩ | ⟨target, rfl⟩ | ⟨entries, rfl⟩ | ⟨reason, rfl⟩ := node.shape
  · have single : filesOf recursive node = .ok [([], content)] := by
      cases node <;> cases file <;> rfl
    cases walked.symm.trans single
    exact .file found file
  · exact absurd found (proper.followed path target)
  · exact .directory found (listing_of_walked entries (proper.directory path entries found) files walked)
  · exact absurd rfl (notClosed reason)

def refsAt (limit : Nat) (recursive : Bool) (source : Source) (path : String) :
    Except LoadFault (List Reference) :=
  ((atPath source recursive path).mapError .told).bind fun found =>
    (found.mapM (ofFile limit)).map List.flatten

/-- A path is missing, or stands before a directory that cannot be listed, or its files are read. -/
theorem refsAt_cases (proper : source.Proper) (limit : Nat) (recursive : Bool) (path : String) :
    (((∃ fault, source.find path = .error fault) ∨ Barred source recursive path) ∧
        ∃ cause, refsAt limit recursive source path = .error (.told cause)) ∨
      ∃ files, FilesAt source recursive path files ∧ ¬ Barred source recursive path ∧
        refsAt limit recursive source path =
          (files.mapM fun file => ofFile limit (file.1.foldl joinPath path, file.2)).map List.flatten := by
  unfold refsAt atPath
  cases found : source.find path with
  | error fault => exact .inl ⟨.inl ⟨fault, rfl⟩, _, rfl⟩
  | ok node =>
    dsimp only
    cases walked : filesOf recursive node with
    | error unlisted => exact .inl ⟨.inr (barred_of_unlisted proper found walked), _, rfl⟩
    | ok files =>
      obtain ⟨here, unbarred⟩ := filesAt_of_walked proper found walked
      exact .inr ⟨files, here, unbarred, congrArg (Except.map List.flatten) List.mapM_map⟩

/-- Paths other than the standard input are worked through one by one, and the input is left. -/
theorem load_eq (named : ∀ path ∈ paths, isInput path = false) : load limit recursive source paths =
    (paths.mapM (refsAt limit recursive source)).map fun answers => (answers.flatten, source) := by
  induction paths with
  | nil => rfl
  | cons path rest ih =>
    obtain ⟨first, later⟩ := List.forall_mem_cons.mp named
    have atFirst : loadPath limit recursive source path =
        (refsAt limit recursive source path).map fun refs => (refs, source) := by
      rw [loadPath, if_neg (by simp [first]), refsAt]
      cases atPath source recursive path with
      | error cause => rfl
      | ok found => cases read : found.mapM (ofFile limit) <;> simp [read, Except.bind]
    rw [load, atFirst, List.mapM_cons]
    cases refsAt limit recursive source path with
    | error fault => rfl
    | ok refs =>
      simp only [Traversal.map_ok, Traversal.ok_bind, ih later]
      cases rest.mapM (refsAt limit recursive source) <;> rfl

section Below

variable (proper : source.Proper) (below : limit < Text.maxNat64)

include proper below

theorem refsAt_eq_ok :
    refsAt limit recursive source path = .ok refs ↔ Loads limit source recursive path refs := by
  obtain ⟨astray, cause, failed⟩ | ⟨files, here, unbarred, read⟩ := refsAt_cases proper limit recursive path
  · rw [failed]
    constructor
    · rintro ⟨⟩
    · rintro ⟨unbarred, files, answers, here, -⟩
      obtain ⟨node, found⟩ := here.found
      obtain ⟨fault, missing⟩ | barred := astray
      · cases missing.symm.trans found
      · exact absurd barred unbarred
  · rw [read]
    simp only [Traversal.map_eq_ok_iff, Traversal.mapM_eq_ok_iff, ofFile_eq_ok below]
    constructor
    · rintro ⟨answers, given, rfl⟩
      exact ⟨unbarred, files, answers, here, given, rfl⟩
    · rintro ⟨-, files', answers, here', given, rfl⟩
      cases here.unique here'
      exact ⟨answers, given, rfl⟩

theorem refsAt_fails : (∃ fault, refsAt limit recursive source path = .error fault) ↔
    (∃ fault, source.find path = .error fault) ∨ Barred source recursive path ∨
      ∃ files, FilesAt source recursive path files ∧ ∃ file ∈ files, Faulty limit file.2 := by
  obtain ⟨astray, cause, failed⟩ | ⟨files, here, unbarred, read⟩ := refsAt_cases proper limit recursive path
  · constructor
    · intro _
      exact astray.imp_right .inl
    · intro _
      exact ⟨_, failed⟩
  · rw [read]
    simp only [Traversal.map_eq_error_iff, Traversal.mapM_eq_error_iff, ofFile_fails below]
    constructor
    · intro failed
      exact .inr (.inr ⟨files, here, failed⟩)
    · rintro (⟨fault, missing⟩ | barred | ⟨files', here', failed⟩)
      · obtain ⟨node, found⟩ := here.found
        cases missing.symm.trans found
      · exact absurd barred unbarred
      · cases here.unique here'
        exact failed

variable (named : ∀ path ∈ paths, isInput path = false)

include named

theorem load_eq_ok (refs : List Reference) (left : Source) :
    load limit recursive source paths = .ok (refs, left) ↔ left = source ∧
      ∃ answers, List.Forall₂ (Loads limit source recursive) paths answers ∧ refs = answers.flatten := by
  rw [load_eq named]
  simp only [Traversal.map_eq_ok_iff, Traversal.mapM_eq_ok_iff, refsAt_eq_ok proper below, Prod.mk.injEq]
  constructor
  · rintro ⟨answers, given, rfl, rfl⟩
    exact ⟨rfl, answers, given, rfl⟩
  · rintro ⟨rfl, answers, given, rfl⟩
    exact ⟨answers, given, rfl, rfl⟩

theorem load_fails : (∃ fault, load limit recursive source paths = .error fault) ↔
    ∃ path ∈ paths, (∃ fault, source.find path = .error fault) ∨ Barred source recursive path ∨
      ∃ files, FilesAt source recursive path files ∧ ∃ file ∈ files, Faulty limit file.2 := by
  rw [load_eq named]
  simp only [Traversal.map_eq_error_iff, Traversal.mapM_eq_error_iff, refsAt_fails proper below]

end Below

theorem atPath_sublist {deep : List Found} (opened : atPath source true path = .ok deep) :
    ∃ flat, atPath source false path = .ok flat ∧ flat.Sublist deep := by
  unfold atPath at opened ⊢
  cases found : source.find path with
  | error fault =>
    rw [found] at opened
    cases opened
  | ok node =>
    rw [found] at opened
    dsimp only at opened ⊢
    cases node with
    | directory entries =>
      cases walked : filesOf true (.directory entries) with
      | error unlisted =>
        rw [walked] at opened
        cases opened
      | ok files =>
        rw [walked] at opened
        cases opened
        obtain ⟨flat, walked', fewer⟩ := inDirectory_sublist entries walked
        have walked' : filesOf false (.directory entries) = .ok flat := walked'
        rw [walked']
        exact ⟨_, rfl, fewer.map _⟩
    | closed reason => cases opened
    | _ => exact ⟨deep, opened, .refl deep⟩

theorem refsAt_sublist (path : String) (refs : List Reference)
    (loaded : refsAt limit true source path = .ok refs) :
    ∃ flat, refsAt limit false source path = .ok flat ∧ flat.Sublist refs := by
  rw [refsAt] at loaded ⊢
  cases opened : atPath source true path with
  | error cause =>
    rw [opened] at loaded
    cases loaded
  | ok deep =>
    obtain ⟨flat, opened', fewer⟩ := atPath_sublist opened
    rw [opened] at loaded
    obtain ⟨answers, worked, rfl⟩ := Traversal.map_eq_ok_iff.mp loaded
    obtain ⟨part, worked', sublist⟩ := Traversal.mapM_sublist fewer worked
    rw [opened']
    exact ⟨part.flatten, Traversal.map_eq_ok_iff.mpr ⟨part, worked', rfl⟩, sublist.flatten⟩

theorem load_sublist (named : ∀ path ∈ paths, isInput path = false)
    (loaded : load limit true source paths = .ok (refs, left)) :
    ∃ flat, load limit false source paths = .ok (flat, left) ∧ flat.Sublist refs := by
  rw [load_eq named, Traversal.map_eq_ok_iff] at loaded
  obtain ⟨answers, worked, same⟩ := loaded
  cases same
  obtain ⟨parts, worked', sublist⟩ := Traversal.mapM_flatten_sublist refsAt_sublist worked
  exact ⟨parts.flatten, by rw [load_eq named, worked']; rfl, sublist⟩

/-- With a limit that can be exceeded, all paths give the references of their files, path after path and file
after file, or some path is missing, some directory that has to be listed cannot be, or some file is faulty.
With any limit, entering directories only adds references between those without. -/
theorem load_tree (source : Source) (proper : source.Proper) (limit : Nat) (paths : List String)
    (named : ∀ path ∈ paths, isInput path = false) :
    (limit < Text.maxNat64 → ∀ recursive,
      (∀ refs left, load limit recursive source paths = .ok (refs, left) ↔ left = source ∧
        ∃ answers, List.Forall₂ (Loads limit source recursive) paths answers ∧ refs = answers.flatten) ∧
      ((∃ fault, load limit recursive source paths = .error fault) ↔
        ∃ path ∈ paths, (∃ fault, source.find path = .error fault) ∨ Barred source recursive path ∨
          ∃ files, FilesAt source recursive path files ∧ ∃ file ∈ files, Faulty limit file.2)) ∧
    ∀ refs left, load limit true source paths = .ok (refs, left) →
      ∃ flat, load limit false source paths = .ok (flat, left) ∧ flat.Sublist refs := by
  refine ⟨?_, fun refs left => load_sublist named⟩
  intro below recursive
  exact ⟨load_eq_ok proper below named, load_fails proper below named⟩

/-! A directory with an empty manifest beside a directory with another one, a file that is no text, and a
directory with one that cannot be listed. -/
namespace Shelf

def denied : String := PathFault.denied.message

def entries : FileTree :=
  [("notes.txt", .unreadable denied), ("b.yaml", .file []), ("a", .directory [("x.json", .file [])])]

def locked : FileTree := [("b.yaml", .file []), ("a", .closed denied)]

def root : FileTree :=
  [("w", .directory [("d", .directory entries), ("f", .file [0xff]), ("e", .directory locked)])]

def shelf : Source := .ofTree root ["w"] []

theorem proper_entries : entries.Proper := by
  refine .of_entries (by decide) fun name inner inside => ?_
  simp only [entries, List.mem_cons, Prod.mk.injEq, reduceCtorEq, and_false, false_or,
    FileNode.directory.injEq, List.not_mem_nil, or_false] at inside
  obtain ⟨-, rfl⟩ := inside
  exact .of_entries (by decide) fun name inner inside => by simp at inside

theorem proper_locked : locked.Proper :=
  .of_entries (by decide) fun name inner inside => by simp [locked] at inside

theorem proper_root : root.Proper := by
  refine .of_entries (by decide) fun name inner inside => ?_
  simp only [root, List.mem_cons, Prod.mk.injEq, FileNode.directory.injEq, List.not_mem_nil,
    or_false] at inside
  obtain ⟨-, rfl⟩ := inside
  refine .of_entries (by decide) fun name inner inside => ?_
  simp only [List.mem_cons, Prod.mk.injEq, reduceCtorEq, and_false, FileNode.directory.injEq,
    List.not_mem_nil, or_false, false_or] at inside
  obtain ⟨-, rfl⟩ | ⟨-, rfl⟩ := inside
  · exact proper_entries
  · exact proper_locked

theorem proper : shelf.Proper :=
  Source.proper_ofTree proper_root (by rintro target ⟨⟩) []

theorem find_d : shelf.find "d" = .ok (.directory entries) := by
  have found : root.find ["w"] "d" = .ok ((FileNode.directory entries).openedAt "d") :=
    FileTree.find_entry rfl (by decide) rfl rfl (by simp)
  exact found

theorem find_f : shelf.find "f" = .ok (.file [0xff]) := by
  have found : root.find ["w"] "f" = .ok ((FileNode.file [0xff]).openedAt "f") :=
    FileTree.find_entry rfl (by decide) rfl rfl (by simp)
  exact found

theorem find_e : shelf.find "e" = .ok (.directory locked) := by
  have found : root.find ["w"] "e" = .ok ((FileNode.directory locked).openedAt "e") :=
    FileTree.find_entry rfl (by decide) rfl rfl (by simp)
  exact found

theorem files_at_d : FilesAt shelf true "d" [(["a", "x.json"], .ok []), (["b.yaml"], .ok [])] :=
  .directory find_d (listing_of_walked entries proper_entries _ rfl)

theorem unbarred_d : ¬ Barred shelf true "d" := by
  have walked : filesOf true (.directory entries) =
      .ok [(["a", "x.json"], .ok []), (["b.yaml"], .ok [])] := rfl
  exact (filesAt_of_walked proper find_d walked).2

theorem references_of_empty (limit : Nat) : HasReferences limit (.ok []) [] :=
  ⟨[], "", rfl, Nat.zero_le _, by rw [Text.encode_eq]; rfl, rfl⟩

theorem faulty (limit : Nat) : Faulty limit (.ok [0xff]) := by
  apply Faulty.notText
  intro text same
  have read := Text.decodeText_eq_ok.mpr same
  cases read

end Shelf

theorem load_tree_shelf :
    Shelf.shelf.Proper ∧ 10 < Text.maxNat64 ∧ (∀ path ∈ ["d", "f"], isInput path = false) ∧
      load 10 true Shelf.shelf ["d"] = .ok ([], Shelf.shelf) ∧
      (∃ flat, load 10 false Shelf.shelf ["d"] = .ok (flat, Shelf.shelf) ∧ flat.Sublist []) ∧
      ∃ fault, load 10 false Shelf.shelf ["d", "f"] = .error fault := by
  have most : 10 < Text.maxNat64 := by decide
  have named : ∀ path ∈ ["d", "f"], isInput path = false := by decide
  have named' : ∀ path ∈ ["d"], isInput path = false := by decide
  obtain ⟨one, fewer⟩ := load_tree Shelf.shelf Shelf.proper 10 ["d"] named'
  obtain ⟨two, -⟩ := load_tree Shelf.shelf Shelf.proper 10 ["d", "f"] named
  have loads : Loads 10 Shelf.shelf true "d" [] :=
    ⟨Shelf.unbarred_d, _, [[], []], Shelf.files_at_d,
      .cons (Shelf.references_of_empty 10) (.cons (Shelf.references_of_empty 10) .nil), rfl⟩
  have loaded := ((one most true).1 [] _).mpr ⟨rfl, [[]], .cons loads .nil, rfl⟩
  have failed := (two most false).2.mpr ⟨"f", by simp, .inr (.inr
    ⟨_, .file Shelf.find_f rfl, _, List.mem_singleton_self _, Shelf.faulty 10⟩)⟩
  exact ⟨Shelf.proper, most, named, loaded, fewer _ _ loaded, failed⟩

/-- A directory below the one that is named cannot be listed. No path is missing and every selected file is
good, and yet there are no references. -/
theorem load_barred :
    (∃ fault, load 10 true Shelf.shelf ["e"] = .error fault) ∧
      ¬ ∃ path ∈ ["e"], (∃ fault, Shelf.shelf.find path = .error fault) ∨
        ∃ files, FilesAt Shelf.shelf true path files ∧ ∃ file ∈ files, Faulty 10 file.2 := by
  have barred : Barred Shelf.shelf true "e" :=
    .below Shelf.find_e rfl (.entry (List.mem_cons_of_mem _ List.mem_cons_self))
  constructor
  · exact (load_fails Shelf.proper (by decide) (by decide)).mpr
      ⟨"e", List.mem_singleton_self _, .inr (.inl barred)⟩
  · rintro ⟨path, named, wrong⟩
    rw [List.mem_singleton] at named
    subst named
    obtain ⟨fault, missing⟩ | ⟨files, here, file, member, faulty⟩ := wrong
    · cases missing.symm.trans Shelf.find_e
    · cases here with
      | file found content =>
        cases found.symm.trans Shelf.find_e
        cases content
      | directory found all =>
        cases found.symm.trans Shelf.find_e
        obtain ⟨place, content⟩ := file
        obtain ⟨name, node, entry, selected⟩ := selected_iff.mp ((all.mem_iff place content).mp member)
        simp only [Shelf.locked, List.mem_cons, Prod.mk.injEq, List.not_mem_nil, or_false] at entry
        obtain ⟨rfl, rfl⟩ | ⟨rfl, rfl⟩ := entry
        · obtain ⟨same, -⟩ | ⟨inner, -, directory, -⟩ := selected
          · cases same
            exact faulty_iff.mp faulty [] (Shelf.references_of_empty 10)
          · cases directory
        · obtain ⟨file, -⟩ | ⟨inner, -, directory, -⟩ := selected
          · cases file
          · cases directory

end Rollback.Manifest
