import Mathlib.Data.List.Basic
import Rollback.Manifest.Load
import Rollback.Proofs.Json.Members
import Rollback.Proofs.Traversal

/-! Trees of files and what paths lead to in them. A place in a directory is the list of names on the way to
it. Whatever path is followed, it leads to a place of the tree and through links to their ends, and of what
stands there only that is opened whose own path is not too large. -/
namespace Rollback

/-- The names of a place lead from a directory to a node. -/
inductive FileTree.HasAt : FileTree → List String → FileNode → Prop where
  | entry {tree : FileTree} {name : String} {node : FileNode} (inside : (name, node) ∈ tree) :
      HasAt tree [name] node
  | deeper {tree inner : FileTree} {name : String} {place : List String} {node : FileNode}
      (inside : (name, .directory inner) ∈ tree) (further : HasAt inner place node) :
      HasAt tree (name :: place) node

/-- No directory of a tree has two entries of one name. -/
structure FileTree.Proper (tree : FileTree) : Prop where
  root : (tree.map (·.1)).Nodup
  inner : ∀ place entries, tree.HasAt place (.directory entries) → (entries.map (·.1)).Nodup

/-- Paths lead through links to their ends, and to directories whose entries have different names. -/
structure Manifest.Source.Proper (source : Source) : Prop where
  followed : ∀ path target, source.find path ≠ .ok (.link target)
  directory : ∀ path entries, source.find path = .ok (.directory entries) → FileTree.Proper entries

/-- A node is a file, a link, or a directory that is open or closed. -/
theorem FileNode.shape (node : FileNode) : (∃ content, node.content? = some content) ∨
    (∃ target, node = .link target) ∨ (∃ entries, node = .directory entries) ∨
      ∃ reason, node = .closed reason := by
  cases node with
  | file octets => exact .inl ⟨.ok octets, rfl⟩
  | unreadable reason => exact .inl ⟨.error reason, rfl⟩
  | link target => exact .inr (.inl ⟨target, rfl⟩)
  | directory entries => exact .inr (.inr (.inl ⟨entries, rfl⟩))
  | closed reason => exact .inr (.inr (.inr ⟨reason, rfl⟩))

theorem openedIn_eq (path : String) (tree : FileTree) :
    openedIn path tree = tree.map fun e => (e.1, e.2.openedAt (joinPath path e.1)) := by
  induction tree with
  | nil => rfl
  | cons entry rest ih => rw [openedIn, ih, List.map_cons]

theorem FileNode.openedAt_eq_link {node : FileNode} {path target : String}
    (opened : node.openedAt path = .link target) : node = .link target := by
  cases node with
  | link target' => exact opened
  | directory entries =>
    rw [openedAt] at opened
    split at opened <;> cases opened
  | closed reason => cases opened
  | file octets =>
    rw [openedAt] at opened
    split at opened <;> cases opened
  | unreadable reason => cases opened

theorem FileNode.openedAt_eq_directory {node : FileNode} {path : String} {entries : FileTree}
    (opened : node.openedAt path = .directory entries) :
    ∃ inner, node = .directory inner ∧ entries = openedIn path inner := by
  cases node with
  | directory inner =>
    rw [openedAt] at opened
    split at opened
    · cases opened
    · cases opened
      exact ⟨inner, rfl, rfl⟩
  | file octets =>
    rw [openedAt] at opened
    split at opened <;> cases opened
  | _ => cases opened

namespace FileTree

variable {tree inner : FileTree} {place below : List String} {name : String} {node : FileNode}

theorem HasAt.trans (above : tree.HasAt place (.directory inner)) (further : inner.HasAt below node) :
    tree.HasAt (place ++ below) node := by
  generalize stop : FileNode.directory inner = target at above
  induction above with
  | entry inside =>
    subst stop
    exact .deeper inside further
  | deeper inside _ ih => exact .deeper inside (ih stop)

theorem Proper.of_hasAt (proper : tree.Proper) (above : tree.HasAt place (.directory inner)) :
    inner.Proper :=
  ⟨proper.inner place inner above, fun _ _ further => proper.inner _ _ (above.trans further)⟩

theorem Proper.of_mem (proper : tree.Proper) (inside : (name, .directory inner) ∈ tree) : inner.Proper :=
  proper.of_hasAt (.entry inside)

/-- A tree is proper if its entries have different names and the directories among them are proper. -/
theorem Proper.of_entries (root : (tree.map (·.1)).Nodup)
    (inner : ∀ name entries, (name, .directory entries) ∈ tree → Proper entries) : tree.Proper := by
  constructor
  · exact root
  · intro place entries holds
    cases holds with
    | entry inside => exact (inner _ entries inside).root
    | deeper inside further => exact (inner _ _ inside).inner _ entries further

theorem sizeOf_lt_of_mem (inside : (name, .directory inner) ∈ tree) : sizeOf inner < sizeOf tree := by
  have whole := List.sizeOf_lt_of_mem inside
  simp only [Prod.mk.sizeOf_spec, FileNode.directory.sizeOf_spec] at whole
  omega

theorem hasAt_of_openedIn {path : String} {tree' : FileTree} (same : tree' = openedIn path tree)
    (holds : tree'.HasAt place node) :
    ∃ node' path', tree.HasAt place node' ∧ node = node'.openedAt path' := by
  induction holds generalizing tree path with
  | @entry _ name node inside =>
    rw [same, openedIn_eq, List.mem_map] at inside
    obtain ⟨⟨name', node'⟩, inside, opened⟩ := inside
    cases opened
    exact ⟨node', _, .entry inside, rfl⟩
  | @deeper _ inner name place node inside _ ih =>
    rw [same, openedIn_eq, List.mem_map] at inside
    obtain ⟨⟨name', node'⟩, inside, opened⟩ := inside
    simp only [Prod.mk.injEq] at opened
    obtain ⟨rfl, opened⟩ := opened
    obtain ⟨inner', rfl, rfl⟩ := FileNode.openedAt_eq_directory opened
    obtain ⟨found, path', further, rfl⟩ := ih rfl
    exact ⟨found, path', .deeper inside further, rfl⟩

theorem Proper.openedIn (proper : tree.Proper) (path : String) :
    FileTree.Proper (openedIn path tree) := by
  have names (path : String) (tree : FileTree) : (Rollback.openedIn path tree).map (·.1) = tree.map (·.1) := by
    rw [openedIn_eq, List.map_map]
    rfl
  constructor
  · rw [names]
    exact proper.root
  · intro place entries holds
    obtain ⟨node, path', held, opened⟩ := hasAt_of_openedIn rfl holds
    obtain ⟨inner, rfl, rfl⟩ := FileNode.openedAt_eq_directory opened.symm
    rw [names]
    exact proper.inner place inner held

theorem nodeAt?_eq_some (found : nodeAt? tree place = some node) :
    (place = [] ∧ node = .directory tree) ∨ tree.HasAt place node := by
  induction place generalizing tree with
  | nil =>
    cases found
    exact .inl ⟨rfl, rfl⟩
  | cons name rest ih =>
    rw [nodeAt?] at found
    split at found
    · next inner entry =>
      have inside := mem_of_lookup entry
      obtain ⟨rfl, rfl⟩ | further := ih found
      · exact .inr (.entry inside)
      · exact .inr (.deeper inside further)
    · next node' entry =>
      split at found
      · next last =>
        cases found
        rw [List.isEmpty_iff] at last
        subst last
        exact .inr (.entry (mem_of_lookup entry))
      · cases found
    · cases found

theorem nodeAt?_concat (place : List String) (name : String) : nodeAt? tree (place ++ [name]) =
    match nodeAt? tree place with
    | some (.directory entries) => lookup name entries
    | _ => none := by
  induction place generalizing tree with
  | nil =>
    simp only [List.nil_append, nodeAt?]
    cases lookup name tree with
    | none => rfl
    | some node => cases node <;> rfl
  | cons first rest ih =>
    simp only [List.cons_append, nodeAt?]
    cases lookup first tree with
    | none => rfl
    | some node =>
      cases node with
      | directory entries => exact ih
      | _ => cases rest <;> rfl

/-- What a path leads to is in the tree, and links on the way are followed to their ends. -/
theorem follow_eq_ok (links : Nat) (here path : List String)
    (found : follow tree links here path = .ok node)
    (start : ∀ target, nodeAt? tree here.reverse ≠ some (.link target)) :
    (∃ place, nodeAt? tree place = some node) ∧ ∀ target, node ≠ .link target := by
  cases path with
  | nil =>
    rw [follow] at found
    split at found
    · next there =>
      cases found
      refine ⟨⟨_, there⟩, ?_⟩
      rintro target rfl
      exact start target there
    · cases found
  | cons name rest =>
    rw [follow] at found
    split at found
    · next entries directory =>
      split at found
      · exact follow_eq_ok links here rest found start
      · split at found
        · apply follow_eq_ok links (here.drop 1) rest found
          -- What has a directory in it is one itself, so one step up there is no link.
          cases here with
          | nil => exact start
          | cons last above =>
            intro target link
            rw [List.reverse_cons, nodeAt?_concat] at directory
            rw [List.drop_one, List.tail_cons] at link
            rw [link] at directory
            cases directory
        · split at found
          · cases found
          · split at found
            · next target entry =>
              split at found
              · cases found
              · next links =>
                apply follow_eq_ok links _ _ found
                unfold FileTree.start
                split
                · intro target link
                  cases link
                · exact start
            · next node' notLink entry =>
              apply follow_eq_ok links (name :: here) rest found
              intro target link
              rw [List.reverse_cons, nodeAt?_concat, directory] at link
              exact notLink target (Option.some.inj (entry.symm.trans link))
            · cases found
    · split at found
      · exact follow_eq_ok links here rest found start
      · cases found
    · cases found
    · cases found
termination_by (links, path.length)

/-- A path leads to what is opened of the root or of something inside it that is no link, unless the working
directory is one. -/
theorem find_eq_ok {working : List String} {path : String} (found : tree.find working path = .ok node)
    (stands : ∀ target, nodeAt? tree working ≠ some (.link target)) :
    ∃ node', (node' = .directory tree ∨ ∃ place, tree.HasAt place node') ∧
      (∀ target, node' ≠ .link target) ∧ node = node'.openedAt path := by
  unfold find at found
  split at found
  · cases found
  · split at found
    · cases found
    · split at found
      · cases found
      · have begins : ∀ target,
            nodeAt? tree (start working.reverse path).reverse ≠ some (.link target) := by
          unfold start
          split
          · intro target link
            cases link
          · rw [List.reverse_reverse]
            exact stands
        cases followed : follow tree maxLinks (start working.reverse path) (names path) with
        | error fault =>
          rw [followed] at found
          cases found
        | ok node' =>
          rw [followed] at found
          cases found
          obtain ⟨⟨place, there⟩, notLink⟩ := follow_eq_ok _ _ _ followed begins
          refine ⟨node', ?_, notLink, rfl⟩
          obtain ⟨-, rfl⟩ | holds := nodeAt?_eq_some there
          · exact .inl rfl
          · exact .inr ⟨place, holds⟩

/-- An entry of the working directory is found by its name. -/
theorem find_entry {working : List String} {entries : FileTree} (plain : names name = [name])
    (valid : Text.has '\x00' name = false ∧ Text.startsWith "/" name = false ∧ name ∉ ["", ".", ".."] ∧
      name.utf8ByteSize ≤ maxNameSize)
    (stands : nodeAt? tree working = some (.directory entries)) (inside : lookup name entries = some node)
    (notLink : ∀ target, node ≠ .link target) :
    tree.find working name = .ok (node.openedAt name) := by
  obtain ⟨whole, relative, other, short⟩ := valid
  simp only [List.mem_cons, List.not_mem_nil, or_false, not_or] at other
  obtain ⟨filled, dot, dots⟩ := other
  have begins : start working.reverse name = working.reverse := by simp [start, relative]
  have stop : nodeAt? tree (name :: working.reverse).reverse = some node := by
    rw [List.reverse_cons, List.reverse_reverse, nodeAt?_concat, stands]
    exact inside
  have there : follow tree maxLinks (name :: working.reverse) [] = .ok node := by rw [follow, stop]
  have fits : exceeds name = false := by
    have far : maxNameSize ≤ maxPathSize := by decide
    exact decide_eq_false (by omega)
  rw [find, whole, fits, plain, begins, follow, List.reverse_reverse, stands]
  simp [filled, dot, dots, not_lt.mpr short, inside, there]

end FileTree

/-- A file system in which no directory has two entries of one name, seen from a directory in it. -/
theorem Manifest.Source.proper_ofTree {tree : FileTree} (proper : tree.Proper) {working : List String}
    (stands : ∀ target, tree.nodeAt? working ≠ some (.link target)) (input : List UInt8) :
    (Source.ofTree tree working input).Proper := by
  constructor
  · intro path target found
    obtain ⟨node, -, notLink, opened⟩ := FileTree.find_eq_ok found stands
    exact notLink target (FileNode.openedAt_eq_link opened.symm)
  · intro path entries found
    obtain ⟨node, held, -, opened⟩ := FileTree.find_eq_ok found stands
    obtain ⟨inner, rfl, rfl⟩ := FileNode.openedAt_eq_directory opened.symm
    obtain same | ⟨place, holds⟩ := held
    · cases same
      exact proper.openedIn path
    · exact (proper.of_hasAt holds).openedIn path

end Rollback
