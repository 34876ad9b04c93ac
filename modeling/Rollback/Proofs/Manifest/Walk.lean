import Mathlib.Data.List.Flatten
import Rollback.Proofs.Manifest.Files
import Rollback.Proofs.Places
import Rollback.Proofs.Text.Cut
import Rollback.Proofs.Traversal

/-! Directories of manifests. The order of places is that in which directories are entered where their names
stand. The manifests of a directory are found in that order, each once, however the directory lists its
entries, unless a directory that has to be entered cannot be listed. -/
namespace Rollback.Manifest

/-- A name with one of the extensions of manifests, after a name that is not empty. -/
def IsManifestName (name : String) : Prop :=
  ∃ stem extension, stem ≠ "" ∧ extension ∈ extensions ∧ name = stem ++ "." ++ extension

/-- The place of a file to be read: its name is that of a manifest, and it stands in the directory itself
or directories are entered. -/
def Selected (recursive : Bool) (tree : FileTree) (place : List String) (content : FileContent) : Prop :=
  ∃ above name node, place = above ++ [name] ∧ IsManifestName name ∧ tree.HasAt place node ∧
    node.content? = some content ∧ (recursive = true ∨ above = [])

variable {recursive : Bool} {tree inner : FileTree} {place : List String} {name : String} {node : FileNode}
  {content : FileContent} {found : List Placed} {unlisted : Unlisted}

theorem extension?_eq_some {ending : String} : extension? name = some ending ↔
    '.' ∉ ending.toList ∧ ∃ stem, stem ≠ "" ∧ name = stem ++ "." ++ ending := by
  constructor
  · intro found
    unfold extension? at found
    split at found
    · cases found
    · cases found
    · next after stem more cut =>
      cases found
      obtain ⟨absent, whole⟩ := Text.cutChars_eq_some.mp cut
      refine ⟨by simpa using absent, String.ofList stem.reverse, ?_, ?_⟩
      · intro empty
        exact more (by simpa using empty)
      · rw [← String.toList_inj, ← List.reverse_inj, whole]
        simp
  · rintro ⟨absent, stem, filled, rfl⟩
    have cut : Text.cutChars '.' (stem ++ "." ++ ending).toList.reverse =
        some (ending.toList.reverse, stem.toList.reverse) :=
      Text.cutChars_eq_some.mpr ⟨by simpa using absent, by simp⟩
    cases reversed : stem.toList.reverse with
    | nil => exact absurd (by simpa using reversed) filled
    | cons c rest =>
      rw [extension?, cut, reversed]
      simp

theorem hasManifestExtension_iff : hasManifestExtension name = true ↔ IsManifestName name := by
  have plain : ∀ ending ∈ extensions, '.' ∉ ending.toList := by decide
  rw [hasManifestExtension, Option.any_eq_true]
  constructor
  · rintro ⟨ending, found, known⟩
    obtain ⟨-, stem, filled, whole⟩ := extension?_eq_some.mp found
    exact ⟨stem, ending, filled, List.contains_iff_mem.mp known, whole⟩
  · rintro ⟨stem, ending, filled, known, whole⟩
    exact ⟨ending, extension?_eq_some.mpr ⟨plain ending known, stem, filled, whole⟩,
      List.contains_iff_mem.mpr known⟩

theorem below_eq_ok {walk : Walk} : walk.below name = .ok found ↔
    ∃ inner, walk = .ok inner ∧ found = under name inner := by
  cases walk with
  | error u => simp [Walk.below]
  | ok inner => simp [Walk.below, under, eq_comm]

theorem below_eq_error {walk : Walk} : walk.below name = .error unlisted ↔
    ∃ u, walk = .error u ∧ unlisted = { u with place := name :: u.place } := by
  cases walk with
  | error u => simp [Walk.below, eq_comm]
  | ok inner => simp [Walk.below]

theorem inEntries_eq (recursive : Bool) (tree : FileTree) :
    inEntries recursive tree = tree.map fun e => (e.1, inNode recursive e.1 e.2) := by
  induction tree with
  | nil => rfl
  | cons entry rest ih => rw [inEntries, ih, List.map_cons]

theorem inDirectory_eq (recursive : Bool) (tree : FileTree) : inDirectory recursive tree =
    ((sortEntries tree).mapM fun e => inNode recursive e.1 e.2).map List.flatten := by
  rw [inDirectory, inOrder, inEntries_eq, sortEntries_map, List.mapM_map]
  rfl

theorem inNode_directory : inNode recursive name (.directory inner) =
    if recursive then (inDirectory recursive inner).below name else .ok [] := by
  rw [inNode, inDirectory]

theorem inNode_closed {reason : String} : inNode recursive name (.closed reason) =
    if recursive then .error ⟨[name], reason⟩ else .ok [] := by
  rw [inNode]

theorem inNode_of_content (file : node.content? = some content) : inNode recursive name node =
    .ok (if hasManifestExtension name then [([name], content)] else []) := by
  cases node <;> cases file <;> cases manifest : hasManifestExtension name <;>
    simp [inNode, manifest, FileNode.content?]

theorem inNode_link {target : String} : inNode recursive name (.link target) = .ok [] := by
  simp [inNode, FileNode.content?]

/-- What a walk comes to at an entry: a file, what is found in a directory that is entered, or nothing. -/
inductive Entry (recursive : Bool) (name : String) : FileNode → List Placed → Prop where
  | file {node : FileNode} {content : FileContent} (file : node.content? = some content) :
      Entry recursive name node (if hasManifestExtension name then [([name], content)] else [])
  | entered {inner : FileTree} {deeper : List Placed} (entered : recursive = true)
      (listed : inDirectory recursive inner = .ok deeper) :
      Entry recursive name (.directory inner) (under name deeper)
  | passed {node : FileNode} (other : node.content? = none)
      (passed : ∀ inner, node = .directory inner → recursive = false) : Entry recursive name node []

theorem entry_of_walked (walked : inNode recursive name node = .ok found) :
    Entry recursive name node found := by
  obtain ⟨content, file⟩ | ⟨target, rfl⟩ | ⟨inner, rfl⟩ | ⟨reason, rfl⟩ := node.shape
  · rw [inNode_of_content file] at walked
    cases walked
    exact .file file
  · rw [inNode_link] at walked
    cases walked
    exact .passed rfl nofun
  · rw [inNode_directory] at walked
    split at walked
    · next entered =>
      obtain ⟨deeper, listed, rfl⟩ := below_eq_ok.mp walked
      exact .entered entered listed
    · next passed =>
      cases walked
      exact .passed rfl fun _ _ => Bool.eq_false_iff.mpr passed
  · rw [inNode_closed] at walked
    split at walked
    · cases walked
    · cases walked
      exact .passed rfl nofun

theorem mem_manifest (place : List String) (content' : FileContent) :
    (place, content') ∈ (if hasManifestExtension name then [([name], content)] else []) ↔
      place = [name] ∧ content' = content ∧ IsManifestName name := by
  rw [← hasManifestExtension_iff]
  split
  · next manifest => simp [manifest]
  · next other => simp [other]

/-- What is found at an entry is at its name or below. -/
theorem head_of_mem_inNode (walked : inNode recursive name node = .ok found)
    (inside : (place, content) ∈ found) : ∃ below, place = name :: below := by
  cases entry_of_walked walked with
  | file file => exact ⟨[], ((mem_manifest _ _).mp inside).1⟩
  | entered entered listed =>
    obtain ⟨below, rfl, -⟩ := mem_under.mp inside
    exact ⟨below, rfl⟩
  | passed => cases inside

section Below

variable (below : ∀ inner deeper, node = .directory inner → inDirectory recursive inner = .ok deeper →
  Listing (Selected recursive inner) deeper)

include below

theorem inNode_ordered (walked : inNode recursive name node = .ok found) :
    (found.map Prod.fst).Pairwise (· < ·) := by
  cases entry_of_walked walked with
  | file file => split <;> simp
  | entered entered listed => exact ordered_under (below _ _ rfl listed).ordered name
  | passed => exact .nil

theorem mem_inNode (walked : inNode recursive name node = .ok found) : (place, content) ∈ found ↔
    (node.content? = some content ∧ place = [name] ∧ IsManifestName name) ∨
      ∃ inner rest, node = .directory inner ∧ recursive = true ∧ place = name :: rest ∧
        Selected recursive inner rest content := by
  cases entry_of_walked walked with
  | file file =>
    rw [mem_manifest]
    constructor
    · rintro ⟨rfl, rfl, manifest⟩
      exact .inl ⟨file, rfl, manifest⟩
    · rintro (⟨file', rfl, manifest⟩ | ⟨inner, rest, rfl, -⟩)
      · exact ⟨rfl, Option.some.inj (file'.symm.trans file), manifest⟩
      · cases file
  | @entered inner deeper entered listed =>
    rw [mem_under]
    constructor
    · rintro ⟨rest, rfl, inside⟩
      exact .inr ⟨inner, rest, rfl, entered, rfl, ((below inner deeper rfl listed).mem_iff _ _).mp inside⟩
    · rintro (⟨file, -⟩ | ⟨inner', rest, same, -, rfl, selected⟩)
      · cases file
      · cases same
        exact ⟨rest, rfl, ((below inner deeper rfl listed).mem_iff _ _).mpr selected⟩
  | passed other passed =>
    constructor
    · intro inside
      cases inside
    · rintro (⟨file, -⟩ | ⟨inner, rest, directory, entered, -⟩)
      · cases other.symm.trans file
      · cases entered.symm.trans (passed inner directory)

end Below

/-- A manifest is at an entry of a directory, or below an entry that is a directory. -/
theorem selected_iff : Selected recursive tree place content ↔ ∃ name node, (name, node) ∈ tree ∧
    ((node.content? = some content ∧ place = [name] ∧ IsManifestName name) ∨
      ∃ inner rest, node = .directory inner ∧ recursive = true ∧ place = name :: rest ∧
        Selected recursive inner rest content) := by
  constructor
  · rintro ⟨above, name, node, rfl, manifest, holds, file, depth⟩
    generalize whole : above ++ [name] = place at holds
    cases holds with
    | @entry _ first _ inside =>
      have same : above = [] ∧ name = first := by
        cases above <;> simp_all
      obtain ⟨rfl, rfl⟩ := same
      exact ⟨name, node, inside, .inl ⟨file, rfl, manifest⟩⟩
    | @deeper _ inner first below _ inside further =>
      cases above with
      | nil =>
        cases whole
        cases further
      | cons first' above =>
        cases whole
        have entered : recursive = true := depth.resolve_right (List.cons_ne_nil _ _)
        exact ⟨first, .directory inner, inside, .inr ⟨inner, _, rfl, entered, rfl,
          above, name, node, rfl, manifest, further, file, .inl entered⟩⟩
  · rintro ⟨name, node, inside, ⟨file, rfl, manifest⟩ | ⟨inner, below, rfl, entered, rfl, selected⟩⟩
    · exact ⟨[], name, node, rfl, manifest, .entry inside, file, .inr rfl⟩
    · obtain ⟨above, last, node, rfl, manifest, holds, file, -⟩ := selected
      exact ⟨name :: above, last, node, rfl, manifest, .deeper inside holds, file, .inl entered⟩

/-- A walk that is not stopped finds the manifests of a directory in the order of their places. -/
theorem listing_of_walked (tree : FileTree) (proper : tree.Proper) (found : List Placed)
    (walked : inDirectory recursive tree = .ok found) : Listing (Selected recursive tree) found := by
  have sorted : KeysIncrease (sortEntries tree) := KeysIncrease.nil.foldl_insert tree
  have same (e : String × FileNode) : e ∈ sortEntries tree ↔ e ∈ tree :=
    (sortEntries_perm proper.root).mem_iff
  have below (e : String × FileNode) (member : e ∈ tree) (inner : FileTree) (deeper : List Placed)
      (directory : e.2 = .directory inner) (listed : inDirectory recursive inner = .ok deeper) :
      Listing (Selected recursive inner) deeper := by
    obtain ⟨name, node⟩ := e
    cases directory
    have smaller := FileTree.sizeOf_lt_of_mem member
    exact listing_of_walked inner (proper.of_mem member) deeper listed
  rw [inDirectory_eq] at walked
  obtain ⟨parts, worked, rfl⟩ := Traversal.map_eq_ok_iff.mp walked
  have pairs := Traversal.forall₂_of_mapM worked
  constructor
  · rw [List.pairwise_map, List.pairwise_flatten]
    constructor
    · intro part member
      obtain ⟨e, inside, part_of_e⟩ := Traversal.exists_of_forall₂ pairs member
      rw [← List.pairwise_map (f := Prod.fst)]
      exact inNode_ordered (below e ((same e).mp inside)) part_of_e
    · rw [KeysIncrease, List.pairwise_map] at sorted
      apply Traversal.pairwise_of_forall₂ pairs sorted
      intro a b part part' before part_of_a part_of_b x here y there
      obtain ⟨rest, atX⟩ := head_of_mem_inNode part_of_a here
      obtain ⟨rest', atY⟩ := head_of_mem_inNode part_of_b there
      rw [atX, atY]
      exact List.cons_lt_cons_iff.mpr (.inl before)
  · intro place content
    rw [List.mem_flatten, selected_iff]
    constructor
    · rintro ⟨part, member, inside⟩
      obtain ⟨⟨name, node⟩, entry, walked⟩ := Traversal.exists_of_forall₂ pairs member
      rw [same] at entry
      exact ⟨name, node, entry, (mem_inNode (below _ entry) walked).mp inside⟩
    · rintro ⟨name, node, entry, selected⟩
      obtain ⟨part, member, walked⟩ := Traversal.exists_of_forall₂ pairs.flip ((same _).mpr entry)
      exact ⟨part, member, (mem_inNode (below _ entry) walked).mpr selected⟩
termination_by sizeOf tree

/-- A walk is stopped at a directory of the tree that cannot be listed. -/
theorem hasAt_of_unlisted (tree : FileTree) (proper : tree.Proper) (unlisted : Unlisted)
    (stopped : inDirectory recursive tree = .error unlisted) :
    recursive = true ∧ tree.HasAt unlisted.place (.closed unlisted.reason) := by
  rw [inDirectory_eq, Traversal.map_eq_error_iff, Traversal.mapM_eq_error_iff_first] at stopped
  obtain ⟨before, ⟨name, node⟩, after, whole, -, failed⟩ := stopped
  have inside : (name, node) ∈ tree := by
    rw [← (sortEntries_perm proper.root).mem_iff, whole]
    exact List.mem_append_right _ List.mem_cons_self
  obtain ⟨content, file⟩ | ⟨target, rfl⟩ | ⟨inner, rfl⟩ | ⟨reason, rfl⟩ := node.shape
  · rw [inNode_of_content file] at failed
    cases failed
  · rw [inNode_link] at failed
    cases failed
  · rw [inNode_directory] at failed
    split at failed
    · next entered =>
      obtain ⟨u, deeper, rfl⟩ := below_eq_error.mp failed
      have smaller := FileTree.sizeOf_lt_of_mem inside
      exact ⟨entered, .deeper inside (hasAt_of_unlisted inner (proper.of_mem inside) u deeper).2⟩
    · cases failed
  · rw [inNode_closed] at failed
    split at failed
    · next entered =>
      cases failed
      exact ⟨entered, .entry inside⟩
    · cases failed
termination_by sizeOf tree

/-- No walk that enters directories gets past one that cannot be listed. -/
theorem unlisted_of_hasAt {reason : String} (proper : tree.Proper)
    (holds : tree.HasAt place (.closed reason)) : ∃ unlisted, inDirectory true tree = .error unlisted := by
  generalize stop : FileNode.closed reason = node at holds
  induction holds with
  | @entry tree name node inside =>
    subst stop
    rw [inDirectory_eq]
    simp only [Traversal.map_eq_error_iff, Traversal.mapM_eq_error_iff]
    refine ⟨(name, .closed reason), (sortEntries_perm proper.root).mem_iff.mpr inside, ⟨[name], reason⟩, ?_⟩
    rw [inNode_closed, if_pos rfl]
  | @deeper tree inner name place node inside _ ih =>
    obtain ⟨u, failed⟩ := ih (proper.of_mem inside) stop
    rw [inDirectory_eq]
    simp only [Traversal.map_eq_error_iff, Traversal.mapM_eq_error_iff]
    refine ⟨(name, .directory inner), (sortEntries_perm proper.root).mem_iff.mpr inside,
      { u with place := name :: u.place }, ?_⟩
    rw [inNode_directory, if_pos rfl, failed]
    rfl

/-- A walk that does not enter directories cannot be stopped, and finds nothing else than one that does. -/
theorem inDirectory_sublist (tree : FileTree) (walked : inDirectory true tree = .ok found) :
    ∃ flat, inDirectory false tree = .ok flat ∧ flat.Sublist found := by
  rw [inDirectory_eq] at walked ⊢
  obtain ⟨parts, worked, rfl⟩ := Traversal.map_eq_ok_iff.mp walked
  have each (e : String × FileNode) (part : List Placed) (walked : inNode true e.1 e.2 = .ok part) :
      ∃ flat, inNode false e.1 e.2 = .ok flat ∧ flat.Sublist part := by
    obtain ⟨content, file⟩ | ⟨target, link⟩ | ⟨inner, directory⟩ | ⟨reason, closed⟩ := e.2.shape
    · rw [inNode_of_content file] at walked ⊢
      exact ⟨part, walked, .refl part⟩
    · exact ⟨[], by rw [link, inNode_link], List.nil_sublist part⟩
    · exact ⟨[], by rw [directory, inNode_directory]; rfl, List.nil_sublist part⟩
    · exact ⟨[], by rw [closed, inNode_closed]; rfl, List.nil_sublist part⟩
  obtain ⟨flats, worked', sublist⟩ := Traversal.mapM_flatten_sublist each worked
  exact ⟨flats.flatten, by rw [worked']; rfl, sublist⟩

end Rollback.Manifest
