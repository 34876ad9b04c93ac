import Mathlib.Data.List.ProdSigma
import Rollback.Proofs.Text.Cut
import Rollback.Proofs.Text.Pieces
import Rollback.Proofs.Traversal
import Rollback.Workload.Argument

/-! The grammar of the targets on a command line. One slash anywhere makes every text a `TYPE/NAME`. Without
slashes the first text is a list of types, and the others are names that go with each of them. -/
namespace Rollback.Argument

/-- A text of a resource and a name with its only slash between them. -/
structure Slashed (arg resource name : String) : Prop where
  whole : arg = resource ++ "/" ++ name
  filled : resource ≠ "" ∧ name ≠ ""
  unslashed : '/' ∉ resource.toList ∧ '/' ∉ name.toList

def NamesTarget (arg : String) (target : Argument) : Prop :=
  ∃ resource name, Slashed arg resource name ∧ target = .typed resource (some name)

/-- A text of types with commas between them. A type may be empty here. -/
structure Listed (text : String) (types : List String) : Prop where
  nonempty : types ≠ []
  plain : ∀ t ∈ types, ',' ∉ t.toList
  whole : ",".intercalate types = text

/-- The targets of the types, one after the other: each with every name, or alone without names. -/
def combinations (types names : List String) : List Argument :=
  if names = [] then types.map fun t => .typed t none
  else (types ×ˢ names).map fun (t, name) => .typed t (some name)

/-- A target of a type, with or without a name, in which no slash stands. -/
def Unslashed (target : Argument) : Prop :=
  ∃ resource name?, target = .typed resource name? ∧ resource ≠ "" ∧ '/' ∉ resource.toList ∧
    ∀ name ∈ name?, '/' ∉ name.toList

variable {arg first : String} {args names types : List String} {target : Argument}
  {out : List Argument}

theorem cut_of_slashed {resource name : String} (slashed : Slashed arg resource name) :
    Text.cut '/' arg = some (resource, name) :=
  Text.cut_eq_some.mpr ⟨slashed.unslashed.1, by simp [slashed.whole]⟩

theorem parseSlashed_eq_ok : parseSlashed arg = .ok target ↔ NamesTarget arg target := by
  constructor
  · intro parsed
    unfold parseSlashed at parsed
    split at parsed
    · cases parsed
    · next resource name found =>
      obtain ⟨unslashed, whole⟩ := Text.cut_eq_some.mp found
      split at parsed
      · cases parsed
      · next single =>
        split at parsed
        · cases parsed
        · next filled =>
          cases parsed
          refine ⟨resource, name, ⟨?_, not_or.mp filled, unslashed, ?_⟩, rfl⟩
          · rw [← String.toList_inj, whole]
            simp
          · simpa [Text.has] using single
  · rintro ⟨resource, name, slashed, rfl⟩
    obtain ⟨nonempty, named⟩ := slashed.filled
    simp [parseSlashed, cut_of_slashed slashed, Text.has, slashed.unslashed.2, nonempty, named]

theorem exists_namesTarget_iff :
    (∃ target, NamesTarget arg target) ↔ ∃ resource name, Slashed arg resource name :=
  ⟨fun ⟨_, resource, name, slashed, _⟩ => ⟨resource, name, slashed⟩,
    fun ⟨resource, name, slashed⟩ => ⟨_, resource, name, slashed, rfl⟩⟩

theorem unslashed_of_namesTarget (named : NamesTarget arg target) : target.Unslashed := by
  obtain ⟨resource, name, slashed, rfl⟩ := named
  refine ⟨resource, some name, rfl, slashed.filled.1, slashed.unslashed.1, ?_⟩
  rintro _ ⟨⟩
  exact slashed.unslashed.2

theorem parse_of_slash (slash : ∃ arg ∈ args, '/' ∈ arg.toList) :
    parse args = args.mapM parseSlashed := by
  cases args with
  | nil =>
    obtain ⟨arg, member, -⟩ := slash
    cases member
  | cons first names =>
    have found : (first :: names).any (Text.has '/') = true := by simpa [Text.has] using slash
    simp only [parse, found, if_true]

theorem listed_iff : Listed first types ↔ Text.splitAt ',' first = types := by
  rw [Text.splitAt_eq_iff]
  exact ⟨fun listed => ⟨listed.nonempty, listed.plain, listed.whole⟩,
    fun ⟨nonempty, plain, whole⟩ => ⟨nonempty, plain, whole⟩⟩

theorem flatMap_ofType (names types : List String) :
    types.flatMap (ofType names) = combinations types names := by
  unfold combinations
  split
  · next none =>
    subst none
    induction types with
    | nil => rfl
    | cons t rest ih => simpa [ofType] using ih
  · next named =>
    have each : ofType names = fun t => names.map fun name => .typed t (some name) := by
      funext t
      rw [ofType, if_neg (by simpa using named)]
    simp [each, SProd.sprod, List.product, List.map_flatMap, Function.comp_def]

theorem parse_of_noSlash (noSlash : ∀ arg ∈ first :: names, '/' ∉ arg.toList)
    (listed : Listed first types) : parse (first :: names) =
      if "" ∈ types then .error (.emptyType first) else .ok (combinations types names) := by
  have without : (first :: names).any (Text.has '/') = false := by
    simpa [Text.has] using noSlash
  have empty : (types.any fun t => t = "") = decide ("" ∈ types) := by
    rw [Bool.eq_iff_iff]
    simp
  simp only [parse, without, listed_iff.mp listed, empty, flatMap_ofType, decide_eq_true_eq]
  rfl

theorem parse_noSlash_eq_ok (noSlash : ∀ arg ∈ first :: names, '/' ∉ arg.toList)
    (listed : Listed first types) :
    parse (first :: names) = .ok out ↔ "" ∉ types ∧ out = combinations types names := by
  rw [parse_of_noSlash noSlash listed]
  split
  · next empty => simp [empty]
  · next filled => simp [filled, eq_comm]

theorem unslashed_of_combinations (listed : Listed first types)
    (noSlash : ∀ arg ∈ first :: names, '/' ∉ arg.toList) (filled : "" ∉ types)
    (member : target ∈ combinations types names) : target.Unslashed := by
  obtain ⟨unslashed, namesUnslashed⟩ := List.forall_mem_cons.mp noSlash
  have typed {t : String} (inside : t ∈ types) : t ≠ "" ∧ '/' ∉ t.toList := by
    refine ⟨fun empty => filled (empty ▸ inside), fun slash => unslashed ?_⟩
    rw [← listed_iff.mp listed] at inside
    exact Text.mem_of_mem_splitAt inside slash
  unfold combinations at member
  split at member
  · obtain ⟨t, inside, rfl⟩ := List.mem_map.mp member
    obtain ⟨nonempty, plain⟩ := typed inside
    exact ⟨t, none, rfl, nonempty, plain, nofun⟩
  · obtain ⟨⟨t, name⟩, inside, rfl⟩ := List.mem_map.mp member
    obtain ⟨ofType, ofName⟩ := List.mem_product.mp inside
    obtain ⟨nonempty, plain⟩ := typed ofType
    refine ⟨t, some name, rfl, nonempty, plain, ?_⟩
    rintro _ ⟨⟩
    exact namesUnslashed name ofName

theorem unslashed_of_parse (parsed : parse args = .ok out) (member : target ∈ out) : target.Unslashed := by
  by_cases slash : ∃ arg ∈ args, '/' ∈ arg.toList
  · rw [parse_of_slash slash] at parsed
    obtain ⟨arg, -, named⟩ := Traversal.mem_of_mapM parsed member
    exact unslashed_of_namesTarget (parseSlashed_eq_ok.mp named)
  · have noSlash : ∀ arg ∈ args, '/' ∉ arg.toList := fun arg inside here => slash ⟨arg, inside, here⟩
    cases args with
    | nil =>
      cases parsed
      cases member
    | cons first names =>
      have listed : Listed first (Text.splitAt ',' first) := listed_iff.mpr rfl
      obtain ⟨filled, rfl⟩ := (parse_noSlash_eq_ok noSlash listed).mp parsed
      exact unslashed_of_combinations listed noSlash filled member

/-- The texts are accepted just when they have one of the two forms. With a slash in any of them, each has
to be a resource and a name with the only slash between them, and it gives one target. Without slashes the
pieces of the first text are types, none of them empty, and they give their combinations with the other
texts. What is accepted names a type in each target, and no slash is left in it. -/
theorem parse_grammar (args : List String) :
    parse [] = .ok [] ∧
    ((∃ arg ∈ args, '/' ∈ arg.toList) →
      ((∃ out, parse args = .ok out) ↔ ∀ arg ∈ args, ∃ resource name, Slashed arg resource name) ∧
      ∀ out, parse args = .ok out ↔ List.Forall₂ NamesTarget args out) ∧
    (∀ first names, args = first :: names → (∀ arg ∈ args, '/' ∉ arg.toList) →
      ∃ types, (∀ other, Listed first other ↔ other = types) ∧
        ((∃ out, parse args = .ok out) ↔ "" ∉ types) ∧
        ∀ out, parse args = .ok out ↔ "" ∉ types ∧ out = combinations types names) ∧
    ∀ out, parse args = .ok out → ∀ target ∈ out, target.Unslashed := by
  refine ⟨rfl, ?_, ?_, fun out parsed target => unslashed_of_parse parsed⟩
  · intro slash
    rw [parse_of_slash slash]
    constructor
    · simp only [Traversal.exists_mapM_eq_ok_iff, parseSlashed_eq_ok, exists_namesTarget_iff]
    · intro out
      simp only [Traversal.mapM_eq_ok_iff, parseSlashed_eq_ok]
  · rintro first names rfl noSlash
    have listed : Listed first (Text.splitAt ',' first) := listed_iff.mpr rfl
    have accepted (out : List Argument) : parse (first :: names) = .ok out ↔
        "" ∉ Text.splitAt ',' first ∧ out = combinations (Text.splitAt ',' first) names :=
      parse_noSlash_eq_ok noSlash listed
    refine ⟨_, fun other => listed_iff.trans eq_comm, ?_, accepted⟩
    simp [accepted]

/-! Two types with two names, two texts with slashes, and a type beside a text with a slash. -/
namespace Forms

def separate : List String := ["deploy,ds", "web", "agent"]

def joined : List String := ["deploy/web", "ds/agent"]

def mixed : List String := ["deploy", "ds/agent"]

theorem listed : Listed "deploy,ds" ["deploy", "ds"] := ⟨by decide, by decide, by decide⟩

theorem slashed : Slashed "deploy/web" "deploy" "web" := ⟨by decide, by decide, by decide⟩

theorem slashed' : Slashed "ds/agent" "ds" "agent" := ⟨by decide, by decide, by decide⟩

theorem unslashed (resource name : String) : ¬ Slashed "deploy" resource name := by
  intro slashed
  have slash : '/' ∈ "deploy".toList := by simp [slashed.whole]
  exact absurd slash (by decide)

end Forms

theorem parse_grammar_forms :
    (∀ arg ∈ Forms.separate, '/' ∉ arg.toList) ∧ (∃ arg ∈ Forms.joined, '/' ∈ arg.toList) ∧
      (∃ arg ∈ Forms.mixed, '/' ∈ arg.toList) ∧
      parse Forms.separate = .ok [.typed "deploy" (some "web"), .typed "deploy" (some "agent"),
        .typed "ds" (some "web"), .typed "ds" (some "agent")] ∧
      parse Forms.joined = .ok [.typed "deploy" (some "web"), .typed "ds" (some "agent")] ∧
      ¬ ∃ out, parse Forms.mixed = .ok out := by
  have noSlash : ∀ arg ∈ Forms.separate, '/' ∉ arg.toList := by decide
  have slash : ∃ arg ∈ Forms.joined, '/' ∈ arg.toList := by decide
  have slash' : ∃ arg ∈ Forms.mixed, '/' ∈ arg.toList := by decide
  refine ⟨noSlash, slash, slash', ?_, ?_, ?_⟩
  · obtain ⟨-, -, separate, -⟩ := parse_grammar Forms.separate
    obtain ⟨types, unique, -, accepted⟩ := separate _ _ rfl noSlash
    obtain rfl := (unique _).mp Forms.listed
    exact (accepted _).mpr ⟨by decide, rfl⟩
  · obtain ⟨-, joined, -⟩ := parse_grammar Forms.joined
    exact ((joined slash).2 _).mpr
      (.cons ⟨_, _, Forms.slashed, rfl⟩ (.cons ⟨_, _, Forms.slashed', rfl⟩ .nil))
  · obtain ⟨-, mixed, -⟩ := parse_grammar Forms.mixed
    rw [(mixed slash').1]
    intro each
    obtain ⟨resource, name, slashed⟩ := each "deploy" List.mem_cons_self
    exact Forms.unslashed resource name slashed

end Rollback.Argument
