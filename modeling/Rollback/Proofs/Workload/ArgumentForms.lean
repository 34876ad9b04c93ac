import Rollback.Proofs.Workload.Arguments

/-! The two forms of targets agree but for one name. A list of types and names, written out as one text
`TYPE/NAME` for each pair, is taken for the same targets, unless a name is empty: as a text of its own it is
let through, and after a slash it is refused. -/
namespace Rollback.Argument

/-- The texts `TYPE/NAME` of all types with all names, type by type. -/
def writtenOut (types names : List String) : List String :=
  (types ×ˢ names).map fun (t, name) => t ++ "/" ++ name

/-- The text `TYPE/NAME` of a target that has a name. -/
def slashed? : Argument → Option String
  | .typed resource (some name) => some (resource ++ "/" ++ name)
  | .typed _ none => none
  | .workload _ => none

/-- The name of the target is empty. -/
def Nameless (target : Argument) : Prop := ∃ resource, target = .typed resource (some "")

/-- The texts are in the form of types and names. -/
def Separate (args : List String) : Prop := ∀ arg ∈ args, '/' ∉ arg.toList

/-- The texts are in the form with slashes. -/
def Joined (args : List String) : Prop := ∃ arg ∈ args, '/' ∈ arg.toList

/-- The name is let through in a form of texts. -/
def Admits (form : List String → Prop) (name : String) : Prop :=
  ∃ args out resource, form args ∧ parse args = .ok out ∧ .typed resource (some name) ∈ out

variable {arg t first resource name : String} {args texts names types rest : List String}
  {target : Argument} {out : List Argument}

theorem parseSlashed_written (filled : resource ≠ "") (plain : '/' ∉ resource.toList)
    (plainName : '/' ∉ name.toList) : parseSlashed (resource ++ "/" ++ name) =
      if name = "" then .error (.missingPart (resource ++ "/" ++ name))
      else .ok (.typed resource (some name)) := by
  have cut : Text.cut '/' (resource ++ "/" ++ name) = some (resource, name) :=
    Text.cut_eq_some.mpr ⟨plain, by simp⟩
  simp [parseSlashed, cut, Text.has, plainName, filled]

theorem parseSlashed_text (plain : target.Unslashed) (written : target.slashed? = some arg) :
    parseSlashed arg = .ok target ↔ ¬ target.Nameless := by
  obtain ⟨resource, _ | name, rfl, filled, plainResource, plainName⟩ := plain
  · cases written
  · cases written
    rw [parseSlashed_written filled plainResource (plainName name rfl)]
    by_cases empty : name = "" <;> simp [Nameless, empty]

theorem slash_of_written (written : target.slashed? = some arg) : '/' ∈ arg.toList := by
  cases target with
  | typed resource name? =>
    cases name? with
    | none => cases written
    | some name =>
      cases written
      simp
  | workload ref => cases written

theorem forall₂_written (plain : ∀ target ∈ out, target.Unslashed)
    (written : out.map slashed? = texts.map some) :
    List.Forall₂ (fun arg target => parseSlashed arg = .ok target) texts out ↔
      ∀ target ∈ out, ¬ target.Nameless := by
  induction out generalizing texts with
  | nil =>
    obtain rfl : texts = [] := List.map_eq_nil_iff.mp written.symm
    simp
  | cons target rest ih =>
    obtain ⟨text, more, rfl, first, later⟩ := List.map_eq_cons_iff.mp written.symm
    obtain ⟨plainTarget, plainRest⟩ := List.forall_mem_cons.mp plain
    rw [List.forall₂_cons, List.forall_mem_cons, parseSlashed_text plainTarget first.symm,
      ih plainRest later.symm]

/-- The texts of targets with names are taken for the same targets just when no name is empty. -/
theorem parse_written (plain : ∀ target ∈ out, target.Unslashed)
    (written : out.map slashed? = texts.map some) :
    parse texts = .ok out ↔ ∀ target ∈ out, ¬ target.Nameless := by
  rw [← forall₂_written plain written, ← Traversal.mapM_eq_ok_iff]
  cases texts with
  | nil => rfl
  | cons text more =>
    obtain ⟨target, rest, -, first, -⟩ := List.map_eq_cons_iff.mp written
    rw [parse_of_slash ⟨text, List.mem_cons_self, slash_of_written first⟩]

theorem combinations_eq (named : names ≠ []) :
    combinations types names = (types ×ˢ names).map fun (t, name) => .typed t (some name) := by
  rw [combinations, if_neg named]

theorem written_combinations (named : names ≠ []) :
    (combinations types names).map slashed? = (writtenOut types names).map some := by
  simp [combinations_eq named, writtenOut, slashed?, Function.comp_def]

theorem nameless_combinations (typed : types ≠ []) (named : names ≠ []) :
    (∀ target ∈ combinations types names, ¬ target.Nameless) ↔ "" ∉ names := by
  obtain ⟨t, rest, rfl⟩ := List.exists_cons_of_ne_nil typed
  rw [combinations_eq named, List.forall_mem_map]
  constructor
  · intro filled empty
    exact filled (t, "") (List.mem_product.mpr ⟨List.mem_cons_self, empty⟩) ⟨t, rfl⟩
  · rintro filled ⟨resource, name⟩ member ⟨other, same⟩
    cases same
    exact filled (List.mem_product.mp member).2

theorem writtenOut_cons (t : String) (rest names : List String) : writtenOut (t :: rest) names =
    (names.map fun name => t ++ "/" ++ name) ++ writtenOut rest names := by
  simp [writtenOut, SProd.sprod, List.product, Function.comp_def]

/-- What is refused is the first type with an empty name after it. -/
theorem parse_writtenOut_empty (filled : t ≠ "") (plainType : '/' ∉ t.toList)
    (plain : ∀ name ∈ names, '/' ∉ name.toList) (empty : "" ∈ names) :
    parse (writtenOut (t :: rest) names) = .error (.missingPart (t ++ "/")) := by
  obtain ⟨before, after, rfl, absent⟩ := List.eq_append_cons_of_mem empty
  have shape := writtenOut_cons t rest (before ++ "" :: after)
  rw [List.map_append, List.map_cons, String.append_empty, List.append_assoc, List.cons_append] at shape
  have slash : Joined (writtenOut (t :: rest) (before ++ "" :: after)) :=
    ⟨t ++ "/", by simp [shape], by simp⟩
  rw [parse_of_slash slash, Traversal.mapM_eq_error_iff_first]
  refine ⟨_, _, _, shape, ?_, ?_⟩
  · intro text member
    obtain ⟨name, inside, rfl⟩ := List.mem_map.mp member
    have plainName := plain name (List.mem_append_left _ inside)
    have filledName : name ≠ "" := fun none => absent (none ▸ inside)
    exact ⟨_, (parseSlashed_written filled plainType plainName).trans (if_neg filledName)⟩
  · have noName : '/' ∉ "".toList := by simp
    have refused := parseSlashed_written filled plainType noName
    rwa [String.append_empty, if_pos rfl] at refused

theorem unslashed_of_admits {form : List String → Prop} (admits : Admits form name) :
    '/' ∉ name.toList := by
  obtain ⟨args, out, resource, -, parsed, member⟩ := admits
  obtain ⟨_, _, same, -, -, plainName⟩ := unslashed_of_parse parsed member
  cases same
  exact plainName name rfl

theorem namesTarget_of_joined (joined : Joined args) (parsed : parse args = .ok out) :
    List.Forall₂ NamesTarget args out := by
  rw [parse_of_slash joined, Traversal.mapM_eq_ok_iff] at parsed
  exact parsed.imp fun _ _ => parseSlashed_eq_ok.mp

theorem written_of_namesTarget (named : List.Forall₂ NamesTarget args out) :
    out.map slashed? = args.map some := by
  induction named with
  | nil => rfl
  | cons first _ ih =>
    obtain ⟨resource, name, slashed, rfl⟩ := first
    rw [List.map_cons, List.map_cons, ih, slashed.whole]
    rfl

theorem admits_separate_iff : Admits Separate name ↔ '/' ∉ name.toList := by
  refine ⟨unslashed_of_admits, fun plain => ?_⟩
  have separate : Separate ["ds", name] := by simp [Separate, plain]
  have listed : Listed "ds" ["ds"] := ⟨by decide, by decide, by decide⟩
  have accepted := (parse_noSlash_eq_ok separate listed).mpr ⟨by decide, rfl⟩
  exact ⟨["ds", name], _, "ds", separate, accepted, by simp [combinations]⟩

theorem admits_joined_iff : Admits Joined name ↔ '/' ∉ name.toList ∧ name ≠ "" := by
  constructor
  · intro admits
    refine ⟨unslashed_of_admits admits, ?_⟩
    obtain ⟨args, out, resource, joined, parsed, member⟩ := admits
    obtain ⟨arg, -, _, _, slashed, same⟩ :=
      Traversal.exists_of_forall₂ (namesTarget_of_joined joined parsed) member
    cases same
    exact slashed.filled.2
  · rintro ⟨plain, filled⟩
    have slashed : Slashed ("ds" ++ "/" ++ name) "ds" name :=
      ⟨rfl, ⟨by decide, filled⟩, ⟨by decide, plain⟩⟩
    have joined : Joined ["ds" ++ "/" ++ name] := ⟨_, List.mem_cons_self, by simp⟩
    refine ⟨_, [.typed "ds" (some name)], "ds", joined, ?_, List.mem_cons_self⟩
    rw [parse_of_slash joined, Traversal.mapM_eq_ok_iff]
    exact .cons (parseSlashed_eq_ok.mpr ⟨_, _, slashed, rfl⟩) .nil

/-- What a list of types and names is taken for, the pairs written out with slashes are taken for too,
unless a name is empty; then the first type with nothing after its slash is refused. In the same way any
accepted targets with names come back when they are written with slashes and read again, unless a name is
empty, and targets that were read from texts with slashes are written as these. So the empty name is the only
one that one form lets through and the other does not. -/
theorem parse_writtenOut (args : List String) (out : List Argument) (parsed : parse args = .ok out) :
    (∀ first types names, args = first :: names → names ≠ [] → Separate args → Listed first types →
      (parse (writtenOut types names) = .ok out ↔ "" ∉ names) ∧
        ∀ t ∈ types.head?, "" ∈ names →
          parse (writtenOut types names) = .error (.missingPart (t ++ "/"))) ∧
    (∀ texts, out.map slashed? = texts.map some →
      (parse texts = .ok out ↔ ∀ target ∈ out, ¬ target.Nameless) ∧ (Joined args → texts = args)) ∧
    ∀ name, (Admits Separate name ↔ '/' ∉ name.toList) ∧
      (Admits Joined name ↔ '/' ∉ name.toList ∧ name ≠ "") := by
  refine ⟨?_, ?_, fun name => ⟨admits_separate_iff, admits_joined_iff⟩⟩
  · rintro first types names rfl named separate listed
    obtain ⟨filled, rfl⟩ := (parse_noSlash_eq_ok separate listed).mp parsed
    have plain : ∀ target ∈ combinations types names, target.Unslashed := fun target member =>
      unslashed_of_combinations listed separate filled member
    refine ⟨?_, ?_⟩
    · rw [parse_written plain (written_combinations named)]
      exact nameless_combinations listed.nonempty named
    · intro t head empty
      obtain ⟨rest, rfl⟩ := List.head?_eq_some_iff.mp head
      have member : .typed t (some "") ∈ combinations (t :: rest) names := by
        rw [combinations_eq named]
        exact List.mem_map.mpr ⟨(t, ""), List.mem_product.mpr ⟨List.mem_cons_self, empty⟩, rfl⟩
      obtain ⟨_, _, same, typed, plainType, -⟩ := plain _ member
      cases same
      exact parse_writtenOut_empty typed plainType (List.forall_mem_cons.mp separate).2 empty
  · intro texts written
    refine ⟨parse_written (fun target member => unslashed_of_parse parsed member) written, ?_⟩
    intro joined
    have same := written_of_namesTarget (namesTarget_of_joined joined parsed)
    rw [written] at same
    exact (List.map_inj_right fun _ _ => Option.some.inj).mp same

/-! Two types with two names, of which the second is empty or not. -/
namespace Pairs

def named : List Argument := [.typed "deploy" (some "web"), .typed "deploy" (some "agent"),
  .typed "ds" (some "web"), .typed "ds" (some "agent")]

def unnamed : List Argument := [.typed "deploy" (some "web"), .typed "deploy" (some ""),
  .typed "ds" (some "web"), .typed "ds" (some "")]

def whole : List String := ["deploy/web", "deploy/agent", "ds/web", "ds/agent"]

def short : List String := ["deploy/web", "deploy/", "ds/web", "ds/"]

theorem whole_eq : writtenOut ["deploy", "ds"] ["web", "agent"] = whole := rfl

theorem short_eq : writtenOut ["deploy", "ds"] ["web", ""] = short := rfl

theorem written : unnamed.map slashed? = short.map some := rfl

end Pairs

theorem parse_writtenOut_pairs :
    Separate ["deploy,ds", "web", "agent"] ∧ Separate ["deploy,ds", "web", ""] ∧
      parse ["deploy,ds", "web", "agent"] = .ok Pairs.named ∧ parse Pairs.whole = .ok Pairs.named ∧
      parse ["deploy,ds", "web", ""] = .ok Pairs.unnamed ∧
      parse Pairs.short = .error (.missingPart "deploy/") ∧
      ¬ ∀ target ∈ Pairs.unnamed, ¬ target.Nameless := by
  have separate : Separate ["deploy,ds", "web", "agent"] := by unfold Separate; decide
  have separate' : Separate ["deploy,ds", "web", ""] := by unfold Separate; decide
  have parsed : parse ["deploy,ds", "web", "agent"] = .ok Pairs.named := rfl
  have parsed' : parse ["deploy,ds", "web", ""] = .ok Pairs.unnamed := rfl
  obtain ⟨forms, -⟩ := parse_writtenOut _ _ parsed
  obtain ⟨forms', again, -⟩ := parse_writtenOut _ _ parsed'
  have agreed := (forms _ _ _ rfl (by decide) separate Forms.listed).1.mpr (by decide)
  have refused := (forms' _ _ _ rfl (by decide) separate' Forms.listed).2 _ rfl (by decide)
  rw [Pairs.whole_eq] at agreed
  rw [Pairs.short_eq] at refused
  refine ⟨separate, separate', parsed, agreed, parsed', refused, ?_⟩
  rw [← (again _ Pairs.written).1, refused]
  exact nofun

/-- The empty name is let through beside its type and refused after a slash. -/
theorem empty_name_divides :
    Separate ["deploy", ""] ∧ Listed "deploy" ["deploy"] ∧
      parse ["deploy", ""] = .ok [.typed "deploy" (some "")] ∧
      slashed? (.typed "deploy" (some "")) = some "deploy/" ∧ writtenOut ["deploy"] [""] = ["deploy/"] ∧
      parse ["deploy/"] = .error (.missingPart "deploy/") :=
  ⟨by unfold Separate; decide, ⟨by decide, by decide, by decide⟩, rfl, rfl, rfl, rfl⟩

end Rollback.Argument
