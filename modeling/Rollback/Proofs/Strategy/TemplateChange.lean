import Rollback.Proofs.Json.Inversion
import Rollback.Proofs.Strategy.Convergence

/-! The merge patch that a custom resource gets: it turns the live template into the stored one and
leaves the rest of the resource alone. -/
namespace Rollback.RevisionRollback

open Json

variable {object change : Json} {spec : Members}

/-- Where the template of a resource stands. -/
def templatePath : List String := ["spec", "template"]

theorem at?_template_applyPatch (held : object.get? "spec" = some (.object spec)) :
    (applyPatch object (templateChange change)).at? templatePath =
      applied (object.at? templatePath) (some change) := by
  have inner : (applyPatch object (templateChange change)).get? "spec" =
      some (applyPatch (.object spec) (.object [("template", change)])) := by
    rw [templateChange, get?_applyPatch_single, if_pos rfl, held]
    rfl
  rw [templatePath, at?_cons, inner, Option.bind_some, at?_singleton, get?_applyPatch_single, if_pos rfl,
    at?_cons, held, Option.bind_some, at?_singleton]

/-- Nothing changes but what stands at the template or below it. -/
theorem view_applyPatch_template (held : object.get? "spec" = some (.object spec)) (path : List String)
    (outside : ¬ templatePath <+: path) :
    (applyPatch object (templateChange change)).view path = object.view path := by
  cases path with
  | nil =>
    cases object with
    | object members => rfl
    | _ => cases held
  | cons key path =>
    rw [view_cons, view_cons, templateChange, get?_applyPatch_single]
    by_cases inSpec : "spec" = key
    · subst inSpec
      rw [if_pos rfl, held]
      cases path with
      | nil => rfl
      | cons next path =>
        have other : "template" ≠ next := by
          rintro rfl
          exact outside ⟨path, rfl⟩
        change (applyPatch (.object spec) (.object [("template", change)])).view (next :: path) = _
        rw [view_cons, get?_applyPatch_single, if_neg other]
        exact (view_cons next path (.object spec)).symm
    · rw [if_neg inSpec]

/-- The merge patch from one document to another leads from the first to the second but for null
members, and to the second itself if that has none. Between objects it has a member for each key in
which they differ and for no other. Sent as the change of a template it changes nothing outside that. -/
theorem diff_restores {source target : Json} (left : source.Sorted) (right : target.Sorted) :
    Same (applyPatch source (diff source target)).withoutNulls target.withoutNulls ∧
    (target.NullFree → Same (applyPatch source (diff source target)) target) ∧
    (source.isObject = true → target.isObject = true →
      (∀ key, ((diff source target).get? key).isSome = true ↔
        ¬ Option.Rel Same (source.get? key) (target.get? key)) ∧
      (diff source target = .object [] ↔ Same source target)) ∧
    ∀ (object : Json) (spec : Members) (chosen : Chosen), object.get? "spec" = some (.object spec) →
      (object.at? templatePath).getD .null = source → chosen.template = target →
      (∀ path, ¬ templatePath <+: path →
        (applyPatch object (patch .merge source chosen)).view path = object.view path) ∧
      (applyPatch object (patch .merge source chosen)).at? templatePath =
        if target.isNull then none else some (applyPatch source (diff source target)) := by
  refine ⟨same_applyPatch_diff _ _ left right, same_patched_of_nullFree left right, ?_, ?_⟩
  · intro old new
    constructor
    · intro key
      rw [get?_diff left right old new, isSome_differing]
    · exact diff_eq_empty_iff left right old new
  · rintro object spec chosen held rfl rfl
    have body : patch .merge ((object.at? templatePath).getD .null) chosen =
        templateChange (diff ((object.at? templatePath).getD .null) chosen.template) := rfl
    rw [body]
    constructor
    · exact view_applyPatch_template held
    · rw [at?_template_applyPatch held, applied, isNull_diff]

end Rollback.RevisionRollback

/-! A template with a null that is taken away, and one with a null inside an array. -/
namespace Rollback.Replaced

open Json

def live : Json :=
  .object [("image", .string "i:2"), ("labels", .object [("a", .null), ("b", .string "1")])]

def stored : Json := .object [("args", .array [.null]), ("labels", .object [("b", .string "2")])]

def cloneSet : Json :=
  .object [("kind", .string "CloneSet"), ("spec", .object [("replicas", .integer 3), ("template", live)])]

theorem sorted_live : live.Sorted := by
  simp only [live, Json.Sorted, Json.SortedMembers, KeysIncrease]
  decide

theorem sorted_stored : stored.Sorted := by
  simp only [stored, Json.Sorted, Json.SortedMembers, Json.SortedItems, KeysIncrease]
  decide

theorem nullFree_stored : stored.NullFree := by
  have label : (Json.string "2").NullFree := .of_not_object rfl
  have labels : (Json.object [("b", .string "2")]).NullFree := by
    apply NullFree.object
    simpa using label
  have args : (Json.array [.null]).NullFree := .of_not_object rfl
  apply NullFree.object
  simpa using ⟨args, labels⟩

end Rollback.Replaced

namespace Rollback

open Json

theorem diff_restores_replaced :
    Replaced.live.Sorted ∧ Replaced.stored.Sorted ∧ Replaced.stored.NullFree ∧
      Replaced.cloneSet.at? RevisionRollback.templatePath = some Replaced.live ∧
      diff Replaced.live Replaced.stored =
        .object [("args", .array [.null]), ("image", .null),
          ("labels", .object [("a", .null), ("b", .string "2")])] ∧
      Same (applyPatch Replaced.live (diff Replaced.live Replaced.stored)) Replaced.stored ∧
      (diff Replaced.live Replaced.stored = .object [] ↔ Same Replaced.live Replaced.stored) ∧
      (applyPatch Replaced.cloneSet (RevisionRollback.patch .merge Replaced.live
          ⟨1, .null, Replaced.stored⟩)).view ["spec", "replicas"] =
        Replaced.cloneSet.view ["spec", "replicas"] := by
  obtain ⟨-, exactly, objects, frame⟩ :=
    RevisionRollback.diff_restores Replaced.sorted_live Replaced.sorted_stored
  refine ⟨Replaced.sorted_live, Replaced.sorted_stored, Replaced.nullFree_stored, rfl,
    by decide +kernel, exactly Replaced.nullFree_stored, (objects rfl rfl).2, ?_⟩
  exact (frame Replaced.cloneSet _ ⟨1, .null, Replaced.stored⟩ rfl rfl rfl).1 _ (by decide)

end Rollback
