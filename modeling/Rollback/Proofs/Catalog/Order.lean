import Rollback.Proofs.Catalog.Lookup
import Mathlib.Data.List.Perm.Basic

/-! What a name means does not depend on the order in which the groups of a server come: it only counts
in which order each group lists its own resources. -/
namespace Rollback

/-- The same resources, those of each group in the same order. How the groups are mixed is left open. -/
def SameByGroup (l m : List Resource) : Prop :=
  ∀ group, l.filter (fun r => r.group = group) = m.filter fun r => r.group = group

namespace SameByGroup

variable {l m : List Resource} {r : Resource} {p : Resource → Bool}

theorem perm (same : SameByGroup l m) : l.Perm m := by
  rw [List.perm_iff_count]
  intro r
  have counted (resources : List Resource) :
      (resources.filter fun other => other.group = r.group).count r = resources.count r :=
    List.count_filter (decide_eq_true rfl)
  rw [← counted l, same r.group, counted m]

theorem filter (same : SameByGroup l m) (p : Resource → Bool) :
    SameByGroup (l.filter p) (m.filter p) := by
  intro group
  rw [List.filter_comm, same group, List.filter_comm]

/-- The first resource of one kind is the same when all of that kind are of one group. -/
theorem find?_eq (same : SameByGroup l m) (group : String) (only : ∀ r, p r = true → r.group = group) :
    l.find? p = m.find? p := by
  have within (resources : List Resource) :
      (resources.filter fun r => r.group = group).find? p = resources.find? p := by
    rw [List.find?_filter]
    congr 1
    funext r
    have inside := only r
    cases holds : p r <;> simp_all
  rw [← within l, same group, within m]

/-- Two best resources stand equally high, so they are of one group and the first ones of it. -/
theorem best_eq (same : SameByGroup l m) : Catalog.best l = Catalog.best m := by
  cases chosen : Catalog.best l with
  | none =>
    obtain rfl := Catalog.best_eq_none.mp chosen
    exact (Catalog.best_eq_none.mpr same.perm.nil_eq.symm).symm
  | some r =>
    cases chosen' : Catalog.best m with
    | none =>
      obtain rfl := Catalog.best_eq_none.mp chosen'
      rw [same.perm.eq_nil] at chosen
      cases chosen
    | some r' =>
      have le := Catalog.standing_le_of_best chosen (same.perm.mem_iff.mpr (Catalog.mem_of_best chosen'))
      have ge := Catalog.standing_le_of_best chosen' (same.perm.mem_iff.mp (Catalog.mem_of_best chosen))
      have group : r.group = r'.group := Resource.standing_inj.mp (le_antisymm le ge)
      have first := Catalog.find?_group_of_best chosen
      have first' := Catalog.find?_group_of_best chosen'
      rw [same.find?_eq r.group fun other inside => of_decide_eq_true inside, group,
        first'] at first
      exact first.symm

end SameByGroup

namespace Catalog

variable {c d : Catalog}

theorem preferred_sameByGroup (same : SameByGroup c.entries d.entries) :
    SameByGroup c.preferred d.preferred := same.filter _

theorem ofShortName?_eq (same : SameByGroup c.entries d.entries) (name : String) :
    c.ofShortName? name = d.ofShortName? name := by
  unfold ofShortName?
  congr 1
  funext short
  apply (preferred_sameByGroup same).find?_eq short.group
  intro r meant
  exact (of_decide_eq_true meant).1

theorem atVersion?_eq (same : SameByGroup c.entries d.entries) (name rest : String) :
    c.atVersion? name rest = d.atVersion? name rest := by
  unfold atVersion?
  congr 1
  funext qualifier
  apply same.find?_eq qualifier.2
  intro r meant
  exact (of_decide_eq_true meant).2.1

theorem inGroup?_eq (same : SameByGroup c.entries d.entries) (name group : String) :
    c.inGroup? name group = d.inGroup? name group := by
  apply (preferred_sameByGroup same).find?_eq group
  intro r meant
  exact (of_decide_eq_true meant).1

theorem ofQualifiedName?_eq (same : SameByGroup c.entries d.entries) (text : String) :
    c.ofQualifiedName? text = d.ofQualifiedName? text := by
  cases cut : Text.cut '.' text with
  | none => rw [ofQualifiedName?_of_uncut cut, ofQualifiedName?_of_uncut cut]
  | some parts =>
    rw [ofQualifiedName?_of_cut cut, ofQualifiedName?_of_cut cut, atVersion?_eq same, inGroup?_eq same]

theorem ofBareName?_eq (same : SameByGroup c.entries d.entries) (name : String) :
    c.ofBareName? name = d.ofBareName? name :=
  ((preferred_sameByGroup same).filter _).best_eq

/-- Two catalogs that differ only in how their groups are mixed give the same answers. -/
theorem resolve_reordered (same : SameByGroup c.entries d.entries) (input : String) (gvk : Gvk) :
    c.resolve input = d.resolve input ∧ c.find? gvk = d.find? gvk := by
  constructor
  · simp only [resolve_eq, search_eq, ofShortName?_eq same, ofQualifiedName?_eq same,
      ofBareName?_eq same]
  · apply same.find?_eq gvk.group
    intro r meant
    exact congrArg Gvk.group (of_decide_eq_true meant)

end Catalog

/-! Two catalogs of the same groups, one after the other and mixed. -/
namespace Mixed

def resource (group version kind plural : String) : Resource :=
  ⟨group, version, kind, plural, group ++ "/" ++ version, true, true, ["get"]⟩

def jobs : Resource := resource "batch" "v1" "Job" "jobs"

def cronJobs : Resource := resource "batch" "v1" "CronJob" "jobs"

def trainings : Resource := resource "kubeflow.org" "v1" "Job" "trainings"

def sorted : Catalog := ⟨[jobs, cronJobs, trainings]⟩

def shuffled : Catalog := ⟨[trainings, jobs, cronJobs]⟩

theorem sameByGroup : SameByGroup sorted.entries shuffled.entries := by
  intro group
  by_cases batch : "batch" = group
  · subst batch
    decide
  · by_cases kubeflow : "kubeflow.org" = group
    · subst kubeflow
      decide
    · simp [sorted, shuffled, jobs, cronJobs, trainings, resource, batch, kubeflow]

end Mixed

theorem resolve_reordered_mixed :
    Mixed.sorted ≠ Mixed.shuffled ∧ SameByGroup Mixed.sorted.entries Mixed.shuffled.entries ∧
      Mixed.sorted.resolve "Jobs" = .ok Mixed.jobs ∧
      Mixed.sorted.resolve "Jobs" = Mixed.shuffled.resolve "Jobs" ∧
      Mixed.sorted.find? Mixed.trainings.gvk = Mixed.shuffled.find? Mixed.trainings.gvk := by
  have same := Catalog.resolve_reordered Mixed.sameByGroup "Jobs" Mixed.trainings.gvk
  exact ⟨by decide, Mixed.sameByGroup, by decide +kernel, same.1, same.2⟩

end Rollback
