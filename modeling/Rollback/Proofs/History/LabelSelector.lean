import Rollback.Api.Workloads
import Rollback.Proofs.History.Conditions
import Rollback.Proofs.Traversal

/-! The one-line form of a label selector tells what the selector asks: its labels, and its requirements
in their order but for values that do not count. -/
namespace Rollback

open LabelSelector

/-- The condition that a requirement states. One with an unknown operator states none. -/
inductive Requirement.States : Requirement → Condition → Prop where
  | isIn {key : String} {values : List String} : States ⟨key, .isIn, values⟩ ⟨key, .isIn values⟩
  | notIn {key : String} {values : List String} : States ⟨key, .notIn, values⟩ ⟨key, .notIn values⟩
  | exist {key : String} {values : List String} : States ⟨key, .exist, values⟩ ⟨key, .present⟩
  | doesNotExist {key : String} {values : List String} :
      States ⟨key, .doesNotExist, values⟩ ⟨key, .absent⟩

/-- The same key and operator, and the same values where these count. -/
structure Requirement.SameDemand (r q : Requirement) : Prop where
  key : r.key = q.key
  operator : r.operator = q.operator
  values : r.operator = .isIn ∨ r.operator = .notIn → r.values = q.values

/-- A requirement as a server admits it. -/
structure Requirement.Admitted (r : Requirement) : Prop where
  key : AdmittedKey r.key
  values : r.operator = .isIn ∨ r.operator = .notIn → AdmittedValues r.values

structure LabelSelector.Admitted (s : LabelSelector) : Prop where
  labels : ∀ label ∈ s.labels, AdmittedKey label.1 ∧ AdmittedValue label.2
  requirements : ∀ r ∈ s.requirements, r.Admitted

namespace Requirement

variable {r q : Requirement} {c : Condition}

theorem states_of_render {text : String} (rendered : r.render = .ok text) :
    ∃ c, r.States c ∧ text.toList = c.chars := by
  obtain ⟨key, operator, values⟩ := r
  cases operator with
  | isIn =>
    cases rendered
    exact ⟨_, .isIn, by simp [Condition.chars, Test.opening, Test.body, listed]⟩
  | notIn =>
    cases rendered
    exact ⟨_, .notIn, by simp [Condition.chars, Test.opening, Test.body, listed]⟩
  | exist =>
    cases rendered
    exact ⟨_, .exist, by simp [Condition.chars, Test.opening, Test.body]⟩
  | doesNotExist =>
    cases rendered
    exact ⟨_, .doesNotExist, by simp [Condition.chars, Test.opening, Test.body]⟩
  | unknown _ => cases rendered

theorem States.admitted (states : r.States c) (admitted : r.Admitted) : c.Admitted := by
  cases states with
  | isIn => exact ⟨admitted.key, admitted.values (.inl rfl)⟩
  | notIn => exact ⟨admitted.key, admitted.values (.inr rfl)⟩
  | exist | doesNotExist => exact ⟨admitted.key, trivial⟩

theorem States.test_ne_equals (states : r.States c) (value : String) : c.test ≠ .equals value := by
  cases states <;> exact Test.noConfusion

theorem States.sameDemand (states : r.States c) (states' : q.States c) : r.SameDemand q := by
  cases states <;> cases states' <;> exact ⟨rfl, rfl, by simp⟩

theorem SameDemand.render_eq (alike : r.SameDemand q) : r.render = q.render := by
  obtain ⟨key, operator, values⟩ := r
  obtain ⟨key', operator', values'⟩ := q
  obtain ⟨rfl, rfl, same⟩ := alike
  cases operator with
  | isIn =>
    obtain rfl := same (.inl rfl)
    rfl
  | notIn =>
    obtain rfl := same (.inr rfl)
    rfl
  | exist | doesNotExist | unknown _ => rfl

theorem render_fails_iff :
    (∃ fault, r.render = .error fault) ↔ ∃ text, r.operator = .unknown text := by
  obtain ⟨key, operator, values⟩ := r
  cases operator <;> simp [render]

end Requirement

namespace LabelSelector

variable {s t : LabelSelector} {text : String}

def ofLabel (label : String × String) : Condition := ⟨label.1, .equals label.2⟩

theorem ofLabel_injective : Function.Injective ofLabel := by
  rintro ⟨key, value⟩ ⟨key', value'⟩ same
  cases same
  rfl

theorem render_of_requirements {texts : List String}
    (rendered : s.requirements.mapM Requirement.render = .ok texts) :
    s.render = match (s.labels.map fun (key, value) => key ++ "=" ++ value) ++ texts with
      | [] => .error .empty
      | conditions => .ok (",".intercalate conditions) := by
  rw [render, rendered]
  rfl

/-- A selector has no form just when one of its operators is unknown or it has no condition at all. -/
theorem render_fails_iff : (∃ fault, s.render = .error fault) ↔
    (∃ r ∈ s.requirements, ∃ text, r.operator = .unknown text) ∨
      s.labels = [] ∧ s.requirements = [] := by
  simp only [← Requirement.render_fails_iff, ← Traversal.mapM_eq_error_iff]
  cases rendered : s.requirements.mapM Requirement.render with
  | error fault =>
    have refused : s.render = .error fault := by
      rw [render, rendered]
      rfl
    simp [refused]
  | ok texts =>
    have unstated : texts = [] ↔ s.requirements = [] := by
      rw [← List.length_eq_zero_iff, ← List.length_eq_zero_iff,
        (Traversal.forall₂_of_mapM rendered).length_eq]
    rw [render_of_requirements rendered, ← unstated]
    cases s.labels <;> cases texts <;> simp

theorem stated_of_texts {requirements : List Requirement} {texts : List String}
    (rendered : List.Forall₂ (fun r text => Requirement.render r = .ok text) requirements texts) :
    ∃ stated : List Condition,
      List.Forall₂ Requirement.States requirements stated ∧
        texts.map String.toList = stated.map Condition.chars := by
  induction rendered with
  | nil => exact ⟨[], .nil, rfl⟩
  | cons first _ ih =>
    obtain ⟨c, states, chars⟩ := Requirement.states_of_render first
    obtain ⟨stated, pairs, same⟩ := ih
    exact ⟨c :: stated, .cons states pairs, by simp [chars, same]⟩

theorem conditions_of_render (rendered : s.render = .ok text) :
    ∃ stated : List Condition,
      List.Forall₂ Requirement.States s.requirements stated ∧
        s.labels.map ofLabel ++ stated ≠ [] ∧
          text.toList = [','].intercalate ((s.labels.map ofLabel ++ stated).map Condition.chars) := by
  cases requirements : s.requirements.mapM Requirement.render with
  | error fault =>
    rw [render, requirements] at rendered
    cases rendered
  | ok texts =>
    obtain ⟨stated, pairs, same⟩ := stated_of_texts (Traversal.forall₂_of_mapM requirements)
    refine ⟨stated, pairs, ?_⟩
    have written : ((s.labels.map fun (key, value) => key ++ "=" ++ value) ++ texts).map String.toList =
        (s.labels.map ofLabel ++ stated).map Condition.chars := by
      simp [same, ofLabel, Condition.chars, Test.opening, Test.body]
    rw [render_of_requirements requirements] at rendered
    generalize (s.labels.map fun (key, value) => key ++ "=" ++ value) ++ texts = parts at rendered written
    cases parts with
    | nil => cases rendered
    | cons first rest =>
      cases rendered
      refine ⟨?_, ?_⟩
      · intro none
        rw [none] at written
        cases written
      · rw [String.toList_intercalate, written]
        rfl

theorem admitted_of_stated (admitted : s.Admitted) {stated : List Condition}
    (pairs : List.Forall₂ Requirement.States s.requirements stated) :
    ∀ c ∈ s.labels.map ofLabel ++ stated, c.Admitted := by
  intro c member
  rcases List.mem_append.mp member with inLabels | requirement
  · obtain ⟨label, listed, rfl⟩ := List.mem_map.mp inLabels
    obtain ⟨key, value⟩ := admitted.labels label listed
    exact ⟨key, value⟩
  · obtain ⟨r, listed, states⟩ := Traversal.exists_of_forall₂ pairs requirement
    exact states.admitted (admitted.requirements r listed)

theorem sameDemand_of_stated {requirements requirements' : List Requirement} {stated : List Condition}
    (pairs : List.Forall₂ Requirement.States requirements stated)
    (pairs' : List.Forall₂ Requirement.States requirements' stated) :
    List.Forall₂ Requirement.SameDemand requirements requirements' := by
  induction pairs generalizing requirements' with
  | nil =>
    cases pairs'
    exact .nil
  | cons states _ ih =>
    cases pairs' with
    | cons states' others => exact .cons (states.sameDemand states') (ih others)

theorem mapM_render_of_sameDemand {requirements requirements' : List Requirement}
    (alike : List.Forall₂ Requirement.SameDemand requirements requirements') :
    requirements.mapM Requirement.render = requirements'.mapM Requirement.render := by
  induction alike with
  | nil => rfl
  | cons first _ ih => rw [List.mapM_cons, List.mapM_cons, first.render_eq, ih]

theorem same_of_conditions {stated stated' : List Condition}
    (pairs : List.Forall₂ Requirement.States s.requirements stated)
    (pairs' : List.Forall₂ Requirement.States t.requirements stated')
    (same : s.labels.map ofLabel ++ stated = t.labels.map ofLabel ++ stated') :
    s.labels = t.labels ∧ stated = stated' := by
  -- No requirement states what a label does, so the labels end where the requirements begin.
  have kept (labels : List (String × String)) :
      ∀ c ∈ labels.map ofLabel, ∃ value, c.test = .equals value := by
    intro c member
    obtain ⟨label, -, rfl⟩ := List.mem_map.mp member
    exact ⟨label.2, rfl⟩
  have stop {requirements : List Requirement} {stated : List Condition}
      (pairs : List.Forall₂ Requirement.States requirements stated) :
      ∀ c ∈ stated.head?, ¬ ∃ value, c.test = .equals value := by
    rintro c first ⟨value, equals⟩
    obtain ⟨r, -, states⟩ := Traversal.exists_of_forall₂ pairs (List.mem_of_mem_head? first)
    exact states.test_ne_equals value equals
  obtain ⟨labels, others⟩ :=
    Text.append_inj_of_stop (kept s.labels) (kept t.labels) (stop pairs) (stop pairs') same
  exact ⟨List.map_injective_iff.mpr ofLabel_injective labels, others⟩

theorem same_of_render (admitted : s.Admitted) (admitted' : t.Admitted) (rendered : s.render = .ok text)
    (rendered' : t.render = .ok text) :
    s.labels = t.labels ∧ List.Forall₂ Requirement.SameDemand s.requirements t.requirements := by
  obtain ⟨stated, pairs, filled, chars⟩ := conditions_of_render rendered
  obtain ⟨stated', pairs', filled', chars'⟩ := conditions_of_render rendered'
  have same := intercalate_inj filled filled' (admitted_of_stated admitted pairs)
    (admitted_of_stated admitted' pairs') (chars.symm.trans chars')
  obtain ⟨labels, rfl⟩ := same_of_conditions pairs pairs' same
  exact ⟨labels, sameDemand_of_stated pairs pairs'⟩

theorem render_of_same (labels : s.labels = t.labels)
    (alike : List.Forall₂ Requirement.SameDemand s.requirements t.requirements) : s.render = t.render := by
  rw [render, render, labels, mapM_render_of_sameDemand alike]

def operators : List String := ["In", "NotIn", "Exists", "DoesNotExist"]

theorem ofText_unknown_iff :
    (∃ unknown, LabelOperator.ofText text = .unknown unknown) ↔ text ∉ operators := by
  unfold LabelOperator.ofText
  split <;> simp_all [operators]

/-- A selector has a form unless the text of one of its operators is unknown or it has no condition at
all. The form of a selector that a server admits tells its labels and its requirements: no other selector
has it but one with the same labels, the same keys and operators in the same order, and the same values
where these count, a missing list of values being the empty one. -/
theorem render_faithful :
    (∀ s : LabelSelector, (∃ fault, s.render = .error fault) ↔
      (∃ r ∈ s.requirements, ∃ unknown, r.operator = .unknown unknown) ∨
        s.labels = [] ∧ s.requirements = []) ∧
    (∀ text, (∃ unknown, LabelOperator.ofText text = .unknown unknown) ↔ text ∉ operators) ∧
    (∀ s t : LabelSelector, s.Admitted → t.Admitted → ∀ text, s.render = .ok text →
      (t.render = .ok text ↔
        s.labels = t.labels ∧ List.Forall₂ Requirement.SameDemand s.requirements t.requirements)) ∧
    ∀ record : Json, record.get? "values" = none ∨ record.get? "values" = some (.array []) →
      (Requirement.ofRecord record).values = [] := by
  refine ⟨fun _ => render_fails_iff, fun _ => ofText_unknown_iff, ?_, ?_⟩
  · intro s t admitted admitted' text rendered
    constructor
    · exact same_of_render admitted admitted' rendered
    · rintro ⟨labels, alike⟩
      rw [← render_of_same labels alike, rendered]
  · rintro record (missing | empty)
    · simp [Requirement.ofRecord, missing, Api.textItems, Json.items?]
    · simp [Requirement.ofRecord, empty, Api.textItems, Json.items?]

end LabelSelector

/-! One selector, written with and without a list of values that does not count. -/
namespace Canary

def selector (unread : List String) : LabelSelector :=
  ⟨[("app", "web"), ("tier", "")],
    [⟨"env", .isIn, ["a", ""]⟩, ⟨"canary", .doesNotExist, unread⟩]⟩

theorem admitted (unread : List String) : (selector unread).Admitted where
  labels := by
    change ∀ label ∈ [("app", "web"), ("tier", "")], AdmittedKey label.1 ∧ AdmittedValue label.2
    decide
  requirements := by
    have keys : AdmittedKey "env" ∧ AdmittedKey "canary" := by decide
    have values : AdmittedValues ["a", ""] := by decide
    intro r listed
    simp only [selector, List.mem_cons, List.not_mem_nil, or_false] at listed
    rcases listed with rfl | rfl
    · exact ⟨keys.1, fun _ => values⟩
    · exact ⟨keys.2, fun counts => by simp at counts⟩

end Canary

theorem render_faithful_canary :
    (Canary.selector []).Admitted ∧ (Canary.selector ["x"]).Admitted ∧
      (Canary.selector []).render = .ok "app=web,tier=,env in (a,),!canary" ∧
      (Canary.selector ["x"]).render = .ok "app=web,tier=,env in (a,),!canary" := by
  have rendered : (Canary.selector []).render = .ok "app=web,tier=,env in (a,),!canary" := by decide
  obtain ⟨-, -, determines, -⟩ := LabelSelector.render_faithful
  refine ⟨Canary.admitted _, Canary.admitted _, rendered, ?_⟩
  exact (determines _ _ (Canary.admitted _) (Canary.admitted _) _ rendered).mpr
    ⟨rfl, .cons ⟨rfl, rfl, fun _ => rfl⟩ (.cons ⟨rfl, rfl, by simp⟩ .nil)⟩

end Rollback
