import Rollback.Engine.Classify
import Rollback.Proofs.Traversal

/-! What a `Rollout` points at. Its reference is an object in one of two places, of which the first
counts; but whatever stands in the first place hides the second one, also if it is no object. With a
reference of three texts and a well-formed `apiVersion` the object is a pointer to the workload of that
type and name in its own namespace, and in all other cases it is refused. -/
namespace Rollback

def Json.objectAt? (path : List String) (v : Json) : Option Json := (v.at? path).filter Json.isObject

theorem Json.isNull_of_get? {v member : Json} {key : String} (inside : v.get? key = some member) :
    v.isNull = false := by
  cases v with
  | null => cases inside
  | _ => rfl

namespace Rollout

/-- The places of the reference in the old version and in the new one. -/
def firstPlace : List String := ["spec", "objectRef", "workloadRef"]

def secondPlace : List String := ["spec", "workloadRef"]

/-- The reference of a payload: the object in the first place, or else the one in the second. -/
def reference? (object : Json) : Option Json :=
  (object.objectAt? firstPlace).or (object.objectAt? secondPlace)

/-- Something that is no object stands in the first place. -/
def Blocked (object : Json) : Prop := ∃ v, object.at? firstPlace = some v ∧ v.isObject = false

/-- The three texts of a reference, each with something in it. -/
structure ReferenceTexts (ref : Json) (apiVersion kind name : String) : Prop where
  apiVersion : ref.textAt? ["apiVersion"] = some apiVersion ∧ apiVersion ≠ ""
  kind : ref.textAt? ["kind"] = some kind ∧ kind ≠ ""
  name : ref.textAt? ["name"] = some name ∧ name ≠ ""

def Refers (object : Json) (apiVersion kind name : String) : Prop :=
  ∃ ref, reference? object = some ref ∧ ReferenceTexts ref apiVersion kind name

variable {object ref : Json} {apiVersion kind name : String}

theorem found_eq (object : Json) : (object.get? "spec").bind workloadRef? =
    ((object.at? firstPlace).or (object.at? secondPlace)).filter Json.isObject := by
  cases spec : object.get? "spec" with
  | none => simp [firstPlace, secondPlace, spec]
  | some v =>
    have first : object.at? firstPlace = v.at? ["objectRef", "workloadRef"] := by
      simp [firstPlace, spec]
    have second : object.at? secondPlace = v.get? "workloadRef" := by
      simp [secondPlace, spec]
    -- The first place counts if anything stands there, and only then is an object looked for.
    rw [first, second, Option.bind_some, workloadRef?]
    cases v.at? ["objectRef", "workloadRef"] <;> rfl

theorem found_of_unblocked (free : ¬ Blocked object) :
    (object.get? "spec").bind workloadRef? = reference? object := by
  rw [found_eq, reference?, Json.objectAt?, Json.objectAt?]
  cases first : object.at? firstPlace with
  | none => rfl
  | some v =>
    cases isObject : v.isObject with
    | true => simp [Option.filter, isObject]
    | false => exact absurd ⟨v, first, isObject⟩ free

theorem found_of_blocked (blocked : Blocked object) : (object.get? "spec").bind workloadRef? = none := by
  obtain ⟨v, first, other⟩ := blocked
  simp [found_eq, first, Option.filter, other]

theorem fieldOf_eq_ok {field text : String} :
    fieldOf ref field = .ok text ↔ ref.textAt? [field] = some text ∧ text ≠ "" := by
  have found : ((ref.get? field).bind Json.text?).filter (· ≠ "") = some text ↔
      ref.textAt? [field] = some text ∧ text ≠ "" := by
    cases inside : ref.get? field <;> simp [Json.textAt?, inside, Option.filter_eq_some_iff]
  rw [← found, fieldOf]
  cases ((ref.get? field).bind Json.text?).filter (· ≠ "") <;> simp

def readNames (ref : Json) : Except PointerFault (String × String × String) := do
  let apiVersion ← fieldOf ref "apiVersion"
  let kind ← fieldOf ref "kind"
  let name ← fieldOf ref "name"
  pure (apiVersion, kind, name)

theorem readNames_eq_ok :
    readNames ref = .ok (apiVersion, kind, name) ↔ ReferenceTexts ref apiVersion kind name := by
  constructor
  · intro read
    unfold readNames at read
    cases first : fieldOf ref "apiVersion" with
    | error fault =>
      rw [first] at read
      cases read
    | ok a =>
      cases second : fieldOf ref "kind" with
      | error fault =>
        rw [first, second] at read
        cases read
      | ok k =>
        cases third : fieldOf ref "name" with
        | error fault =>
          rw [first, second, third] at read
          cases read
        | ok n =>
          rw [first, second, third] at read
          cases read
          exact ⟨fieldOf_eq_ok.mp first, fieldOf_eq_ok.mp second, fieldOf_eq_ok.mp third⟩
  · intro names
    rw [readNames, fieldOf_eq_ok.mpr names.apiVersion, fieldOf_eq_ok.mpr names.kind,
      fieldOf_eq_ok.mpr names.name]
    rfl

theorem readPointer_of_found (found : (object.get? "spec").bind workloadRef? = some ref) :
    readPointer object = readNames ref := by
  obtain ⟨spec, inside, place⟩ := Option.bind_eq_some_iff.mp found
  simp only [readPointer, Json.isNull_of_get? inside, inside, place]
  rfl

theorem readPointer_of_noReference {spec : Json} (inside : object.get? "spec" = some spec)
    (unfound : workloadRef? spec = none) : readPointer object = .error .noReference := by
  simp only [readPointer, Json.isNull_of_get? inside, inside, unfound]
  rfl

theorem readPointer_of_unfound (unfound : (object.get? "spec").bind workloadRef? = none) :
    ∃ fault, readPointer object = .error fault := by
  cases inside : object.get? "spec" with
  | none =>
    cases null : object.isNull <;>
    · simp only [readPointer, null, inside]
      exact ⟨_, rfl⟩
  | some spec =>
    rw [inside, Option.bind_some] at unfound
    exact ⟨_, readPointer_of_noReference inside unfound⟩

theorem readPointer_of_blocked (blocked : Blocked object) :
    readPointer object = .error .noReference := by
  have unfound := found_of_blocked blocked
  obtain ⟨v, first, -⟩ := blocked
  obtain ⟨spec, inside, -⟩ := Option.bind_eq_some_iff.mp first
  rw [inside, Option.bind_some] at unfound
  exact readPointer_of_noReference inside unfound

theorem readPointer_eq_ok (free : ¬ Blocked object) :
    readPointer object = .ok (apiVersion, kind, name) ↔ Refers object apiVersion kind name := by
  rw [Refers, ← found_of_unblocked free]
  cases found : (object.get? "spec").bind workloadRef? with
  | none =>
    obtain ⟨fault, unread⟩ := readPointer_of_unfound found
    simp [unread]
  | some ref => simp [readPointer_of_found found, readNames_eq_ok]

variable {h : Handle}

theorem classify_of_unread (rollout : h.gvk.isPointer = true) {fault : PointerFault}
    (unread : readPointer h.object = .error fault) :
    classify h = .error (.malformedPointer h.gvk.kind h.name fault.message) := by
  simp [classify, rollout, pointedAt, unread]

theorem classify_of_read (rollout : h.gvk.isPointer = true)
    (read : readPointer h.object = .ok (apiVersion, kind, name)) :
    classify h = match parseApiVersion apiVersion with
      | .ok (group, version) => .ok (.pointer ⟨⟨group, version, kind⟩, h.ns?, name⟩)
      | .error fault => .error (.invalidReference apiVersion fault.message) := by
  cases parsed : parseApiVersion apiVersion <;>
    simp [classify, rollout, pointedAt, read, Gvk.ofApiVersion, parsed]

theorem classify_eq_ok (rollout : h.gvk.isPointer = true) {target : Target} :
    classify h = .ok target ↔ ∃ apiVersion w,
      readPointer h.object = .ok (apiVersion, w.gvk.kind, w.name) ∧
        parseApiVersion apiVersion = .ok (w.gvk.group, w.gvk.version) ∧ w.ns? = h.ns? ∧
          target = .pointer w := by
  constructor
  · intro classified
    cases read : readPointer h.object with
    | error fault =>
      rw [classify_of_unread rollout read] at classified
      cases classified
    | ok texts =>
      obtain ⟨apiVersion, kind, name⟩ := texts
      rw [classify_of_read rollout read] at classified
      cases parsed : parseApiVersion apiVersion with
      | error fault =>
        rw [parsed] at classified
        cases classified
      | ok type =>
        rw [parsed] at classified
        cases classified
        exact ⟨apiVersion, _, rfl, parsed, rfl, rfl⟩
  · rintro ⟨apiVersion, ⟨⟨group, version, kind⟩, ns?, name⟩, read, parsed, rfl, rfl⟩
    rw [classify_of_read rollout read, parsed]

theorem classify_eq_invalid (rollout : h.gvk.isPointer = true) {reason : String} :
    classify h = .error (.invalidReference apiVersion reason) ↔ ∃ kind name fault,
      readPointer h.object = .ok (apiVersion, kind, name) ∧
        parseApiVersion apiVersion = .error fault ∧ reason = fault.message := by
  constructor
  · intro refused
    cases read : readPointer h.object with
    | error fault =>
      rw [classify_of_unread rollout read] at refused
      cases refused
    | ok texts =>
      obtain ⟨text, kind, name⟩ := texts
      rw [classify_of_read rollout read] at refused
      cases parsed : parseApiVersion text with
      | error fault =>
        rw [parsed] at refused
        cases refused
        exact ⟨kind, name, fault, rfl, parsed, rfl⟩
      | ok type =>
        rw [parsed] at refused
        cases refused
  · rintro ⟨kind, name, fault, read, parsed, rfl⟩
    rw [classify_of_read rollout read, parsed]

theorem classify_eq_malformed (rollout : h.gvk.isPointer = true) :
    (∃ fault : PointerFault,
        classify h = .error (.malformedPointer h.gvk.kind h.name fault.message)) ↔
      ∀ apiVersion kind name, readPointer h.object ≠ .ok (apiVersion, kind, name) := by
  constructor
  · rintro ⟨fault, refused⟩ apiVersion kind name read
    rw [classify_of_read rollout read] at refused
    cases parsed : parseApiVersion apiVersion <;>
    · rw [parsed] at refused
      cases refused
  · intro unread
    cases read : readPointer h.object with
    | error fault => exact ⟨fault, classify_of_unread rollout read⟩
    | ok texts => exact absurd read (unread _ _ _)

/-- A `Rollout` is a pointer to the workload that its reference names with three texts, in its own
namespace. It is refused as an invalid reference when only the `apiVersion` is no such text, and as
malformed in all other cases. Something in the first place that is no object hides the second place, so
that the object is malformed whatever stands there. -/
theorem classify_rollout (h : Handle) (rollout : h.gvk.isPointer = true) :
    (¬ Blocked h.object →
      (∀ target, classify h = .ok target ↔ ∃ apiVersion w,
        Refers h.object apiVersion w.gvk.kind w.name ∧
          parseApiVersion apiVersion = .ok (w.gvk.group, w.gvk.version) ∧ w.ns? = h.ns? ∧
            target = .pointer w) ∧
      (∀ apiVersion reason, classify h = .error (.invalidReference apiVersion reason) ↔
        ∃ kind name fault, Refers h.object apiVersion kind name ∧
          parseApiVersion apiVersion = .error fault ∧ reason = fault.message) ∧
      ((∃ fault : PointerFault,
          classify h = .error (.malformedPointer h.gvk.kind h.name fault.message)) ↔
        ∀ apiVersion kind name, ¬ Refers h.object apiVersion kind name)) ∧
    (Blocked h.object →
      classify h = .error (.malformedPointer h.gvk.kind h.name PointerFault.noReference.message)) := by
  refine ⟨fun free => ?_, fun blocked => classify_of_unread rollout (readPointer_of_blocked blocked)⟩
  simp only [← readPointer_eq_ok free]
  exact ⟨fun _ => classify_eq_ok rollout, fun _ _ => classify_eq_invalid rollout,
    classify_eq_malformed rollout⟩

end Rollout

/-! Rollouts with a reference in the second place, and with a null or a text of no use in the first. -/
namespace Rollout.Beta

def workload : Json :=
  .object [("apiVersion", .string "apps/v1"), ("kind", .string "Deployment"), ("name", .string "web")]

def spec (first : List (String × Json)) : Json :=
  .object [("spec", .object (first ++ [("workloadRef", workload)]))]

def handle (first : List (String × Json)) : Handle :=
  ⟨⟨"rollouts.kruise.io", "v1beta1", "Rollout"⟩, some "shop", "ro", spec first⟩

def nothing : List (String × Json) := [("objectRef", .object [("workloadRef", .null)])]

theorem referenceTexts : ReferenceTexts workload "apps/v1" "Deployment" "web" :=
  ⟨⟨rfl, by decide⟩, ⟨rfl, by decide⟩, ⟨rfl, by decide⟩⟩

theorem unblocked : ¬ Blocked (handle []).object := by
  rintro ⟨v, first, -⟩
  cases first

theorem blocked : Blocked (handle nothing).object := ⟨.null, rfl, rfl⟩

end Rollout.Beta

theorem classify_rollout_beta :
    (Rollout.Beta.handle []).gvk.isPointer = true ∧ ¬ Rollout.Blocked (Rollout.Beta.handle []).object ∧
      Rollout.Blocked (Rollout.Beta.handle Rollout.Beta.nothing).object ∧
      classify (Rollout.Beta.handle []) =
        .ok (.pointer ⟨⟨"apps", "v1", "Deployment"⟩, some "shop", "web"⟩) ∧
      classify (Rollout.Beta.handle Rollout.Beta.nothing) = .error (.malformedPointer "Rollout" "ro"
        "unsupported version of Rollout: no workloadRef") := by
  have rollout : (Rollout.Beta.handle []).gvk.isPointer = true := by decide
  have free := Rollout.classify_rollout (Rollout.Beta.handle []) rollout
  have hidden := Rollout.classify_rollout (Rollout.Beta.handle Rollout.Beta.nothing) rollout
  refine ⟨rollout, Rollout.Beta.unblocked, Rollout.Beta.blocked, ?_, hidden.2 Rollout.Beta.blocked⟩
  exact ((free.1 Rollout.Beta.unblocked).1 _).mpr
    ⟨"apps/v1", _, ⟨_, rfl, Rollout.Beta.referenceTexts⟩, rfl, rfl, rfl⟩

/-- A null in the first place hides a well-formed reference in the second. -/
theorem reference_hidden :
    (Rollout.Beta.handle Rollout.Beta.nothing).gvk.isPointer = true ∧
      Rollout.Refers (Rollout.Beta.handle Rollout.Beta.nothing).object "apps/v1" "Deployment" "web" ∧
      parseApiVersion "apps/v1" = .ok ("apps", "v1") ∧
      classify (Rollout.Beta.handle Rollout.Beta.nothing) = .error (.malformedPointer "Rollout" "ro"
        "unsupported version of Rollout: no workloadRef") :=
  ⟨by decide, ⟨_, rfl, Rollout.Beta.referenceTexts⟩, rfl, rfl⟩

end Rollback
