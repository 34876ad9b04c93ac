import Mathlib.Data.List.Nodup
import Rollback.Proofs.Engine.Visits
import Rollback.Proofs.Traversal

/-! One set of identities spans both phases of a run. Of the objects that claim an identity in the
first phase all but one are refused as duplicates, and if the source answers for the found workloads
what it was asked, no identity reaches a strategy twice. -/
namespace Rollback

/-- The identity that an object of the first phase claims; none if it cannot be told. -/
def Fetched.claim? (item : Fetched) : Option Identity :=
  match item with
  | .ok h => ((classify h).toOption).map Target.identity
  | .error _ => none

/-- The failure that the source gave in place of an object. -/
def Fetched.failure? (item : Fetched) : Option Failure :=
  match item with
  | .ok _ => none
  | .error failure => some failure

/-- An answer for workloads that were asked for: each object is one of them, and no two are the same
one. -/
structure Faithful (refs : List WorkloadRef) (items : List Fetched) : Prop where
  asked : ∀ h ∈ handles items, ∃ ref ∈ refs, h.identity = ref.identity
  distinct : ((handles items).map Handle.identity).Nodup

namespace Engine

variable {σ : Type} {c : Collaborators σ} {o : Options} {h : Handle} {p q : Progress σ}

/-- The objects of an answer for which there is a strategy. -/
def accepted (c : Collaborators σ) (items : List Fetched) : List Handle :=
  (handles items).filter fun h => (c.strategies.find? h.gvk.group h.gvk.kind).isSome

/-- The failures that the source gave: for single objects, or for the request as a whole. -/
def supplied : Except Failure (List Fetched) → List Failure
  | .ok items => items.filterMap Fetched.failure?
  | .error failure => [failure]

/-- Nothing was decided about identities, and no failure was recorded. -/
structure Unchanged (p q : Progress σ) : Prop where
  seen : q.seen = p.seen
  discovered : q.report.discovered = p.report.discovered
  directErrors : q.report.directErrors = p.report.directErrors
  indirectErrors : q.report.indirectErrors = p.report.indirectErrors

theorem Unchanged.trans {r : Progress σ} (first : Unchanged p q) (second : Unchanged q r) :
    Unchanged p r :=
  ⟨second.seen.trans first.seen, second.discovered.trans first.discovered,
    second.directErrors.trans first.directErrors, second.indirectErrors.trans first.indirectErrors⟩

theorem Unchanged.recorded (event : Event) (world : σ) : Unchanged p (p.recorded event world) :=
  ⟨rfl, rfl, rfl, rfl⟩

theorem Unchanged.withOutcome (identity : Identity) (deed : Deed) :
    Unchanged p (p.withOutcome identity deed) := ⟨rfl, rfl, rfl, rfl⟩

theorem Checked.unchanged (checked : Checked c o h p q) : Unchanged p q := by
  cases checked with
  | unasked mode => exact ⟨rfl, rfl, rfl, rfl⟩
  | supported mode answer => exact .recorded _ _

theorem Checked.attempts_eq (checked : Checked c o h p q) : attempts q.trace = attempts p.trace := by
  cases checked with
  | unasked mode => rfl
  | supported mode answer => simp [attempts, Event.attempt?]

variable {description : String} {result : Except Failure Unit} {identity : Identity}

theorem Printed.unchanged (printed : Printed c h description p (result, q)) : Unchanged p q := by
  cases printed <;> exact .recorded _ _

theorem Printed.attempts_eq (printed : Printed c h description p (result, q)) :
    attempts q.trace = attempts p.trace := by
  cases printed <;> simp [attempts, Event.attempt?]

theorem Printed.ne_duplicate {failure : Failure}
    (printed : Printed c h description p (.error failure, q)) (x : Identity) :
    failure ≠ .duplicateTarget x := by
  cases printed with
  | lost answer => exact Failure.noConfusion

theorem Attempt.unchanged (attempt : Attempt c o h identity p (result, q)) : Unchanged p q := by
  cases attempt with
  | unregistered none => exact ⟨rfl, rfl, rfl, rfl⟩
  | unsupported found mode answer => exact .recorded _ _
  | failed found checked answer => exact checked.unchanged.trans (.recorded _ _)
  | done found checked answer printed =>
    exact ((checked.unchanged.trans (.recorded _ _)).trans (.withOutcome _ _)).trans printed.unchanged

/-- An attempt hands the object to at most one strategy, and only if one is registered. -/
theorem Attempt.attempts_eq (attempt : Attempt c o h identity p (result, q)) :
    attempts q.trace = attempts p.trace ∨
      attempts q.trace = attempts p.trace ++ [h] ∧
        (c.strategies.find? h.gvk.group h.gvk.kind).isSome := by
  cases attempt with
  | unregistered none => exact .inl rfl
  | unsupported found mode answer => left; simp [attempts, Event.attempt?]
  | failed found checked answer =>
    refine .inr ⟨?_, Option.isSome_of_eq_some found⟩
    simp only [Progress.recorded, attempts_append, checked.attempts_eq]
    rfl
  | done found checked answer printed =>
    refine .inr ⟨?_, Option.isSome_of_eq_some found⟩
    rw [printed.attempts_eq]
    simp only [Progress.withOutcome, Progress.recorded, attempts_append, checked.attempts_eq]
    rfl

theorem Attempt.ne_duplicate {failure : Failure}
    (attempt : Attempt c o h identity p (.error failure, q)) (x : Identity) :
    failure ≠ .duplicateTarget x := by
  cases attempt with
  | unregistered none => exact Failure.noConfusion
  | unsupported found mode answer => exact Failure.noConfusion
  | failed found checked answer => exact Failure.noConfusion
  | done found checked answer printed => exact printed.ne_duplicate x

theorem fault_of_classify {failure : Failure} (classified : classify h = .error failure) :
    (∃ kind name reason, failure = .malformedPointer kind name reason) ∨
      ∃ apiVersion reason, failure = .invalidReference apiVersion reason := by
  unfold classify pointedAt at classified
  split at classified
  · split at classified
    · cases classified
      exact .inl ⟨_, _, _, rfl⟩
    · split at classified <;> cases classified
      exact .inr ⟨_, _, rfl⟩
  · cases classified

/-- Telling what an object stands for never finds a duplicate. -/
theorem classify_ne_duplicate {failure : Failure} (classified : classify h = .error failure)
    (x : Identity) : failure ≠ .duplicateTarget x := by
  obtain ⟨kind, name, reason, rfl⟩ | ⟨apiVersion, reason, rfl⟩ := fault_of_classify classified <;>
  exact Failure.noConfusion

theorem identity_of_workload (classified : classify h = .ok (.workload identity)) :
    identity = h.identity := by
  unfold classify at classified
  split at classified
  · cases pointed : pointedAt h <;> simp [pointed] at classified
  · cases classified
    rfl

theorem claim?_of_classified {target : Target} (classified : classify h = .ok target) :
    Fetched.claim? (.ok h) = some target.identity := by
  simp [Fetched.claim?, classified]

variable {item : Fetched}

theorem DirectVisit.unchanged_errors (visit : DirectVisit c o p item (result, q)) :
    q.report.directErrors = p.report.directErrors ∧
      q.report.indirectErrors = p.report.indirectErrors := by
  cases visit with
  | unread | unclassified | duplicate => exact ⟨rfl, rfl⟩
  | unannounced classified new printed =>
    exact ⟨printed.unchanged.directErrors, printed.unchanged.indirectErrors⟩
  | announced classified new printed =>
    exact ⟨printed.unchanged.directErrors, printed.unchanged.indirectErrors⟩
  | attempted classified new attempt =>
    exact ⟨attempt.unchanged.directErrors, attempt.unchanged.indirectErrors⟩

/-- A visit adds the claimed identity to the set, whatever else happens to the object. -/
theorem DirectVisit.seen_iff (visit : DirectVisit c o p item (result, q)) (x : Identity) :
    q.seen.contains x = true ↔ p.seen.contains x = true ∨ item.claim? = some x := by
  have added (identity : Identity) : Seen.contains ⟨identity :: p.seen.identities⟩ x = true ↔
      p.seen.contains x = true ∨ identity = x := by
    simp only [Seen.contains, List.contains_cons, Bool.or_eq_true, beq_iff_eq]
    rw [or_comm, @eq_comm _ identity]
  cases visit with
  | unread => simp [Fetched.claim?]
  | unclassified classified => simp [Fetched.claim?, classified]
  | duplicate classified seen =>
    rw [claim?_of_classified classified]
    simp only [Option.some.injEq]
    exact ⟨.inl, fun either => either.elim id (fun same => same ▸ seen)⟩
  | unannounced classified new printed =>
    rw [claim?_of_classified classified, printed.unchanged.seen]
    simpa [Target.identity] using added _
  | announced classified new printed =>
    rw [claim?_of_classified classified]
    simpa [Target.identity, Progress.withDiscovered, Progress.withOutcome, printed.unchanged.seen]
      using added _
  | attempted classified new attempt =>
    rw [claim?_of_classified classified, attempt.unchanged.seen]
    simpa [Target.identity] using added _

/-- A visit ends in a duplicate just when the claimed identity is in the set already, or when the
source says so itself. -/
theorem DirectVisit.duplicate_iff (visit : DirectVisit c o p item (result, q)) (x : Identity) :
    result = .error (.duplicateTarget x) ↔
      (item.claim? = some x ∧ p.seen.contains x = true) ∨
        item.failure? = some (.duplicateTarget x) := by
  have fresh {identity : Identity} (new : p.seen.contains identity = false)
      (claimed : item.claim? = some identity) (ok : item.failure? = none)
      (other : result ≠ .error (.duplicateTarget x)) :
      result = .error (.duplicateTarget x) ↔
        (item.claim? = some x ∧ p.seen.contains x = true) ∨
          item.failure? = some (.duplicateTarget x) := by
    refine ⟨fun same => absurd same other, ?_⟩
    rintro (⟨same, seen⟩ | same)
    · rw [claimed] at same
      cases same
      simp [new] at seen
    · simp [ok] at same
  cases visit with
  | unread => simp [Fetched.claim?, Fetched.failure?]
  | unclassified classified =>
    simp [Fetched.claim?, Fetched.failure?, classified, classify_ne_duplicate classified x]
  | duplicate classified seen =>
    rw [claim?_of_classified classified]
    simp only [Fetched.failure?, Except.error.injEq, Failure.duplicateTarget.injEq,
      Option.some.injEq, reduceCtorEq, or_false]
    exact ⟨fun same => ⟨same, same ▸ seen⟩, And.left⟩
  | unannounced classified new printed =>
    refine fresh new (claim?_of_classified classified) rfl ?_
    simpa using printed.ne_duplicate x
  | announced classified new printed => exact fresh new (claim?_of_classified classified) rfl (by simp)
  | attempted classified new attempt =>
    refine fresh new (claim?_of_classified classified) rfl ?_
    rintro rfl
    exact attempt.ne_duplicate x rfl

theorem IndirectVisit.unchanged (visit : IndirectVisit c o p item (result, q)) : Unchanged p q := by
  cases visit with
  | unread => exact ⟨rfl, rfl, rfl, rfl⟩
  | attempted attempt => exact attempt.unchanged

/-- The second phase finds no duplicates of its own. -/
theorem IndirectVisit.duplicate_iff (visit : IndirectVisit c o p item (result, q)) (x : Identity) :
    result = .error (.duplicateTarget x) ↔ item.failure? = some (.duplicateTarget x) := by
  cases visit with
  | unread => simp [Fetched.failure?]
  | attempted attempt =>
    simp only [Fetched.failure?, reduceCtorEq, iff_false]
    rintro rfl
    exact attempt.ne_duplicate x rfl

theorem pointer_of_classify {ref : WorkloadRef} (classified : classify h = .ok (.pointer ref)) :
    h.gvk.isPointer = true ∧ ref.ns? = h.ns? := by
  unfold classify at classified
  split at classified
  · next pointer =>
    refine ⟨pointer, ?_⟩
    cases pointed : pointedAt h with
    | error failure => simp [pointed] at classified
    | ok found =>
      obtain rfl : found = ref := by simpa [pointed] using classified
      unfold pointedAt at pointed
      split at pointed
      · cases pointed
      · split at pointed <;> cases pointed
        rfl
  · cases classified

/-- A visit finds at most one workload, the one that its object points at. -/
theorem DirectVisit.discovered_cases (visit : DirectVisit c o p item (result, q)) :
    q.report.discovered = p.report.discovered ∨
      ∃ h ref, item = .ok h ∧ classify h = .ok (.pointer ref) ∧
        q.report.discovered = p.report.discovered ++ [ref] := by
  cases visit with
  | unread | unclassified | duplicate => exact .inl rfl
  | unannounced classified new printed => exact .inl printed.unchanged.discovered
  | @announced h ref q classified new printed =>
    have discovered : q.report.discovered = p.report.discovered := printed.unchanged.discovered
    exact .inr ⟨h, ref, rfl, classified, congrArg (· ++ [ref]) discovered⟩
  | attempted classified new attempt => exact .inl attempt.unchanged.discovered

/-- Every found workload is one that an object of the first phase points at. -/
theorem discovered_foldl_stepDirect {items : List Fetched} {p : Progress σ} {ref : WorkloadRef}
    (member : ref ∈ (items.foldl (stepDirect c o) p).report.discovered) :
    ref ∈ p.report.discovered ∨ ∃ h ∈ handles items, classify h = .ok (.pointer ref) := by
  induction items generalizing p with
  | nil => exact .inl member
  | cons item rest ih =>
    have visited : (stepDirect c o p item).report.discovered = p.report.discovered ∨
        ∃ h ref, item = .ok h ∧ classify h = .ok (.pointer ref) ∧
          (stepDirect c o p item).report.discovered = p.report.discovered ++ [ref] := by
      obtain ⟨q, visit, step⟩ | ⟨failure, q, visit, step⟩ := stepDirect_cases c o p item <;>
      · rw [step]
        exact visit.discovered_cases
    rcases ih member with earlier | ⟨h, later, classified⟩
    · obtain same | ⟨h, found, rfl, classified, more⟩ := visited
      · exact .inl (same ▸ earlier)
      · rcases List.mem_append.mp (more ▸ earlier) with before | last
        · exact .inl before
        · obtain rfl := List.mem_singleton.mp last
          exact .inr ⟨h, List.mem_cons_self, classified⟩
    · refine .inr ⟨h, ?_, classified⟩
      rw [handles_cons]
      exact List.mem_append_right _ later

theorem seen_stepDirect (p : Progress σ) (item : Fetched) (x : Identity) :
    (stepDirect c o p item).seen.contains x = true ↔
      p.seen.contains x = true ∨ item.claim? = some x := by
  obtain ⟨q, visit, step⟩ | ⟨failure, q, visit, step⟩ := stepDirect_cases c o p item <;>
  · rw [step]
    exact visit.seen_iff x

theorem indirectErrors_stepDirect (p : Progress σ) (item : Fetched) :
    (stepDirect c o p item).report.indirectErrors = p.report.indirectErrors := by
  obtain ⟨q, visit, step⟩ | ⟨failure, q, visit, step⟩ := stepDirect_cases c o p item <;>
  · rw [step]
    exact visit.unchanged_errors.2

open Classical in
theorem duplicates_stepDirect (p : Progress σ) (item : Fetched) (x : Identity) :
    (stepDirect c o p item).report.directErrors.count (.duplicateTarget x) =
      p.report.directErrors.count (.duplicateTarget x)
        + (if item.claim? = some x ∧ p.seen.contains x = true then 1 else 0)
        + (if item.failure? = some (.duplicateTarget x) then 1 else 0) := by
  have exclusive : ¬ ((item.claim? = some x ∧ p.seen.contains x = true) ∧
      item.failure? = some (.duplicateTarget x)) := by
    cases item <;> simp [Fetched.claim?, Fetched.failure?]
  obtain ⟨q, visit, step⟩ | ⟨failure, q, visit, step⟩ := stepDirect_cases c o p item
  · have same := visit.duplicate_iff x
    simp only [reduceCtorEq, false_iff, not_or] at same
    rw [step, ← visit.unchanged_errors.1, if_neg same.1, if_neg same.2, Nat.add_zero]
  · have same := visit.duplicate_iff x
    simp only [Except.error.injEq] at same
    rw [step, ← visit.unchanged_errors.1]
    simp only [Progress.withDirectError, List.count_append, List.count_singleton, beq_iff_eq, same]
    by_cases again : item.claim? = some x ∧ p.seen.contains x = true
    · rw [if_pos (.inl again), if_pos again, if_neg fun given => exclusive ⟨again, given⟩]
    · simp only [again, false_or, if_false, Nat.add_zero]

/-- Of the objects that claim one identity, all are refused that come after the first, and the first
one too if the identity has been seen before. -/
theorem duplicates_foldl_stepDirect (items : List Fetched) (p : Progress σ) (x : Identity) :
    (items.foldl (stepDirect c o) p).report.directErrors.count (.duplicateTarget x) =
      p.report.directErrors.count (.duplicateTarget x)
        + (if p.seen.contains x = true then (items.filterMap Fetched.claim?).count x
          else (items.filterMap Fetched.claim?).count x - 1)
        + (items.filterMap Fetched.failure?).count (.duplicateTarget x) := by
  classical
  induction items generalizing p with
  | nil => simp
  | cons item rest ih =>
    rw [List.foldl_cons, ih, duplicates_stepDirect]
    have failures : ((item :: rest).filterMap Fetched.failure?).count (.duplicateTarget x) =
        (if item.failure? = some (.duplicateTarget x) then 1 else 0)
          + (rest.filterMap Fetched.failure?).count (.duplicateTarget x) := by
      cases given : item.failure? with
      | none => simp [given]
      | some failure => simp [given, List.count_cons, Nat.add_comm]
    have claims : ((item :: rest).filterMap Fetched.claim?).count x =
        (if item.claim? = some x then 1 else 0) + (rest.filterMap Fetched.claim?).count x := by
      cases claimed : item.claim? with
      | none => simp [claimed]
      | some identity => simp [claimed, List.count_cons, Nat.add_comm]
    simp only [seen_stepDirect, failures, claims]
    by_cases claimed : item.claim? = some x <;> by_cases seen : p.seen.contains x = true <;>
      simp [claimed, seen] <;> omega

theorem indirectErrors_foldl_stepDirect (items : List Fetched) (p : Progress σ) :
    (items.foldl (stepDirect c o) p).report.indirectErrors = p.report.indirectErrors := by
  induction items generalizing p with
  | nil => rfl
  | cons item rest ih => rw [List.foldl_cons, ih, indirectErrors_stepDirect]

/-- The identities that have reached a strategy or wait for the second phase. -/
def taken (p : Progress σ) : List Identity :=
  (attempts p.trace).map Handle.identity ++ p.report.discovered.map WorkloadRef.identity

/-- No identity is taken twice, and each one that is taken has been seen. -/
structure Reserved (p : Progress σ) : Prop where
  distinct : (taken p).Nodup
  seen : ∀ x ∈ taken p, p.seen.contains x = true

theorem Reserved.of_eq (reserved : Reserved p) (same : taken q = taken p)
    (grows : ∀ x, p.seen.contains x = true → q.seen.contains x = true) : Reserved q :=
  ⟨same ▸ reserved.distinct, fun x member => grows x (reserved.seen x (same ▸ member))⟩

theorem Reserved.of_new (reserved : Reserved p) {x : Identity}
    (more : (taken q).Perm (x :: taken p)) (new : p.seen.contains x = false)
    (grows : ∀ y, q.seen.contains y = true ↔ p.seen.contains y = true ∨ x = y) : Reserved q := by
  constructor
  · rw [more.nodup_iff, List.nodup_cons]
    exact ⟨fun member => Bool.eq_false_iff.mp new (reserved.seen x member), reserved.distinct⟩
  · intro y member
    rcases List.mem_cons.mp (more.mem_iff.mp member) with rfl | old
    · exact (grows y).mpr (.inr rfl)
    · exact (grows y).mpr (.inl (reserved.seen y old))

theorem Reserved.visit (reserved : Reserved p) (visit : DirectVisit c o p item (result, q)) :
    Reserved q := by
  have seen := visit.seen_iff
  have grows (x : Identity) (old : p.seen.contains x = true) := (seen x).mpr (.inl old)
  cases visit with
  | unread | unclassified | duplicate => exact reserved
  | unannounced classified new printed =>
    refine reserved.of_eq ?_ grows
    rw [taken, printed.attempts_eq, printed.unchanged.discovered, taken]
  | @announced h ref q classified new printed =>
    simp only [claim?_of_classified classified, Option.some.injEq] at seen
    refine reserved.of_new (x := ref.identity) ?_ new seen
    have attempted : attempts q.trace = attempts p.trace := printed.attempts_eq
    have discovered : q.report.discovered = p.report.discovered := printed.unchanged.discovered
    simp only [taken, Progress.withOutcome, Progress.withDiscovered, attempted, discovered,
      List.map_append, List.map_cons, List.map_nil, ← List.append_assoc]
    exact List.perm_append_singleton _ _
  | @attempted h identity _ classified new attempt =>
    have discovered : q.report.discovered = p.report.discovered := attempt.unchanged.discovered
    simp only [claim?_of_classified classified, Option.some.injEq] at seen
    obtain rfl := identity_of_workload classified
    rcases attempt.attempts_eq with idle | ⟨called, -⟩
    · refine reserved.of_eq ?_ grows
      rw [taken, idle, discovered, taken]
    · refine reserved.of_new (x := h.identity) ?_ new seen
      rw [taken, called, discovered, List.map_append, List.append_assoc]
      exact List.perm_middle

theorem reserved_foldl_stepDirect (items : List Fetched) (p : Progress σ) (reserved : Reserved p) :
    Reserved (items.foldl (stepDirect c o) p) := by
  induction items generalizing p with
  | nil => exact reserved
  | cons item rest ih =>
    refine ih _ ?_
    obtain ⟨q, visit, step⟩ | ⟨failure, q, visit, step⟩ := stepDirect_cases c o p item
    · exact step ▸ reserved.visit visit
    · obtain ⟨distinct, seen⟩ := reserved.visit visit
      exact step ▸ ⟨distinct, seen⟩

theorem reserved_afterDirect (c : Collaborators σ) (o : Options) (request : Request) (world : σ)
    (items : List Fetched) : Reserved (afterDirect c o request world items) :=
  reserved_foldl_stepDirect items _ ⟨List.nodup_nil, by
    simp [taken, attempts, Event.attempt?, Report.empty]⟩

theorem duplicates_foldl_stepIndirect (items : List Fetched) (p : Progress σ) (x : Identity) :
    (items.foldl (stepIndirect c o) p).report.indirectErrors.count (.duplicateTarget x) =
      p.report.indirectErrors.count (.duplicateTarget x)
        + (items.filterMap Fetched.failure?).count (.duplicateTarget x) := by
  classical
  induction items generalizing p with
  | nil => simp
  | cons item rest ih =>
    have step : (stepIndirect c o p item).report.indirectErrors.count (.duplicateTarget x) =
        p.report.indirectErrors.count (.duplicateTarget x)
          + if item.failure? = some (.duplicateTarget x) then 1 else 0 := by
      obtain ⟨q, visit, step⟩ | ⟨failure, q, visit, step⟩ := stepIndirect_cases c o p item
      · have same := visit.duplicate_iff x
        simp only [reduceCtorEq, false_iff] at same
        rw [step, visit.unchanged.indirectErrors, if_neg same, Nat.add_zero]
      · have same := visit.duplicate_iff x
        simp only [Except.error.injEq] at same
        rw [step, ← visit.unchanged.indirectErrors]
        simp only [Progress.withIndirectError, List.count_append, List.count_singleton, beq_iff_eq,
          same]
    rw [List.foldl_cons, ih, step]
    cases given : item.failure? with
    | none => simp [given]
    | some failure =>
      simp only [List.filterMap_cons, given, List.count_cons, beq_iff_eq, Option.some.injEq]
      omega

theorem unchanged_stepIndirect (p : Progress σ) (item : Fetched) :
    (stepIndirect c o p item).report.directErrors = p.report.directErrors ∧
      (stepIndirect c o p item).report.discovered = p.report.discovered := by
  obtain ⟨q, visit, step⟩ | ⟨failure, q, visit, step⟩ := stepIndirect_cases c o p item <;>
  · rw [step]
    exact ⟨visit.unchanged.directErrors, visit.unchanged.discovered⟩

theorem unchanged_foldl_stepIndirect (items : List Fetched) (p : Progress σ) :
    (items.foldl (stepIndirect c o) p).report.directErrors = p.report.directErrors ∧
      (items.foldl (stepIndirect c o) p).report.discovered = p.report.discovered := by
  induction items generalizing p with
  | nil => exact ⟨rfl, rfl⟩
  | cons item rest ih =>
    obtain ⟨errors, discovered⟩ := ih (stepIndirect c o p item)
    obtain ⟨errors', discovered'⟩ := unchanged_stepIndirect (c := c) (o := o) p item
    exact ⟨errors.trans errors', discovered.trans discovered'⟩

theorem IndirectVisit.attempts_eq (visit : IndirectVisit c o p item (result, q)) :
    ∃ first, attempts q.trace = attempts p.trace ++ first ∧ first.Sublist (accepted c [item]) := by
  cases visit with
  | unread => exact ⟨[], (List.append_nil _).symm, List.nil_sublist _⟩
  | @attempted h _ attempt =>
    rcases attempt.attempts_eq with idle | ⟨called, registered⟩
    · exact ⟨[], idle.trans (List.append_nil _).symm, List.nil_sublist _⟩
    · exact ⟨[h], called, by simp [accepted, handles, registered]⟩

/-- The second phase hands each object of the answer to at most one strategy, in order. -/
theorem attempts_foldl_stepIndirect (items : List Fetched) (p : Progress σ) :
    ∃ more, attempts (items.foldl (stepIndirect c o) p).trace = attempts p.trace ++ more ∧
      more.Sublist (accepted c items) := by
  induction items generalizing p with
  | nil => exact ⟨[], (List.append_nil _).symm, .slnil⟩
  | cons item rest ih =>
    have visited : ∃ first, attempts (stepIndirect c o p item).trace = attempts p.trace ++ first ∧
        first.Sublist (accepted c [item]) := by
      obtain ⟨q, visit, step⟩ | ⟨failure, q, visit, step⟩ := stepIndirect_cases c o p item <;>
      · rw [step]
        exact visit.attempts_eq
    obtain ⟨first, calledFirst, partFirst⟩ := visited
    obtain ⟨more, called, part⟩ := ih (stepIndirect c o p item)
    refine ⟨first ++ more, ?_, ?_⟩
    · rw [List.foldl_cons, called, calledFirst, List.append_assoc]
    · rw [accepted, handles_cons, List.filter_append]
      exact partFirst.append part

theorem pointer_of_discovered {request : Request} {world : σ} {items : List Fetched}
    {ref : WorkloadRef} (member : ref ∈ (afterDirect c o request world items).report.discovered) :
    ∃ h ∈ handles items, classify h = .ok (.pointer ref) :=
  (discovered_foldl_stepDirect member).resolve_left List.not_mem_nil

section Runs

variable {request : Request}

theorem afterBoth_cases (c : Collaborators σ) (o : Options) (request : Request) (p : Progress σ) :
    (afterBoth c o request p = p ∧ followUpAnswer c request p = .ok []) ∨
      ∃ q, Unchanged p q ∧ attempts q.trace = attempts p.trace ∧
        ((∃ failure, followUpAnswer c request p = .error failure ∧
            afterBoth c o request p = q.withIndirectError failure) ∨
          ∃ items, followUpAnswer c request p = .ok items ∧
            afterBoth c o request p = items.foldl (stepIndirect c o) q) := by
  unfold afterBoth followUpAnswer
  by_cases none : p.report.discovered.isEmpty
  · exact .inl ⟨if_pos none, if_pos none⟩
  · refine .inr ⟨_, .recorded (.resolve (request.followUp p.report.discovered))
      (c.resolve (request.followUp p.report.discovered) p.world).2,
      by simp [attempts, Event.attempt?], ?_⟩
    simp only [none, if_false, secondPhase, resolve_eq, Bool.false_eq_true]
    cases answer : (c.resolve (request.followUp p.report.discovered) p.world).1 with
    | error failure => exact .inl ⟨failure, rfl, rfl⟩
    | ok items => exact .inr ⟨items, rfl, rfl⟩

theorem directErrors_afterBoth (p : Progress σ) :
    (afterBoth c o request p).report.directErrors = p.report.directErrors := by
  obtain ⟨whole, _⟩ | ⟨q, same, _, ⟨failure, _, whole⟩ | ⟨items, _, whole⟩⟩ :=
    afterBoth_cases c o request p
  · rw [whole]
  · exact whole ▸ same.directErrors
  · rw [whole, (unchanged_foldl_stepIndirect items q).1, same.directErrors]

theorem discovered_afterBoth (request : Request) (p : Progress σ) :
    (afterBoth c o request p).report.discovered = p.report.discovered := by
  obtain ⟨whole, _⟩ | ⟨q, same, _, ⟨failure, _, whole⟩ | ⟨items, _, whole⟩⟩ :=
    afterBoth_cases c o request p
  · rw [whole]
  · exact whole ▸ same.discovered
  · rw [whole, (unchanged_foldl_stepIndirect items q).2, same.discovered]

/-- The second phase reports as duplicates only what the source reported as such. -/
theorem duplicates_afterBoth (p : Progress σ) (x : Identity) :
    (afterBoth c o request p).report.indirectErrors.count (.duplicateTarget x) =
      p.report.indirectErrors.count (.duplicateTarget x)
        + (supplied (followUpAnswer c request p)).count (.duplicateTarget x) := by
  obtain ⟨whole, answer⟩ | ⟨q, same, _, ⟨failure, answer, whole⟩ | ⟨items, answer, whole⟩⟩ :=
    afterBoth_cases c o request p
  · simp [whole, answer, supplied]
  · simp only [whole, answer, supplied, Progress.withIndirectError, List.count_append,
      same.indirectErrors]
  · rw [whole, answer, supplied, duplicates_foldl_stepIndirect, same.indirectErrors]

/-- What the second phase hands to strategies is part of the source's answer. -/
theorem attempts_afterBoth (request : Request) (p : Progress σ) :
    ∃ more, attempts (afterBoth c o request p).trace = attempts p.trace ++ more ∧
      (more = [] ∨
        ∃ items, followUpAnswer c request p = .ok items ∧ more.Sublist (accepted c items)) := by
  obtain ⟨whole, _⟩ | ⟨q, _, called, ⟨failure, _, whole⟩ | ⟨items, answer, whole⟩⟩ :=
    afterBoth_cases c o request p
  · exact ⟨[], by rw [whole, List.append_nil], .inl rfl⟩
  · exact ⟨[], by rw [whole, List.append_nil]; exact called, .inl rfl⟩
  · obtain ⟨more, calledMore, part⟩ := attempts_foldl_stepIndirect (c := c) (o := o) items q
    exact ⟨more, by rw [whole, calledMore, called], .inr ⟨items, answer, part⟩⟩

/-- If the objects that come back for the found workloads are those workloads, and no two are the same
one, no identity is handed to a strategy twice. -/
theorem Reserved.nodup_attempts {p : Progress σ} (reserved : Reserved p)
    (answered : ∀ items, followUpAnswer c request p = .ok items →
      (∀ h ∈ accepted c items, ∃ ref ∈ p.report.discovered, h.identity = ref.identity) ∧
        ((accepted c items).map Handle.identity).Nodup) :
    ((attempts (afterBoth c o request p).trace).map Handle.identity).Nodup := by
  obtain ⟨tried, waiting, apart⟩ := List.nodup_append.mp reserved.distinct
  obtain ⟨more, called, rfl | ⟨items, answer, part⟩⟩ :=
    attempts_afterBoth (c := c) (o := o) request p
  · rw [called, List.append_nil]
    exact tried
  · obtain ⟨asked, distinct⟩ := answered items answer
    rw [called, List.map_append, List.nodup_append]
    refine ⟨tried, distinct.sublist (part.map _), ?_⟩
    rintro x before y again rfl
    obtain ⟨h, member, rfl⟩ := List.mem_map.mp again
    obtain ⟨ref, found, same⟩ := asked h (part.subset member)
    exact apart _ before _ (List.mem_map_of_mem found) same

/-- Of the objects of the first phase that claim one identity, all but one are reported as
duplicates, and no others are but those that the source reported as such. If the source answers for
the found workloads what it was asked, no identity is handed to a strategy twice. -/
theorem run_deduplicates (c : Collaborators σ) (o : Options) (request : Request) (world : σ)
    (report : Report) (ended : (run c o request world).result = .ok report) :
    ∃ items, (c.resolve request world).1 = .ok items ∧
      let answer := followUpAnswer c request (afterDirect c o request world items)
      (∀ x, report.directErrors.count (.duplicateTarget x) =
          (items.filterMap Fetched.claim?).count x - 1
            + (supplied (.ok items)).count (.duplicateTarget x) ∧
        report.indirectErrors.count (.duplicateTarget x) =
          (supplied answer).count (.duplicateTarget x)) ∧
      ((∀ found, answer = .ok found → Faithful report.discovered found) →
        ((attempts (run c o request world).trace).map Handle.identity).Nodup) := by
  obtain ⟨items, answered⟩ := answered_of_run ended
  have whole := run_of_answered (o := o) answered
  rw [whole] at ended
  obtain rfl := Except.ok.inj ended
  refine ⟨items, answered, fun x => ⟨?_, ?_⟩, fun faithful => ?_⟩
  · rw [directErrors_afterBoth, afterDirect, duplicates_foldl_stepDirect]
    simp [Report.empty, supplied]
  · rw [duplicates_afterBoth, afterDirect, indirectErrors_foldl_stepDirect]
    simp [Report.empty]
  · rw [whole]
    refine (reserved_afterDirect c o request world items).nodup_attempts fun found answer => ?_
    have faithful := faithful found answer
    refine ⟨fun h member => ?_, faithful.distinct.sublist (List.filter_sublist.map _)⟩
    obtain ⟨ref, asked, same⟩ := faithful.asked h (List.mem_of_mem_filter member)
    exact ⟨ref, discovered_afterBoth (c := c) (o := o) request _ ▸ asked, same⟩

end Runs

end Engine

/-! A source with two pointers to deployments that are also named directly, and a deployment that is
named twice. The line of the first pointer cannot be written. -/
namespace Crowd

def deployment (name : String) : Handle := ⟨⟨"apps", "v1", "Deployment"⟩, some "ns", name, .object []⟩

def pointer (name target : String) : Handle :=
  ⟨⟨rolloutGroup, "v1beta1", rolloutKind⟩, some "ns", name,
    .object [("spec", .object [("workloadRef", .object [("apiVersion", .string "apps/v1"),
      ("kind", .string "Deployment"), ("name", .string target)])])]⟩

def items : List Fetched :=
  [.ok (pointer "a" "web"), .ok (pointer "b" "api"), .ok (deployment "web"), .ok (deployment "api"),
    .ok (deployment "db"), .ok (deployment "db")]

/-- The world counts the lines that were asked for. -/
def collaborators : Collaborators Nat where
  resolve request := pure (.ok (if request.filenames.isEmpty then [.ok (deployment "api")] else items))
  verify _ := pure (.ok ())
  strategies := Registry.empty.register "apps" "Deployment" fun _ _ _ => pure (.ok "rolled back")
  print _ _ := fun lines => (if lines = 0 then .error (.plain "broken pipe") else .ok (), lines + 1)

def request : Request := ⟨"ns", false, [], ["all.yaml"], false⟩

def ended : Engine.Ended Nat := Engine.run collaborators default request 0

end Crowd

theorem run_deduplicates_crowd :
    ∃ report, Crowd.ended.result = .ok report ∧
      (∀ name ∈ ["web", "api", "db"],
        report.directErrors.count (.duplicateTarget (Crowd.deployment name).identity) = 1) ∧
      ((attempts Crowd.ended.trace).map Handle.identity).Nodup := by
  obtain ⟨report, ended⟩ : ∃ report, Crowd.ended.result = .ok report := ⟨_, rfl⟩
  obtain ⟨items, answered, counts, once⟩ := Engine.run_deduplicates _ _ _ _ report ended
  obtain rfl : Crowd.items = items := Except.ok.inj answered
  refine ⟨report, ended, fun name member => ?_, once fun found answer => ?_⟩
  · rw [(counts _).1]
    revert name
    decide +kernel
  · obtain rfl : [.ok (Crowd.deployment "api")] = found := Except.ok.inj answer
    have discovered : [(Crowd.deployment "api").identity] =
        report.discovered.map WorkloadRef.identity :=
      congrArg (List.map WorkloadRef.identity ∘ Report.discovered) (Except.ok.inj ended)
    refine ⟨fun h member => ?_, by simp [handles]⟩
    obtain rfl : h = Crowd.deployment "api" := by simpa [handles] using member
    obtain ⟨ref, member, same⟩ := List.mem_map.mp (discovered ▸ List.mem_singleton_self _)
    exact ⟨ref, member, same.symm⟩

end Rollback
