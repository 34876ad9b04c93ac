import Rollback.Proofs.Engine.Phases

/-! What becomes of the first object that claims an identity. It is rolled back or queued, and then all
later claims are refused as duplicates; but a pointer whose line cannot be written is neither, and the
later claims are refused all the same. -/
namespace Rollback

/-- The object at a place is the first to claim the identity. -/
structure FirstClaim (items : List Fetched) (i : Nat) (item : Fetched) (x : Identity) : Prop where
  there : items[i]? = some item
  claimed : item.claim? = some x
  first : x ∉ (items.take i).filterMap Fetched.claim?

section Claims

variable {items : List Fetched} {i j : Nat} {item other : Fetched} {x : Identity}

theorem mem_claims_of_lt (there : items[j]? = some item) (claimed : item.claim? = some x)
    (before : j < i) : x ∈ (items.take i).filterMap Fetched.claim? := by
  refine List.mem_filterMap.mpr ⟨item, ?_, claimed⟩
  apply List.mem_of_getElem? (i := j)
  rw [List.getElem?_take_of_lt before]
  exact there

theorem exists_firstClaim (member : x ∈ (items.take i).filterMap Fetched.claim?) :
    ∃ j item, j < i ∧ FirstClaim items j item x := by
  induction i with
  | zero => simp at member
  | succ i ih =>
    by_cases earlier : x ∈ (items.take i).filterMap Fetched.claim?
    · obtain ⟨j, item, before, first⟩ := ih earlier
      exact ⟨j, item, Nat.lt_succ_of_lt before, first⟩
    · rw [List.take_add_one, List.filterMap_append, List.mem_append] at member
      obtain ⟨item, last, claimed⟩ := List.mem_filterMap.mp (member.resolve_left earlier)
      exact ⟨i, item, Nat.lt_succ_self i, Option.mem_toList.mp last, claimed, earlier⟩

theorem FirstClaim.unique (here : FirstClaim items i item x) (elsewhere : FirstClaim items j other x) :
    i = j := by
  rcases Nat.lt_trichotomy i j with before | same | after
  · exact absurd (mem_claims_of_lt here.there here.claimed before) elsewhere.first
  · exact same
  · exact absurd (mem_claims_of_lt elsewhere.there elsewhere.claimed after) here.first

end Claims

namespace Engine

variable {σ : Type}

/-- The visit of the object, with the given progress before it, rolls it back under the identity. -/
def Entered (c : Collaborators σ) (o : Options) (p : Progress σ) (item : Fetched) (x : Identity) : Prop :=
  ∃ h, item = .ok h ∧ classify h = .ok (.workload x) ∧
    visitDirect c o item p = rollBack c o h x { p with seen := (p.seen.observe x).2 }

/-- The workload that the object points at is in the report and in the follow-up request. -/
def Queued (request : Request) (item : Fetched) (report : Report) (trace : List Event) (x : Identity) :
    Prop :=
  ∃ ref ∈ report.discovered, item.target? = some ref ∧ ref.identity = x ∧
    request.followUp report.discovered ∈ asked trace ∧
      .workload ref ∈ (request.followUp report.discovered).args

/-- The object is a pointer, and all that its visit did was to fail to write its line. -/
def Abandoned (item : Fetched) (k : Contribution) (x : Identity) : Prop :=
  ∃ h ref, item = .ok h ∧ classify h = .ok (.pointer ref) ∧ ref.identity = x ∧
    k.calls = [.print h ref.notice false]

variable {c : Collaborators σ} {o : Options} {request : Request} {world : σ} {items : List Fetched}
  {i j : Nat} {item other : Fetched} {k l : Contribution} {x : Identity} {p : Progress σ}
  {report : Report} {trace : List Event}

theorem claim?_cases (claimed : item.claim? = some x) :
    ∃ h target, item = .ok h ∧ classify h = .ok target ∧ target.identity = x := by
  cases item with
  | error failure => contradiction
  | ok h =>
    cases classified : classify h with
    | error failure => simp [Fetched.claim?, classified] at claimed
    | ok target =>
      rw [claim?_of_classified classified, Option.some.injEq] at claimed
      exact ⟨h, target, rfl, classified, claimed⟩

theorem entered_of_new {h : Handle} (classified : classify h = .ok (.workload x))
    (new : p.seen.contains x = false) : Entered c o p (.ok h) x := by
  refine ⟨h, rfl, classified, ?_⟩
  simp only [visitDirect, classified, Seen.observe, new, Bool.false_eq_true, if_false]

/-- An attempt never ends in a duplicate, so an object whose identity has been seen is not rolled back. -/
theorem not_entered_of_seen (seen : p.seen.contains x = true) : ¬ Entered c o p item x := by
  rintro ⟨h, rfl, classified, visited⟩
  have attempt := rollBack_attempt c o h x { p with seen := (p.seen.observe x).2 }
  rw [← visited] at attempt
  simp only [visitDirect, classified, Seen.observe, seen, if_true] at attempt
  exact attempt.ne_duplicate x rfl

/-- A visit that was not given a duplicate and ends in one has found the identity claimed before. -/
theorem DirectShare.claimed_of_duplicate {claimed : List Identity}
    (share : DirectShare c o claimed item k) (given : item.failure? = none)
    (refused : k.failure? = some (.duplicateTarget x)) : x ∈ claimed := by
  cases share with
  | unread => contradiction
  | unclassified classified =>
    cases refused
    exact absurd rfl (classify_ne_duplicate classified x)
  | duplicate classified again =>
    cases refused
    exact again
  | lost | announced => cases refused
  | attempted classified new tried => cases tried <;> cases refused

/-- The first object to claim an identity is rolled back or queued, unless it is a pointer whose line
cannot be written. -/
theorem dealt_with (first : FirstClaim items i item x)
    (found : (firstContributions c o request world items)[i]? = some k)
    (discovered : report.discovered =
      (firstContributions c o request world items).flatMap Contribution.discovered)
    (requests : asked trace = request ::
      if report.discovered.isEmpty then [] else [request.followUp report.discovered]) :
    Entered c o (before c o request world items i) item x ∨ Queued request item report trace x ∨
      Abandoned item k x := by
  obtain ⟨h, target, rfl, classified, rfl⟩ := claim?_cases first.claimed
  cases target with
  | workload identity =>
    refine .inl (entered_of_new classified ?_)
    exact Bool.eq_false_iff.mpr fun seen => first.first (seen_before.mp seen)
  | pointer ref =>
    have share := directShare_of_getElem? first.there found
    have pointed : Fetched.target? (.ok h) = some ref :=
      Fetched.target?_eq_some_iff.mpr ⟨h, rfl, classified⟩
    -- of what a visit can contribute, only the two cases of a new pointer are left
    cases share with
    | unclassified none => simp [classified] at none
    | duplicate same again =>
      rw [classified] at same
      cases same
      exact absurd again first.first
    | attempted other new tried => simp [classified] at other
    | lost same new cause =>
      rw [classified] at same
      cases same
      exact .inr (.inr ⟨h, ref, rfl, classified, rfl, rfl⟩)
    | announced same new =>
      rw [classified] at same
      cases same
      have member : ref ∈ report.discovered := by
        rw [discovered]
        exact List.mem_flatMap.mpr ⟨_, List.mem_of_getElem? found, List.mem_singleton_self _⟩
      refine .inr (.inl ⟨ref, member, pointed, rfl, ?_, List.mem_map_of_mem member⟩)
      rw [requests, if_neg (by simpa using List.ne_nil_of_mem member)]
      simp

/-- If the line of the first pointer to a workload cannot be written, no object of the first phase gets
the workload rolled back or queued. -/
theorem Abandoned.unscheduled (abandoned : Abandoned item k x) (first : FirstClaim items i item x)
    (found : (firstContributions c o request world items)[i]? = some k)
    (discovered : report.discovered =
      (firstContributions c o request world items).flatMap Contribution.discovered)
    (there : items[j]? = some other) :
    ¬ Entered c o (before c o request world items j) other x ∧
      ¬ Queued request other report trace x := by
  obtain ⟨h, ref, rfl, classified, rfl, calls⟩ := abandoned
  constructor
  · intro entered
    have new : ref.identity ∉ (items.take j).filterMap Fetched.claim? :=
      fun member => not_entered_of_seen (seen_before.mpr member) entered
    obtain ⟨h', rfl, workload, -⟩ := entered
    -- such an object would be the first to claim the identity, and that is the pointer
    obtain rfl := first.unique ⟨there, claim?_of_classified workload, new⟩
    rw [first.there] at there
    cases there
    simp [classified] at workload
  · rintro ⟨found', member, -, same, -, -⟩
    rw [discovered] at member
    obtain ⟨l, inside, member⟩ := List.mem_flatMap.mp member
    obtain ⟨n, item, place, contributed, share⟩ := directShare_of_mem inside
    obtain ⟨pointed, new, printed, -, line⟩ := (share.mem_discovered_iff found').mp member
    obtain ⟨h', rfl, pointer⟩ := Fetched.target?_eq_some_iff.mp pointed
    have claimed : Fetched.claim? (.ok h') = some ref.identity := same ▸ claim?_of_classified pointer
    obtain rfl := first.unique ⟨place, claimed, same ▸ new⟩
    rw [found] at contributed
    cases contributed
    rw [calls] at line
    simp at line

theorem supplied_of_duplicate (answered : (c.resolve request world).1 = .ok items)
    (ended : (run c o request world).result = .ok report)
    (member : .duplicateTarget x ∈ report.indirectErrors) :
    .duplicateTarget x ∈ supplied (followUpAnswer c request (afterDirect c o request world items)) := by
  have counts : (afterBoth c o request (afterDirect c o request world items)).report.indirectErrors.count
      (.duplicateTarget x) = _ := duplicates_afterBoth _ x
  have clean : (afterDirect c o request world items).report.indirectErrors = [] :=
    (gathered_afterDirect c o request world items).other
  rw [run_of_answered answered] at ended
  obtain rfl := Except.ok.inj ended
  rw [clean, List.count_nil, Nat.zero_add] at counts
  exact List.count_pos_iff.mp (counts ▸ List.count_pos_iff.mpr member)

/-- A refused claim of an identity comes after the first one. That one was rolled back or queued, unless
it was a pointer whose line could not be written: then nothing in the first phase is rolled back or
queued under the identity. -/
theorem duplicates_follow_claims (c : Collaborators σ) (o : Options) (request : Request) (world : σ)
    (report : Report) (ended : (run c o request world).result = .ok report) :
    ∃ items, (c.resolve request world).1 = .ok items ∧
      let first := firstContributions c o request world items
      let entered := fun j earlier => Entered c o (before c o request world items j) earlier
      let queued := fun earlier => Queued request earlier report (run c o request world).trace
      report.directErrors = first.filterMap Contribution.failure? ∧
      (∀ x, .duplicateTarget x ∈ report.indirectErrors →
        .duplicateTarget x ∈
          supplied (followUpAnswer c request (afterDirect c o request world items))) ∧
      ∀ (i : Nat) (item : Fetched) (k : Contribution) (x : Identity), items[i]? = some item →
        first[i]? = some k → item.failure? = none → k.failure? = some (.duplicateTarget x) →
        ∃ j earlier l, j < i ∧ FirstClaim items j earlier x ∧ first[j]? = some l ∧
          ((entered j earlier x ∨ queued earlier x) ↔ ¬ Abandoned earlier l x) ∧
          (Abandoned earlier l x → ∀ (n : Nat) (other : Fetched), items[n]? = some other →
            ¬ entered n other x ∧ ¬ queued other x) := by
  obtain ⟨items, answered⟩ := answered_of_run ended
  refine ⟨items, answered, ?_⟩
  intro first entered queued
  obtain ⟨report', ended', -, whole⟩ := assembled_of_answered (o := o) answered
  obtain rfl : report' = report := Except.ok.inj (ended'.symm.trans ended)
  refine ⟨whole.directErrors, ?_, ?_⟩
  · intro x member
    exact supplied_of_duplicate answered ended member
  · intro i item k x there found given refused
    have requests := asked_of_assembled whole phased_of_first fun k member =>
      (phased_of_followUp k member).1
    have claimed : x ∈ (items.take i).filterMap Fetched.claim? :=
      (directShare_of_getElem? there found).claimed_of_duplicate given refused
    obtain ⟨j, earlier, precedes, claim⟩ := exists_firstClaim claimed
    have inside : j < first.length := by
      rw [show first.length = items.length from length_firstContributions c o request world items]
      exact (List.getElem?_eq_some_iff.mp claim.there).1
    have contributed : first[j]? = some first[j] := List.getElem?_eq_getElem inside
    have unscheduled (abandoned : Abandoned earlier first[j] x) (n : Nat) (other : Fetched)
        (there : items[n]? = some other) : ¬ entered n other x ∧ ¬ queued other x :=
      abandoned.unscheduled claim contributed whole.discovered there
    refine ⟨j, earlier, first[j], precedes, claim, contributed, ⟨?_, ?_⟩, unscheduled⟩
    · intro scheduled abandoned
      obtain ⟨out, unqueued⟩ := unscheduled abandoned j earlier claim.there
      exact scheduled.elim out unqueued
    · intro dealt
      rcases dealt_with claim contributed whole.discovered requests with rolled | waiting | lost
      · exact .inl rolled
      · exact .inr waiting
      · exact absurd lost dealt

end Engine

theorem duplicates_follow_claims_crowd :
    ∃ report, Crowd.ended.result = .ok report ∧
      Engine.Queued Crowd.request (.ok (Crowd.pointer "b" "api")) report Crowd.ended.trace
        (Crowd.deployment "api").identity := by
  obtain ⟨report, ended⟩ : ∃ report, Crowd.ended.result = .ok report := ⟨_, rfl⟩
  obtain ⟨items, answered, -, -, follows⟩ := Engine.duplicates_follow_claims _ _ _ _ report ended
  obtain rfl : Crowd.items = items := Except.ok.inj answered
  obtain ⟨j, earlier, l, -, claim, found, scheduled, -⟩ := follows 3 (.ok (Crowd.deployment "api"))
    (.failed (.duplicateTarget (Crowd.deployment "api").identity)) _ rfl rfl rfl rfl
  have pointer : FirstClaim Crowd.items 1 (.ok (Crowd.pointer "b" "api"))
      (Crowd.deployment "api").identity := ⟨rfl, rfl, by decide +kernel⟩
  obtain rfl := claim.unique pointer
  obtain rfl : .ok (Crowd.pointer "b" "api") = earlier :=
    Option.some.inj (pointer.there.symm.trans claim.there)
  have written : (Engine.firstContributions Crowd.collaborators default Crowd.request 0
      Crowd.items)[1]?.map Contribution.calls =
        some [.print (Crowd.pointer "b" "api") "references to Deployment.v1.apps/api" true] := rfl
  rw [found, Option.map_some, Option.some.injEq] at written
  refine ⟨report, ended, (scheduled.mpr ?_).resolve_left ?_⟩
  · rintro ⟨h, ref, -, -, -, lost⟩
    rw [written] at lost
    simp at lost
  · rintro ⟨h, same, workload, -⟩
    cases same
    cases workload

/-- The line of the first pointer is lost, so that its deployment is neither rolled back nor queued, and
yet the deployment itself is refused as a duplicate. -/
theorem duplicate_unscheduled :
    ∃ report, Crowd.ended.result = .ok report ∧
      .duplicateTarget (Crowd.deployment "web").identity ∈ report.directErrors ∧
      .duplicateTarget (Crowd.deployment "web").identity ∉ Engine.supplied (.ok Crowd.items) ∧
      ∀ (n : Nat) (item : Fetched), Crowd.items[n]? = some item →
        ¬ Engine.Entered Crowd.collaborators default
            (Engine.before Crowd.collaborators default Crowd.request 0 Crowd.items n) item
            (Crowd.deployment "web").identity ∧
        ¬ Engine.Queued Crowd.request item report Crowd.ended.trace
            (Crowd.deployment "web").identity := by
  obtain ⟨report, ended, -, whole⟩ := Engine.assembled_of_answered
    (rfl : (Crowd.collaborators.resolve Crowd.request 0).1 = .ok Crowd.items) (o := default)
  refine ⟨report, ended, ?_, by decide +kernel, fun n item there => ?_⟩
  · rw [whole.directErrors]
    decide +kernel
  · have first : FirstClaim Crowd.items 0 (.ok (Crowd.pointer "a" "web"))
        (Crowd.deployment "web").identity := ⟨rfl, rfl, by decide⟩
    have abandoned : Engine.Abandoned (.ok (Crowd.pointer "a" "web"))
        ⟨.error (.print "rollout.rollouts.kruise.io/a" (.plain "broken pipe")),
          [.print (Crowd.pointer "a" "web") "references to Deployment.v1.apps/web" false], [], []⟩
        (Crowd.deployment "web").identity := ⟨_, _, rfl, rfl, rfl, rfl⟩
    exact abandoned.unscheduled first rfl whole.discovered there

end Rollback
