import Rollback.Proofs.Engine.Scheduling

/-! The failure of one object does not reach the others. With collaborators whose answers depend on
nothing but what they are asked, what a visit adds depends on the object and on whether its identity
was claimed before; so two runs can be compared object by object. -/
namespace Rollback

/-- No other object claims the identity that the object at the place claims, if that claims any. -/
structure SoleClaim (items : List Fetched) (i : Nat) (item : Fetched) : Prop where
  there : items[i]? = some item
  alone : ∀ x, item.claim? = some x →
    ∀ j other, j ≠ i → items[j]? = some other → other.claim? ≠ some x

namespace Engine

variable {σ : Type} {c : Collaborators σ} {o : Options} {p q p' q' : Progress σ} {item : Fetched}
  {after after' : Except Failure Unit × Progress σ}

/-- The verifier, the strategies and the printer answer by what they are asked, whatever the world is.
The source is left out: two runs may get different objects for one request. -/
structure Stateless (c : Collaborators σ) : Prop where
  verify : ∀ gvk w w', (c.verify gvk w).1 = (c.verify gvk w').1
  rollback : ∀ group kind strategy, c.strategies.find? group kind = some strategy →
    ∀ h revision mode w w', (strategy h revision mode w).1 = (strategy h revision mode w').1
  print : ∀ h description w w', (c.print h description w).1 = (c.print h description w').1

/-- Each workload that was found has an answer of its own, in order. -/
def OneByOne (c : Collaborators σ) (request : Request) (answer : WorkloadRef → Fetched)
    (p : Progress σ) : Prop :=
  followUpAnswer c request p = .ok (p.report.discovered.map answer)

/-- Two visits, each in a run of its own, that add the same. -/
def AddSame (p : Progress σ) (after : Except Failure Unit × Progress σ) (q : Progress σ)
    (after' : Except Failure Unit × Progress σ) : Prop :=
  ∃ k, Adds p k after ∧ Adds q k after'

theorem AddSame.result_eq (alike : AddSame p after q after') : after.1 = after'.1 := by
  obtain ⟨k, adds, adds'⟩ := alike
  rw [adds.result, adds'.result]

theorem AddSame.contribution_eq (alike : AddSame p after q after') :
    contribution p after = contribution q after' := by
  obtain ⟨k, adds, adds'⟩ := alike
  rw [adds.contribution_eq, adds'.contribution_eq]

theorem AddSame.of_seen {seen seen' : Seen}
    (alike : AddSame { p with seen := seen } after { q with seen := seen' } after') :
    AddSame p after q after' := by
  obtain ⟨k, adds, adds'⟩ := alike
  exact ⟨k, adds.of_seen, adds'.of_seen⟩

theorem AddSame.stopped (failure : Failure) : AddSame p (.error failure, p) q (.error failure, q) :=
  ⟨_, .stopped failure, .stopped failure⟩

theorem AddSame.recorded (result : Except Failure Unit) (event : Event) (world world' : σ) :
    AddSame p (result, p.recorded event world) q (result, q.recorded event world') :=
  ⟨_, .recorded _ _ _, .recorded _ _ _⟩

theorem AddSame.found (ref : WorkloadRef) (deed : Deed) :
    AddSame p (.ok (), (p.withDiscovered ref).withOutcome ref.identity deed)
      q (.ok (), (q.withDiscovered ref).withOutcome ref.identity deed) := by
  refine ⟨⟨.ok (), [], [⟨ref.identity, deed⟩], [ref]⟩, ?_, ?_⟩ <;>
  constructor <;> simp

theorem AddSame.trans {result result' : Except Failure Unit}
    (first : AddSame p (result, p') q (result', q')) (second : AddSame p' after q' after') :
    AddSame p after q after' := by
  obtain ⟨k, adds, adds'⟩ := first
  obtain ⟨l, more, more'⟩ := second
  exact ⟨k.andThen l, adds.trans more, adds'.trans more'⟩

theorem addSame_print (stateless : Stateless c) (h : Handle) (description : String)
    (p q : Progress σ) : AddSame p (print c h description p) q (print c h description q) := by
  have same := stateless.print h description p.world q.world
  unfold print
  rcases ends : c.print h description p.world with ⟨result, world⟩
  rcases ends' : c.print h description q.world with ⟨result', world'⟩
  rw [ends, ends'] at same
  obtain rfl : result = result' := same
  cases result with
  | ok _ => exact .recorded _ _ _ _
  | error cause => exact .recorded _ _ _ _

theorem addSame_verify (stateless : Stateless c) (h : Handle) (p q : Progress σ) :
    AddSame p (verify c o h p) q (verify c o h q) := by
  have same := stateless.verify h.gvk p.world q.world
  unfold verify
  split
  · rcases ends : c.verify h.gvk p.world with ⟨result, world⟩
    rcases ends' : c.verify h.gvk q.world with ⟨result', world'⟩
    rw [ends, ends'] at same
    obtain rfl : result = result' := same
    cases result with
    | ok _ => exact .recorded _ _ _ _
    | error cause => exact .recorded _ _ _ _
  · refine ⟨⟨.ok (), [], [], []⟩, ?_, ?_⟩ <;> constructor <;> simp

theorem addSame_rollBack (stateless : Stateless c) (h : Handle) (identity : Identity)
    (p q : Progress σ) : AddSame p (rollBack c o h identity p) q (rollBack c o h identity q) := by
  unfold rollBack Registry.strategyFor
  cases found : c.strategies.find? h.gvk.group h.gvk.kind with
  | none => exact .stopped _
  | some strategy =>
    have checked := addSame_verify (o := o) stateless h p q
    rcases ends : verify c o h p with ⟨result, p₁⟩
    rcases ends' : verify c o h q with ⟨result', q₁⟩
    rw [ends, ends'] at checked
    obtain rfl : result = result' := checked.result_eq
    cases result with
    | error failure => exact checked
    | ok _ =>
      refine checked.trans ?_
      have same := stateless.rollback _ _ strategy found h o.revision o.dryRun p₁.world q₁.world
      rcases ends : strategy h o.revision o.dryRun p₁.world with ⟨result, world⟩
      rcases ends' : strategy h o.revision o.dryRun q₁.world with ⟨result', world'⟩
      rw [ends, ends'] at same
      obtain rfl : result = result' := same
      simp only [ends, ends']
      cases result with
      | error cause => exact .recorded _ _ _ _
      | ok description =>
        have deed : AddSame p₁ (.ok (), (p₁.recorded (.rollback h (.ok description)) world).withOutcome
            identity (.rolledBack description)) q₁ (.ok (), (q₁.recorded
            (.rollback h (.ok description)) world').withOutcome identity (.rolledBack description)) :=
          ⟨_, .outcome _ _ _ _, .outcome _ _ _ _⟩
        exact deed.trans (addSame_print stateless h description _ _)

theorem addSame_announce (stateless : Stateless c) (h : Handle) (ref : WorkloadRef)
    (p q : Progress σ) :
    let announce := fun p : Progress σ =>
      match print c h ("references to " ++ ref.qualifiedName) p with
      | (.error failure, p) => (.error failure, p)
      | (.ok (), p) =>
        (.ok (), (p.withDiscovered ref).withOutcome ref.identity (.referenced ref.qualifiedName))
    AddSame p (announce p) q (announce q) := by
  intro announce
  have printed := addSame_print stateless h ("references to " ++ ref.qualifiedName) p q
  simp only [announce]
  rcases ends : print c h ("references to " ++ ref.qualifiedName) p with ⟨result, p₁⟩
  rcases ends' : print c h ("references to " ++ ref.qualifiedName) q with ⟨result', q₁⟩
  rw [ends, ends'] at printed
  obtain rfl : result = result' := printed.result_eq
  cases result with
  | error failure => exact printed
  | ok _ => exact printed.trans (.found ref _)

/-- What a visit of the first phase adds depends on the earlier objects only through the question
whether one of them claimed the same identity. -/
theorem addSame_visitDirect (stateless : Stateless c)
    (same : ∀ x, item.claim? = some x → p.seen.contains x = q.seen.contains x) :
    AddSame p (visitDirect c o item p) q (visitDirect c o item q) := by
  cases item with
  | error failure => exact .stopped _
  | ok h =>
    simp only [visitDirect]
    cases classified : classify h with
    | error failure => exact .stopped _
    | ok target =>
      have same := same target.identity (claim?_of_classified classified)
      cases target with
      | workload identity =>
        simp only [Target.identity] at same
        simp only [Seen.observe, ← same]
        cases p.seen.contains identity with
        | true => exact .stopped _
        | false => exact (addSame_rollBack stateless h identity _ _).of_seen
      | pointer ref =>
        simp only [Target.identity] at same
        simp only [Seen.observe, ← same]
        cases p.seen.contains ref.identity with
        | true => exact .stopped _
        | false => exact (addSame_announce stateless h ref _ _).of_seen

theorem addSame_visitIndirect (stateless : Stateless c) (item : Fetched)
    (p q : Progress σ) : AddSame p (visitIndirect c o item p) q (visitIndirect c o item q) := by
  cases item with
  | error failure => exact .stopped _
  | ok h => exact addSame_rollBack stateless h h.identity p q

variable {request : Request} {answer : WorkloadRef → Fetched} {world world' : σ} {items : List Fetched}
  {i j : Nat} {failure : Failure} {x : Identity}

theorem contributions_eq_map {share : Progress σ → Fetched → Contribution}
    {step : Progress σ → Fetched → Progress σ} {own : Fetched → Contribution}
    (each : ∀ p item, share p item = own item) (p : Progress σ) (items : List Fetched) :
    contributions share step p items = items.map own := by
  induction items generalizing p with
  | nil => rfl
  | cons item rest ih => rw [contributions, each, ih, List.map_cons]

theorem followUpContributions_eq (stateless : Stateless c) (later : OneByOne c request answer p)
    (start : Progress σ) :
    followUpContributions c o request p = p.report.discovered.map fun ref =>
      contribution start (visitIndirect c o (answer ref) start) := by
  have each (p : Progress σ) (item : Fetched) : contribution p (visitIndirect c o item p) =
      contribution start (visitIndirect c o item start) :=
    (addSame_visitIndirect stateless item p start).contribution_eq
  unfold followUpContributions indirectContributions
  rw [show followUpAnswer c request p = _ from later, contributions_eq_map each]
  exact List.map_map

theorem claims_set (unclaimed : ∀ item, items[i]? = some item → item.claim? ≠ some x) :
    x ∈ ((items.set i (.error failure)).take j).filterMap Fetched.claim? ↔
      x ∈ (items.take j).filterMap Fetched.claim? := by
  constructor
  · intro member
    obtain ⟨m, other, before, first⟩ := exists_firstClaim member
    have there := first.there
    by_cases same : i = m
    · -- the failure itself claims nothing
      subst same
      have inside := (List.getElem?_eq_some_iff.mp there).1
      rw [List.length_set] at inside
      rw [List.getElem?_set_self inside] at there
      cases there
      exact absurd first.claimed nofun
    · rw [List.getElem?_set_ne same] at there
      exact mem_claims_of_lt there first.claimed before
  · intro member
    obtain ⟨m, other, before, first⟩ := exists_firstClaim member
    have apart : i ≠ m := by
      rintro rfl
      exact unclaimed other first.there first.claimed
    refine mem_claims_of_lt ?_ first.claimed before
    rw [List.getElem?_set_ne apart]
    exact first.there

theorem firstContributions_set (stateless : Stateless c) (sole : SoleClaim items i item) :
    firstContributions c o request world' (items.set i (.error failure)) =
      (firstContributions c o request world items).set i (.failed failure) := by
  have inside : i < items.length := (List.getElem?_eq_some_iff.mp sole.there).1
  apply List.ext_getElem?
  intro j
  by_cases same : i = j
  · subst same
    rw [List.getElem?_set_self (by rw [length_firstContributions]; exact inside)]
    rw [getElem?_firstContributions, List.getElem?_set_self inside, Option.map_some]
    exact congrArg some (Adds.stopped failure).contribution_eq
  · -- elsewhere the same object is visited, and the sets of identities agree on the one it claims
    rw [List.getElem?_set_ne same]
    rw [getElem?_firstContributions, getElem?_firstContributions, List.getElem?_set_ne same]
    cases place : items[j]? with
    | none => rfl
    | some other =>
      simp only [Option.map_some]
      refine congrArg some (addSame_visitDirect stateless fun x claimed => ?_).contribution_eq
      rw [Bool.eq_iff_iff]
      rw [seen_before, seen_before]
      apply claims_set
      intro item' there claimed'
      rw [sole.there] at there
      cases there
      exact sole.alone x claimed' j other (Ne.symm same) place claimed

/-- When one object of the first phase is replaced by a failure, no other object contributes anything
else in either phase, unless one of them claims the identity that the object claims. -/
theorem run_isolates (stateless : Stateless c) (answered : (c.resolve request world).1 = .ok items)
    (sole : SoleClaim items i item)
    (replaced : (c.resolve request world').1 = .ok (items.set i (.error failure)))
    (later : OneByOne c request answer (afterDirect c o request world items))
    (later' : OneByOne c request answer
      (afterDirect c o request world' (items.set i (.error failure)))) :
    ∃ (share : WorkloadRef → Contribution) (report report' : Report),
      let first := firstContributions c o request world items
      let second := fun ks : List Contribution => ks.flatMap fun k => k.discovered.map share
      first.length = items.length ∧
      firstContributions c o request world' (items.set i (.error failure)) =
        first.set i (.failed failure) ∧
      (run c o request world).result = .ok report ∧
      Assembled request first (second first) (.ok (report.discovered.map answer)) report
        (run c o request world).trace ∧
      (run c o request world').result = .ok report' ∧
      Assembled request (first.set i (.failed failure)) (second (first.set i (.failed failure)))
        (.ok (report'.discovered.map answer)) report' (run c o request world').trace := by
  obtain ⟨report, ended, found, whole⟩ := assembled_of_answered (o := o) answered
  obtain ⟨report', ended', found', whole'⟩ := assembled_of_answered (o := o) replaced
  have same : firstContributions c o request world' (items.set i (.error failure)) =
      (firstContributions c o request world items).set i (.failed failure) :=
    firstContributions_set stateless sole
  -- the second phase follows the first, visit by visit
  have second := followUpContributions_eq (o := o) stateless later (.start world)
  have second' := followUpContributions_eq (o := o) stateless later' (.start world)
  rw [← found, whole.discovered, List.map_flatMap] at second
  rw [← found', whole'.discovered, List.map_flatMap, same] at second'
  rw [second, show followUpAnswer c request _ = _ from later, ← found] at whole
  rw [second', show followUpAnswer c request _ = _ from later', ← found', same] at whole'
  exact ⟨_, report, report', length_firstContributions c o request world items, same, ended, whole,
    ended', whole'⟩

end Engine

/-! A source whose objects are the state of the world: two pointers and a deployment that is named
twice. A workload that is asked for comes back as it was named. -/
namespace Crowd

def fetched (ref : WorkloadRef) : Fetched := .ok ⟨ref.gvk, ref.ns?, ref.name, .object []⟩

def still : Collaborators (List Fetched) where
  resolve request := fun objects =>
    (.ok (if request.filenames.isEmpty then
      request.args.filterMap fun
        | .workload ref => some (fetched ref)
        | .typed _ _ => none
      else objects), objects)
  verify _ := pure (.ok ())
  strategies := Registry.empty.register "apps" "Deployment" fun h _ _ =>
    pure (if h.name = "api" then .error (.plain "conflict") else .ok "rolled back")
  print h _ := pure (if h.name = "db" then .error (.plain "broken pipe") else .ok ())

def bystanders : List Fetched :=
  [.ok (pointer "a" "web"), .ok (pointer "b" "api"), .ok (deployment "db"), .ok (deployment "db")]

def unread : Failure := .fetch "rollout/a" (.plain "not found")

theorem stateless_still : Engine.Stateless still := by
  constructor
  · intro gvk w w'
    rfl
  · intro group kind strategy found h revision mode w w'
    simp only [still, Registry.find?_register] at found
    split at found <;> cases found
    rfl
  · intro h description w w'
    rfl

end Crowd

theorem run_isolates_bystanders :
    ∃ report report',
      (Engine.run Crowd.still default Crowd.request Crowd.bystanders).result = .ok report ∧
      (Engine.run Crowd.still default Crowd.request
        (Crowd.bystanders.set 0 (.error Crowd.unread))).result = .ok report' ∧
      report.discovered.map WorkloadRef.name = ["web", "api"] ∧
      report'.discovered.map WorkloadRef.name = ["api"] ∧
      report'.directErrors = Crowd.unread :: report.directErrors := by
  have answered : (Crowd.still.resolve Crowd.request Crowd.bystanders).1 = .ok Crowd.bystanders := rfl
  have sole : SoleClaim Crowd.bystanders 0 (.ok (Crowd.pointer "a" "web")) := by
    constructor
    · rfl
    · rintro x claimed (_ | j) other elsewhere place
      · contradiction
      · obtain rfl : (Crowd.deployment "web").identity = x := Option.some.inj claimed
        have others : ∀ other ∈ Crowd.bystanders.tail,
            other.claim? ≠ some (Crowd.deployment "web").identity := by decide +kernel
        exact others other (List.mem_of_getElem? (i := j) place)
  have replaced : (Crowd.still.resolve Crowd.request (Crowd.bystanders.set 0 (.error Crowd.unread))).1 =
      .ok (Crowd.bystanders.set 0 (.error Crowd.unread)) := rfl
  have later : Engine.OneByOne Crowd.still Crowd.request Crowd.fetched
      (Engine.afterDirect Crowd.still default Crowd.request Crowd.bystanders Crowd.bystanders) := rfl
  obtain ⟨share, report, report', -, -, ended, whole, ended', whole'⟩ :=
    Engine.run_isolates Crowd.stateless_still answered sole replaced later rfl
  refine ⟨report, report', ended, ended', ?_, ?_, ?_⟩
  · rw [whole.discovered]
    decide +kernel
  · rw [whole'.discovered]
    decide +kernel
  · rw [whole'.directErrors, whole.directErrors]
    decide +kernel

end Rollback
