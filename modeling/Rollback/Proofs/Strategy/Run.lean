import Rollback.Proofs.Engine.Deduplication
import Rollback.Proofs.Server.Answers
import Rollback.Proofs.Strategy.Journal

/-! A run on a server, from the moment that its request is planned. Both phases read the objects of their
requests and hand them to strategies, so what a run sends is told by its targets, by the objects that
are read for them, and by the workloads that pointers among those name. -/
namespace Rollback

open Engine

variable {σ : Type} {server : Server σ} {console : Console σ} {format : OutputFormat} {o : Options}
  {kind : HttpRequest → Prop} {s u w : Session σ} {c : Catalog} {request : Request}
  {given : List Handle} {refs : List Reference} {planned : List (Except Failure PlannedTarget)}

/-- All requests that a rollback of the object sends are of the kind. -/
def Rolls (server : Server σ) (o : Options) (kind : HttpRequest → Prop) (h : Handle) : Prop :=
  ∀ p : Procedure, (h.gvk.group, h.gvk.kind) ∈ p.kinds →
    Sends kind (p.strategy server h o.revision o.dryRun)

theorem rolls_any (server : Server σ) (o : Options) (h : Handle) : Rolls server o (fun _ => True) h :=
  fun p _ => p.sends_strategy server (fun _ _ _ _ _ => trivial) (fun _ _ _ _ _ _ _ => trivial) _ _

/-- Once it is known what the server serves, a dry run asks it nothing. -/
theorem verify_of_known (known : w.catalog? = some c) (gvk : Gvk) : (server.verify gvk w).2 = w := by
  unfold Server.verify
  rw [bind_apply, server.catalog_of_known known]
  rfl

theorem closed_extends (known : u.catalog? = some c) (rolls : ∀ h ∈ given, Rolls server o kind h) :
    Closed (server.collaborators console.write format o.dryRun) o given
      fun _ w => u.Extends kind w where
  verify {_ w w' gvk _} before _ answered := by
    have same : (server.verify gvk w).2 = w' := congrArg Prod.snd answered
    rw [← same, verify_of_known (before.known c known)]
    exact before
  rollback {_ w w' h _ _} before member found _ answered := by
    obtain ⟨p, registered, rfl⟩ := server.procedure_of_find? found
    have sent := rolls h member p registered w
    rw [answered] at sent
    exact before.trans sent
  print {_ w w' h description _} before answered := by
    have quiet := (console.quiet (format.record o.dryRun h description)).weaken
      (fun r => False.elim (C := kind r)) w
    replace answered : console.write (format.record o.dryRun h description) w = _ := answered
    rw [answered] at quiet
    exact before.trans quiet

/-- A whole run sends requests of one kind, once its request has been planned, if its targets do, the
rollbacks of what is read for them, and the same for the workloads that pointers name. -/
theorem extends_undo (plans : server.Plans request s c refs planned u)
    (targets : Sends kind (planned.mapM (server.fetchPlanned)))
    (first : ∀ h ∈ handles (planned.mapM server.fetchPlanned u).1.flatten, Rolls server o kind h)
    (again : ∀ found : List WorkloadRef, (∀ ref ∈ found,
        ∃ h ∈ handles (planned.mapM server.fetchPlanned u).1.flatten,
          classify h = .ok (.pointer ref)) →
      ∀ w, w.catalog? = some c → w.Extends kind (server.resolve (request.followUp found) w).2 ∧
        ∀ items, (server.resolve (request.followUp found) w).1 = .ok items →
          ∀ h ∈ handles items, Rolls server o kind h) :
    u.Extends kind (server.undo console.write format o request s).world := by
  have answered : ((server.collaborators console.write format o.dryRun).resolve request s).1 =
      .ok (planned.mapM server.fetchPlanned u).1.flatten := congrArg Prod.fst plans.resolve_eq
  unfold Server.undo
  rw [run_of_answered answered]
  have start : u.Extends kind (server.resolve request s).2 := by
    rw [plans.resolve_eq]
    exact targets u
  have direct : u.Extends kind (afterDirect (server.collaborators console.write format o.dryRun) o
      request s (planned.mapM server.fetchPlanned u).1.flatten).world :=
    (closed_extends plans.known first).afterDirect start
  have later := again (afterDirect (server.collaborators console.write format o.dryRun) o request s
    _).report.discovered (fun ref found => pointer_of_discovered found) _ (direct.known c plans.known)
  unfold afterBoth
  split
  · exact direct
  · refine Closed.secondPhase (fun _ w => u.Extends kind w) (direct.trans later.1) ?_
    exact fun items answer => closed_extends plans.known (later.2 items answer)

/-- What is known of the server when the request is planned is known at the end. -/
theorem known_of_plans (plans : server.Plans request s c refs planned u) :
    (server.undo console.write format o request s).world.catalog? = some c := by
  have extended : u.Extends (fun _ => True) (server.undo console.write format o request s).world := by
    refine extends_undo plans ?_ (fun h _ => rolls_any server o h) fun found _ w _ => ⟨?_, ?_⟩
    · exact (Sends.mapM server.onlyReads_fetchPlanned planned).weaken fun _ _ => trivial
    · exact ((server.onlyReads_resolve _).weaken fun _ _ => trivial) w
    · exact fun _ _ h _ => rolls_any server o h
  exact extended.known c plans.known

end Rollback
