import Mathlib.Data.List.Induction
import Rollback.Proofs.Engine.Phases

/-! The order of the calls in a run. A call is made only after the call that entitles to it: in a server
dry run a strategy is called right after the server has said that it can try changes of exactly that
type, and a line is written right after the rollback that it reports, or for a pointer. -/
namespace Rollback

section Records

variable {α β : Type} {rule : List α → α → Prop} {xs ys : List α} {x : α}

/-- Each entry stands where the rule lets it stand, given the entries before it. -/
def Follows (rule : List α → α → Prop) (record : List α) : Prop :=
  ∀ before x after, record = before ++ x :: after → rule before x

theorem follows_nil : Follows rule [] := by
  intro before x after split
  simp at split

theorem Follows.snoc (earlier : Follows rule xs) (last : rule xs x) : Follows rule (xs ++ [x]) := by
  intro before y after split
  rcases List.eq_nil_or_concat after with rfl | ⟨rest, z, rfl⟩
  · obtain ⟨rfl, same⟩ := List.append_inj' split rfl
    obtain rfl : x = y := by simpa using same
    exact last
  · have shifted : xs ++ [x] = (before ++ y :: rest) ++ [z] := by simpa using split
    exact earlier before y rest (List.append_inj' shifted rfl).1

/-- Entries that may stand anywhere can be added. -/
theorem Follows.append_of_forall (first : Follows rule xs) (free : ∀ y ∈ ys, ∀ before, rule before y) :
    Follows rule (xs ++ ys) := by
  induction ys using List.reverseRecOn with
  | nil =>
    rw [List.append_nil]
    exact first
  | append_singleton rest y ih =>
    rw [← List.append_assoc]
    have before := ih fun z member => free z (List.mem_append_left _ member)
    exact before.snoc (free y (List.mem_append_right _ (List.mem_singleton_self y)) (xs ++ rest))

/-- Records that follow a rule can be joined if the rule asks for nothing about the start of a
record. -/
theorem Follows.append (shift : ∀ earlier before x, rule before x → rule (earlier ++ before) x)
    (first : Follows rule xs) (second : Follows rule ys) : Follows rule (xs ++ ys) := by
  induction ys using List.reverseRecOn with
  | nil =>
    rw [List.append_nil]
    exact first
  | append_singleton rest y ih =>
    rw [← List.append_assoc]
    have before : Follows rule rest := by
      intro before z after split
      exact second before z (after ++ [y]) (by rw [split, List.append_assoc, List.cons_append])
    exact (ih before).snoc (shift xs rest y (second rest y [] rfl))

theorem Follows.flatMap (shift : ∀ earlier before x, rule before x → rule (earlier ++ before) x)
    {f : β → List α} {parts : List β} (each : ∀ part ∈ parts, Follows rule (f part)) :
    Follows rule (parts.flatMap f) := by
  induction parts with
  | nil => exact follows_nil
  | cons part rest ih =>
    rw [List.flatMap_cons]
    have here := each part List.mem_cons_self
    exact here.append shift (ih fun other member => each other (List.mem_cons_of_mem _ member))

end Records

namespace Engine

variable {σ : Type} {c : Collaborators σ} {o : Options} {h : Handle} {identity : Identity}
  {item : Fetched} {k : Contribution} {claimed : List Identity}

/-- What entitles a run to a call, given the calls before it. -/
def Entitled (o : Options) (before : List Event) : Event → Prop
  | .resolve _ => True
  | .verify _ _ => o.dryRun = .server
  | .rollback h _ => o.dryRun = .server → before.getLast? = some (.verify h.gvk true)
  | .print h description _ => before.getLast? = some (.rollback h (.ok description)) ∨
      ∃ ref, classify h = .ok (.pointer ref) ∧ description = ref.notice

theorem Entitled.later {earlier before : List Event} {event : Event}
    (entitled : Entitled o before event) : Entitled o (earlier ++ before) event := by
  have last {e : Event} (ends : before.getLast? = some e) : (earlier ++ before).getLast? = some e := by
    rw [List.getLast?_append, ends, Option.some_or]
  cases event with
  | resolve | verify => exact entitled
  | rollback h result => exact fun server => last (entitled server)
  | print h description written => exact entitled.imp last id

theorem gate_entitled (o : Options) (h : Handle) (result : Except Cause String) :
    Follows (Entitled o) (gate o h ++ [.rollback h result]) := by
  unfold gate
  by_cases mode : o.dryRun = .server
  · rw [if_pos mode]
    have asked : Follows (Entitled o) [.verify h.gvk true] := follows_nil.snoc mode
    exact asked.snoc fun _ => rfl
  · rw [if_neg mode]
    exact follows_nil.snoc fun server => absurd server mode

theorem Tried.entitled (tried : Tried c o h identity k) : Follows (Entitled o) k.calls := by
  have line (description : String) (written : Bool) : Follows (Entitled o)
      (gate o h ++ [.rollback h (.ok description), .print h description written]) := by
    have last : Entitled o (gate o h ++ [.rollback h (.ok description)])
        (.print h description written) := .inl List.getLast?_concat
    have called := (gate_entitled o h (.ok description)).snoc last
    rwa [List.append_assoc] at called
  cases tried with
  | unregistered none => exact follows_nil
  | unsupported registered mode cause => exact follows_nil.snoc mode
  | failed registered cause => exact gate_entitled o h _
  | written registered description => exact line description true
  | lost registered description cause => exact line description false

theorem DirectShare.entitled (share : DirectShare c o claimed item k) :
    Follows (Entitled o) k.calls := by
  cases share with
  | unread | unclassified | duplicate => exact follows_nil
  | lost classified new cause => exact follows_nil.snoc (.inr ⟨_, classified, rfl⟩)
  | announced classified new => exact follows_nil.snoc (.inr ⟨_, classified, rfl⟩)
  | attempted classified new tried => exact tried.entitled

theorem IndirectShare.entitled (share : IndirectShare c o item k) : Follows (Entitled o) k.calls := by
  cases share with
  | unread => exact follows_nil
  | attempted tried => exact tried.entitled

/-- The server is asked in a visit only about the type of the object that is visited, and only if there
is a strategy for it and the object is neither taken for a pointer nor refused as a duplicate. If it
says no, that is all that comes of the visit. -/
structure Gated (c : Collaborators σ) (item : Fetched) (k : Contribution) : Prop where
  own : ∀ gvk supported, .verify gvk supported ∈ k.calls →
    ∃ h, item = .ok h ∧ h.gvk = gvk ∧ (c.strategies.find? gvk.group gvk.kind).isSome
  workload : ∀ gvk supported, .verify gvk supported ∈ k.calls →
    k.discovered = [] ∧ ∀ identity, k.result ≠ .error (.duplicateTarget identity)
  refused : ∀ gvk, .verify gvk false ∈ k.calls →
    ∃ cause, k = ⟨.error (.dryRunUnsupported gvk cause), [.verify gvk false], [], []⟩

theorem Gated.of_silent (silent : ∀ gvk supported, .verify gvk supported ∉ k.calls) :
    Gated c item k where
  own gvk supported asked := absurd asked (silent gvk supported)
  workload gvk supported asked := absurd asked (silent gvk supported)
  refused gvk asked := absurd asked (silent gvk false)

theorem mem_gate {event : Event} (member : event ∈ gate o h) : event = .verify h.gvk true := by
  unfold gate at member
  split at member
  · exact List.mem_singleton.mp member
  · contradiction

theorem Tried.gated (tried : Tried c o h identity k) : Gated c (.ok h) k := by
  -- once a strategy is called, the only question was the one that was answered with yes
  have called {rest : List Event} {result : Except Failure Unit} {outcomes : List Outcome}
      (registered : (c.strategies.find? h.gvk.group h.gvk.kind).isSome)
      (silent : ∀ gvk supported, .verify gvk supported ∉ rest)
      (other : ∀ identity, result ≠ .error (.duplicateTarget identity)) :
      Gated c (.ok h) ⟨result, gate o h ++ rest, outcomes, []⟩ := by
    have question {gvk : Gvk} {supported : Bool}
        (asked : .verify gvk supported ∈ gate o h ++ rest) : gvk = h.gvk ∧ supported = true := by
      rcases List.mem_append.mp asked with inside | outside
      · simpa using mem_gate inside
      · exact absurd outside (silent gvk supported)
    constructor
    · intro gvk supported asked
      obtain ⟨rfl, -⟩ := question asked
      exact ⟨h, rfl, rfl, registered⟩
    · intro gvk supported asked
      exact ⟨rfl, other⟩
    · intro gvk asked
      obtain ⟨-, yes⟩ := question asked
      contradiction
  cases tried with
  | unregistered none =>
    apply Gated.of_silent
    simp
  | unsupported registered mode cause =>
    have question {gvk : Gvk} {supported : Bool}
        (asked : .verify gvk supported ∈ [Event.verify h.gvk false]) : gvk = h.gvk := by
      have same := List.mem_singleton.mp asked
      cases same
      rfl
    constructor
    · intro gvk supported asked
      obtain rfl := question asked
      exact ⟨h, rfl, rfl, registered⟩
    · intro gvk supported asked
      exact ⟨rfl, by simp⟩
    · intro gvk asked
      obtain rfl := question asked
      exact ⟨cause, rfl⟩
  | failed registered cause =>
    apply called registered <;> simp
  | written registered description | lost registered description cause =>
    apply called registered <;> simp

theorem DirectShare.gated (share : DirectShare c o claimed item k) : Gated c item k := by
  cases share with
  | attempted classified new tried => exact tried.gated
  | _ =>
    apply Gated.of_silent
    simp

theorem IndirectShare.gated (share : IndirectShare c o item k) : Gated c item k := by
  cases share with
  | unread =>
    apply Gated.of_silent
    simp
  | attempted tried => exact tried.gated

/-- In the first phase the server is asked only about a workload that nothing before has claimed. -/
theorem DirectShare.asked (share : DirectShare c o claimed item k) {gvk : Gvk} {supported : Bool}
    (asked : .verify gvk supported ∈ k.calls) :
    ∃ h, item = .ok h ∧ classify h = .ok (.workload h.identity) ∧ h.identity ∉ claimed := by
  cases share with
  | attempted classified new tried => exact ⟨_, rfl, classified, new⟩
  | _ => simp at asked

section Runs

variable {request : Request} {world : σ} {items : List Fetched} {p : Progress σ}
  {first second : List Contribution} {answer : Except Failure (List Fetched)} {report : Report}
  {trace : List Event}

theorem Assembled.entitled (whole : Assembled request first second answer report trace)
    (each : ∀ k ∈ first ++ second, Follows (Entitled o) k.calls) : Follows (Entitled o) trace := by
  have shift (earlier before : List Event) (event : Event) (entitled : Entitled o before event) :
      Entitled o (earlier ++ before) event := entitled.later
  have phase {ks : List Contribution} (request : Request)
      (each : ∀ k ∈ ks, Follows (Entitled o) k.calls) :
      Follows (Entitled o) (.resolve request :: ks.flatMap Contribution.calls) := by
    have asked : Follows (Entitled o) [.resolve request] := follows_nil.snoc trivial
    exact asked.append shift (.flatMap shift each)
  obtain ⟨early, late⟩ := List.forall_mem_append.mp each
  rw [whole.calls]
  refine (phase request early).append shift ?_
  split
  · exact follows_nil
  · exact phase _ late

theorem Assembled.verified (whole : Assembled request first second answer report trace)
    {gvk : Gvk} {supported : Bool} (asked : .verify gvk supported ∈ trace) :
    ∃ k ∈ first ++ second, .verify gvk supported ∈ k.calls := by
  have phase {ks : List Contribution} {request : Request}
      (asked : .verify gvk supported ∈ .resolve request :: ks.flatMap Contribution.calls) :
      ∃ k ∈ ks, .verify gvk supported ∈ k.calls := by
    rcases List.mem_cons.mp asked with same | inside
    · contradiction
    · exact List.mem_flatMap.mp inside
  rw [whole.calls] at asked
  rcases List.mem_append.mp asked with early | late
  · obtain ⟨k, member, inside⟩ := phase early
    exact ⟨k, List.mem_append_left _ member, inside⟩
  · split at late
    · contradiction
    · obtain ⟨k, member, inside⟩ := phase late
      exact ⟨k, List.mem_append_right _ member, inside⟩

end Runs

end Engine

end Rollback
