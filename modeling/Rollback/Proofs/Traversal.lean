import Mathlib.Data.List.Forall2

/-! Lists that are worked through item by item: the answers are those of the items, in their order, and
the whole fails just when one item does. -/
namespace Rollback.Traversal

variable {α β ε : Type} {step : α → Except ε β} {items : List α} {out : List β}

@[simp] theorem toOption_ok (a : α) : (Except.ok a : Except ε α).toOption = some a := rfl

@[simp] theorem toOption_error (fault : ε) : (Except.error fault : Except ε α).toOption = none := rfl

@[simp] theorem map_ok (f : α → β) (a : α) : (Except.ok a : Except ε α).map f = .ok (f a) := rfl

@[simp] theorem map_error (f : α → β) (fault : ε) :
    (Except.error fault : Except ε α).map f = .error fault := rfl

@[simp] theorem ok_bind (a : α) (next : α → Except ε β) : Except.ok a >>= next = next a := rfl

@[simp] theorem error_bind (fault : ε) (next : α → Except ε β) :
    Except.error fault >>= next = .error fault := rfl

@[simp] theorem mapError_ok {δ : Type} (f : ε → δ) (a : α) :
    (Except.ok a : Except ε α).mapError f = .ok a := rfl

@[simp] theorem mapError_error {δ : Type} (f : ε → δ) (fault : ε) :
    (Except.error fault : Except ε α).mapError f = .error (f fault) := rfl

@[simp] theorem pure_eq_ok (a : α) : (pure a : Except ε α) = .ok a := rfl

theorem map_eq_ok_iff {e : Except ε α} {f : α → β} {b : β} :
    e.map f = .ok b ↔ ∃ a, e = .ok a ∧ f a = b := by
  cases e <;> simp

theorem map_eq_error_iff {e : Except ε α} {f : α → β} {fault : ε} :
    e.map f = .error fault ↔ e = .error fault := by
  cases e <;> simp

theorem mapError_eq_ok_iff {δ : Type} {e : Except ε α} {f : ε → δ} {a : α} :
    e.mapError f = .ok a ↔ e = .ok a := by
  cases e with
  | error fault => constructor <;> rintro ⟨⟩
  | ok value => constructor <;> rintro ⟨⟩ <;> rfl

/-- Of two lists that are related one by one, each entry of the second has one of the first. -/
theorem exists_of_forall₂ {R : α → β → Prop}
    (pairs : List.Forall₂ R items out) {b : β} (member : b ∈ out) : ∃ a ∈ items, R a b := by
  induction pairs with
  | nil => cases member
  | cons first _ ih =>
    rcases List.mem_cons.mp member with rfl | later
    · exact ⟨_, List.mem_cons_self, first⟩
    · obtain ⟨a, inside, related⟩ := ih later
      exact ⟨a, List.mem_cons_of_mem _ inside, related⟩

/-- An order of the first of two lists that are related one by one is one of the second. -/
theorem pairwise_of_forall₂ {R : α → β → Prop} {before : α → α → Prop} {before' : β → β → Prop}
    (pairs : List.Forall₂ R items out) (ordered : items.Pairwise before)
    (step : ∀ a a' b b', before a a' → R a b → R a' b' → before' b b') : out.Pairwise before' := by
  induction pairs with
  | nil => exact .nil
  | cons first later ih =>
    obtain ⟨least, rest⟩ := List.pairwise_cons.mp ordered
    refine .cons (fun b member => ?_) (ih rest)
    obtain ⟨a, inside, related⟩ := exists_of_forall₂ later member
    exact step _ _ _ _ (least a inside) first related

theorem bind_eq_ok_iff {γ : Type} {e : Except ε α} {next : α → Except ε γ} {c : γ} :
    e >>= next = .ok c ↔ ∃ a, e = .ok a ∧ next a = .ok c := by
  cases e <;> simp

/-- A traversal that succeeds gives one answer for each item, in order. What success is in a monad is told
by `gives`. -/
theorem forall₂_of_gives {m : Type → Type} [Monad m] [LawfulMonad m] {each : α → m β}
    (gives : (γ : Type) → m γ → γ → Prop) (ends : ∀ γ (c d : γ), gives γ (pure c) d → c = d)
    (goes : ∀ γ δ (first : m γ) (next : γ → m δ) d, gives δ (first >>= next) d →
      ∃ c, gives γ first c ∧ gives δ (next c) d)
    (worked : gives _ (items.mapM each) out) : List.Forall₂ (fun a b => gives β (each a) b) items out := by
  induction items generalizing out with
  | nil =>
    rw [List.mapM_nil] at worked
    cases ends _ _ _ worked
    exact .nil
  | cons item rest ih =>
    rw [List.mapM_cons] at worked
    obtain ⟨b, first, worked⟩ := goes _ _ _ _ _ worked
    obtain ⟨more, later, worked⟩ := goes _ _ _ _ _ worked
    cases ends _ _ _ worked
    exact .cons first (ih later)

theorem forall₂_of_mapM (planned : items.mapM step = .ok out) :
    List.Forall₂ (fun a b => step a = .ok b) items out :=
  forall₂_of_gives (fun γ (e : Except ε γ) a => e = .ok a) (fun _ _ _ => Except.ok.inj)
    (fun _ _ _ _ _ => bind_eq_ok_iff.mp) planned

theorem forall₂_of_mapM_some {read? : α → Option β} (read : items.mapM read? = some out) :
    List.Forall₂ (fun a b => read? a = some b) items out :=
  forall₂_of_gives (fun γ (o : Option γ) a => o = some a) (fun _ _ _ => Option.some.inj)
    (fun _ _ _ _ _ => Option.bind_eq_some_iff.mp) read

theorem mapM_eq_ok_iff :
    items.mapM step = .ok out ↔ List.Forall₂ (fun a b => step a = .ok b) items out := by
  refine ⟨forall₂_of_mapM, fun pairs => ?_⟩
  induction pairs with
  | nil => rfl
  | cons first _ ih =>
    rw [List.mapM_cons, first, ih]
    rfl

theorem mem_of_mapM (planned : items.mapM step = .ok out) {b : β} (member : b ∈ out) :
    ∃ a ∈ items, step a = .ok b := exists_of_forall₂ (forall₂_of_mapM planned) member

/-- A traversal fails just when one of its items does. -/
theorem mapM_eq_error_iff :
    (∃ fault, items.mapM step = .error fault) ↔ ∃ a ∈ items, ∃ fault, step a = .error fault := by
  induction items with
  | nil =>
    constructor
    · rintro ⟨fault, failed⟩
      cases failed
    · rintro ⟨a, member, -⟩
      cases member
  | cons item rest ih =>
    rw [List.mapM_cons]
    simp only [List.mem_cons, exists_eq_or_imp, ← ih]
    cases step item with
    | error fault => exact ⟨fun _ => .inl ⟨fault, rfl⟩, fun _ => ⟨fault, rfl⟩⟩
    | ok value =>
      cases rest.mapM step with
      | error fault => exact ⟨fun _ => .inr ⟨fault, rfl⟩, fun _ => ⟨fault, rfl⟩⟩
      | ok values =>
        constructor
        · rintro ⟨fault, failed⟩
          cases failed
        · rintro (⟨fault, failed⟩ | ⟨fault, failed⟩) <;> cases failed

/-- The fault of a traversal is that of the first item that has one. -/
theorem mapM_eq_error_iff_first {fault : ε} : items.mapM step = .error fault ↔
    ∃ before a after, items = before ++ a :: after ∧ (∀ b ∈ before, ∃ out, step b = .ok out) ∧
      step a = .error fault := by
  constructor
  · intro failed
    induction items with
    | nil => cases failed
    | cons item rest ih =>
      rw [List.mapM_cons] at failed
      cases first : step item with
      | error other =>
        rw [first] at failed
        cases failed
        exact ⟨[], item, rest, rfl, fun b inside => (List.not_mem_nil inside).elim, first⟩
      | ok value =>
        cases more : rest.mapM step with
        | error other =>
          rw [first, more] at failed
          cases failed
          obtain ⟨before, a, after, rfl, worked, bad⟩ := ih more
          refine ⟨item :: before, a, after, rfl, fun b inside => ?_, bad⟩
          rcases List.mem_cons.mp inside with rfl | later
          · exact ⟨value, first⟩
          · exact worked b later
        | ok values =>
          rw [first, more] at failed
          cases failed
  · rintro ⟨before, a, after, rfl, worked, bad⟩
    induction before with
    | nil =>
      rw [List.nil_append, List.mapM_cons, bad]
      rfl
    | cons item rest ih =>
      obtain ⟨value, first⟩ := worked item List.mem_cons_self
      have later := ih fun b inside => worked b (List.mem_cons_of_mem _ inside)
      rw [List.cons_append, List.mapM_cons, first, later]
      rfl

theorem exists_mapM_eq_ok_iff :
    (∃ out, items.mapM step = .ok out) ↔ ∀ a ∈ items, ∃ b, step a = .ok b := by
  constructor
  · rintro ⟨out, worked⟩ a member
    cases answer : step a with
    | ok b => exact ⟨b, rfl⟩
    | error fault =>
      obtain ⟨other, failed⟩ := mapM_eq_error_iff.mpr ⟨a, member, fault, answer⟩
      rw [worked] at failed
      cases failed
  · intro each
    cases worked : items.mapM step with
    | ok out => exact ⟨out, rfl⟩
    | error fault =>
      obtain ⟨a, member, other, failed⟩ := mapM_eq_error_iff.mp ⟨fault, worked⟩
      obtain ⟨b, answer⟩ := each a member
      rw [failed] at answer
      cases answer

theorem mapM_flatten_cons {γ : Type} (step : α → Except ε (List γ)) (a : α) (rest : List α) :
    ((a :: rest).mapM step).map List.flatten =
      step a >>= fun first => (rest.mapM step).map List.flatten >>= fun more => .ok (first ++ more) := by
  rw [List.mapM_cons]
  cases step a with
  | error fault => rfl
  | ok first => cases rest.mapM step <;> rfl

/-- With fewer items there are fewer answers, in the same order. -/
theorem mapM_sublist {some : List α} (fewer : some.Sublist items) (worked : items.mapM step = .ok out) :
    ∃ part, some.mapM step = .ok part ∧ part.Sublist out := by
  have pairs := mapM_eq_ok_iff.mp worked
  clear worked
  induction fewer generalizing out with
  | slnil =>
    cases pairs
    exact ⟨[], rfl, .slnil⟩
  | cons item _ ih =>
    cases pairs with
    | cons first later =>
      obtain ⟨part, worked, sublist⟩ := ih later
      exact ⟨part, worked, .cons _ sublist⟩
  | cons_cons item _ ih =>
    cases pairs with
    | cons first later =>
      obtain ⟨part, worked, sublist⟩ := ih later
      refine ⟨_ :: part, ?_, .cons_cons _ sublist⟩
      rw [List.mapM_cons, first, worked]
      rfl

/-- If each item gives a part of what it gave, so do all together. -/
theorem mapM_flatten_sublist {γ : Type} {step step' : α → Except ε (List γ)} {outs : List (List γ)}
    (each : ∀ a out, step a = .ok out → ∃ part, step' a = .ok part ∧ part.Sublist out)
    (worked : items.mapM step = .ok outs) :
    ∃ parts, items.mapM step' = .ok parts ∧ parts.flatten.Sublist outs.flatten := by
  have pairs := mapM_eq_ok_iff.mp worked
  clear worked
  induction pairs with
  | nil => exact ⟨[], rfl, .slnil⟩
  | cons first _ ih =>
    obtain ⟨part, worked, sublist⟩ := each _ _ first
    obtain ⟨parts, later, sublists⟩ := ih
    refine ⟨part :: parts, ?_, sublist.append sublists⟩
    rw [List.mapM_cons, worked, later]
    rfl

end Rollback.Traversal
