import Rollback.Text.Split

/-! A text is cut at its first separator: what stands before it has none. -/
namespace Rollback.Text

variable {sep : Char}

theorem cutChars_append {before : List Char} (absent : sep ∉ before) (after : List Char) :
    cutChars sep (before ++ sep :: after) = some (before, after) := by
  induction before with
  | nil => simp [cutChars]
  | cons c rest ih =>
    simp only [List.mem_cons, not_or] at absent
    simp [cutChars, Ne.symm absent.1, ih absent.2]

/-- Two texts that go on in the same way after their first separators begin in the same way. -/
theorem append_cons_inj {before before' after after' : List Char} (absent : sep ∉ before)
    (absent' : sep ∉ before') (same : before ++ sep :: after = before' ++ sep :: after') :
    before = before' ∧ after = after' := by
  have cut := congrArg (cutChars sep) same
  rw [cutChars_append absent, cutChars_append absent'] at cut
  exact Prod.mk.inj (Option.some.inj cut)

/-- Two lists that begin with items of one kind, up to the first of another kind, begin in the same way
and go on in the same way. -/
theorem append_inj_of_stop {α : Type} {kind : α → Prop} {before before' after after' : List α}
    (kept : ∀ a ∈ before, kind a) (kept' : ∀ a ∈ before', kind a) (stop : ∀ a ∈ after.head?, ¬ kind a)
    (stop' : ∀ a ∈ after'.head?, ¬ kind a) (same : before ++ after = before' ++ after') :
    before = before' ∧ after = after' := by
  induction before generalizing before' with
  | nil =>
    cases before' with
    | nil => exact ⟨rfl, same⟩
    | cons b rest =>
      obtain rfl : after = b :: (rest ++ after') := same
      exact absurd (kept' b List.mem_cons_self) (stop b rfl)
  | cons a rest ih =>
    cases before' with
    | nil =>
      obtain rfl : a :: (rest ++ after) = after' := same
      exact absurd (kept a List.mem_cons_self) (stop' a rfl)
    | cons b rest' =>
      obtain ⟨rfl, rests⟩ := List.cons.inj same
      obtain ⟨rfl, following⟩ := ih (fun c member => kept c (List.mem_cons_of_mem _ member))
        (fun c member => kept' c (List.mem_cons_of_mem _ member)) rests
      exact ⟨rfl, following⟩

theorem cutChars_eq_some {cs before after : List Char} :
    cutChars sep cs = some (before, after) ↔ sep ∉ before ∧ cs = before ++ sep :: after := by
  constructor
  · intro cut
    induction cs generalizing before with
    | nil => cases cut
    | cons c rest ih =>
      rw [cutChars] at cut
      split at cut
      · next here =>
        cases cut
        exact ⟨List.not_mem_nil, by rw [here]; rfl⟩
      · next other =>
        obtain ⟨⟨first, last⟩, inner, same⟩ := Option.map_eq_some_iff.mp cut
        cases same
        obtain ⟨absent, rfl⟩ := ih inner
        exact ⟨List.not_mem_cons_of_ne_of_not_mem (Ne.symm other) absent, rfl⟩
  · rintro ⟨absent, rfl⟩
    exact cutChars_append absent after

theorem cutChars_eq_none {cs : List Char} : cutChars sep cs = none ↔ sep ∉ cs := by
  induction cs with
  | nil => simp [cutChars]
  | cons c rest ih =>
    rw [cutChars]
    split
    · next here => simp [here]
    · next other => simp [ih, Ne.symm other]

theorem cut_eq_some {s before after : String} : cut sep s = some (before, after) ↔
    sep ∉ before.toList ∧ s.toList = before.toList ++ sep :: after.toList := by
  constructor
  · intro found
    obtain ⟨⟨first, last⟩, inner, same⟩ := Option.map_eq_some_iff.mp found
    cases same
    simpa using cutChars_eq_some.mp inner
  · intro parts
    exact Option.map_eq_some_iff.mpr ⟨_, cutChars_eq_some.mpr parts, by simp⟩

theorem cut_eq_none {s : String} : cut sep s = none ↔ sep ∉ s.toList :=
  Option.map_eq_none_iff.trans cutChars_eq_none

end Rollback.Text
