import Rollback.Text.Split

/-! A text is divided at every separator: the pieces have none, and joined by the separator they give the
text again. There is only one such list, so this says what the pieces are. -/
namespace Rollback.Text

variable {sep : Char}

theorem pieces_eq_splitOn (cs : List Char) : pieces sep cs = cs.splitOn sep := by
  induction cs with
  | nil => rfl
  | cons c rest ih =>
    rw [pieces, List.splitOn_cons_eq_if_modifyHead, ih]
    by_cases here : c = sep
    · simp [here]
    · cases found : rest.splitOn sep with
      | nil => exact absurd found (by simp)
      | cons first others => simp [here]

theorem pieces_eq_iff {cs : List Char} {ps : List (List Char)} : pieces sep cs = ps ↔
    ps ≠ [] ∧ (∀ p ∈ ps, sep ∉ p) ∧ [sep].intercalate ps = cs := by
  constructor
  · rintro rfl
    exact ⟨pieces_ne_nil sep cs, fun p member => not_mem_of_mem_pieces member,
      intercalate_pieces sep cs⟩
  · rintro ⟨filled, plain, rfl⟩
    rw [pieces_eq_splitOn]
    exact List.splitOn_intercalate sep plain filled

theorem splitAt_eq_iff {s : String} {texts : List String} : splitAt sep s = texts ↔
    texts ≠ [] ∧ (∀ t ∈ texts, sep ∉ t.toList) ∧ (String.singleton sep).intercalate texts = s := by
  have lists : splitAt sep s = texts ↔ pieces sep s.toList = texts.map String.toList := by
    constructor
    · rintro rfl
      simp [splitAt, Function.comp_def]
    · intro same
      simp [splitAt, same, Function.comp_def]
  rw [lists, pieces_eq_iff, ← String.toList_inj]
  simp

theorem length_pieces (cs : List Char) : (pieces sep cs).length = cs.count sep + 1 := by
  induction cs with
  | nil => rfl
  | cons c rest ih =>
    rw [pieces]
    split
    · next here => simp [here, ih]
    · next other =>
      have same : (c :: rest).count sep = rest.count sep := List.count_cons_of_ne other
      split
      · next none => exact absurd none (pieces_ne_nil sep rest)
      · next first others found =>
        rw [found, List.length_cons] at ih
        rw [List.length_cons, ih, same]

theorem length_splitAt (s : String) : (splitAt sep s).length = s.toList.count sep + 1 := by
  rw [splitAt, List.length_map, length_pieces]

theorem mem_of_mem_pieces {cs p : List Char} {c : Char} (piece : p ∈ pieces sep cs) (member : c ∈ p) :
    c ∈ cs := by
  induction cs generalizing p with
  | nil =>
    cases List.mem_singleton.mp piece
    cases member
  | cons d rest ih =>
    rw [pieces] at piece
    split at piece
    · rcases List.mem_cons.mp piece with rfl | later
      · cases member
      · exact List.mem_cons_of_mem _ (ih later member)
    · split at piece
      · cases List.mem_singleton.mp piece
        exact List.mem_cons.mpr (.inl (List.mem_singleton.mp member))
      · next first others found =>
        rw [found] at ih
        rcases List.mem_cons.mp piece with rfl | later
        · rcases List.mem_cons.mp member with rfl | inside
          · exact List.mem_cons_self
          · exact List.mem_cons_of_mem _ (ih List.mem_cons_self inside)
        · exact List.mem_cons_of_mem _ (ih (List.mem_cons_of_mem _ later) member)

theorem mem_of_mem_splitAt {s t : String} {c : Char} (piece : t ∈ splitAt sep s)
    (member : c ∈ t.toList) : c ∈ s.toList := by
  obtain ⟨p, inside, rfl⟩ := List.mem_map.mp piece
  exact mem_of_mem_pieces inside (by simpa using member)

end Rollback.Text
