import Rollback.History.Revisions

/-! The revision that a selector chooses is one of the history: the first with its number, so that it
is also the one that is chosen by that number. -/
namespace Rollback.History

variable {α : Type} {history : History α}

theorem sublist_firstOfRuns (last? : Option Int) (history : History α) :
    (firstOfRuns last? history).Sublist history := by
  induction history generalizing last? with
  | nil => exact .slnil
  | cons item rest ih =>
    unfold firstOfRuns
    split
    · exact (ih last?).cons _
    · exact (ih _).cons_cons _

theorem mem_of_select {selector : RevisionSelector} {item : Int × α}
    (selected : history.select selector = .ok item) : item ∈ history := by
  cases selector with
  | exact number =>
    simp only [select] at selected
    split at selected
    · next found =>
      cases selected
      exact List.mem_of_find?_eq_some found
    · cases selected
  | previous =>
    simp only [select] at selected
    split at selected
    · next found =>
      cases selected
      have kept : item ∈ firstOfRuns none history.newestFirst := found ▸ by simp
      exact List.mem_mergeSort.mp ((sublist_firstOfRuns _ _).subset kept)
    · cases selected

theorem newestFirst_descends (history : History α) :
    history.newestFirst.Pairwise fun a b => b.1 ≤ a.1 := by
  have sorted : history.newestFirst.Pairwise fun a b => decide (b.1 ≤ a.1) = true :=
    List.pairwise_mergeSort (fun a b c first second => by simp only [decide_eq_true_eq] at *; omega)
      (fun a b => by simp only [Bool.or_eq_true, decide_eq_true_eq]; omega) history
  exact sorted.imp fun le => by simpa using le

/-- Items of one number keep their order. -/
theorem filter_newestFirst (history : History α) (number : Int) :
    history.newestFirst.filter (fun item => item.1 = number) =
      history.filter fun item => item.1 = number := by
  have equal : (history.filter fun item => item.1 = number).Pairwise
      fun a b => decide (b.1 ≤ a.1) = true := by
    refine List.pairwise_of_forall_mem_list fun a inA b inB => ?_
    obtain ⟨_, first⟩ := List.mem_filter.mp inA
    obtain ⟨_, second⟩ := List.mem_filter.mp inB
    simp only [decide_eq_true_eq] at *
    omega
  have kept : (history.filter fun item => item.1 = number).Sublist history.newestFirst :=
    List.sublist_mergeSort (fun a b c first second => by simp only [decide_eq_true_eq] at *; omega)
      (fun a b => by simp only [Bool.or_eq_true, decide_eq_true_eq]; omega) equal List.filter_sublist
  have inside := kept.filter fun item => decide (item.1 = number)
  rw [List.filter_filter] at inside
  simp only [Bool.and_self] at inside
  refine (inside.eq_of_length ?_).symm
  exact ((List.mergeSort_perm history _).filter _).length_eq.symm

theorem lt_of_mem_firstOfRuns {last : Int} {item : Int × α}
    (descends : history.Pairwise fun a b => b.1 ≤ a.1) (bounded : ∀ a ∈ history, a.1 ≤ last)
    (member : item ∈ firstOfRuns (some last) history) : item.1 < last := by
  induction history with
  | nil => cases member
  | cons a rest ih =>
    obtain ⟨first, descends⟩ := List.pairwise_cons.mp descends
    obtain ⟨below, later⟩ := List.forall_mem_cons.mp bounded
    unfold firstOfRuns at member
    split at member
    · exact ih descends later member
    · next other =>
      have less : a.1 ≠ last := fun same => other (by rw [same])
      rcases List.mem_cons.mp member with rfl | member
      · omega
      · have le := first item ((sublist_firstOfRuns _ _).subset member)
        omega

/-- The first item of a run is the first with its number. -/
theorem find?_of_mem_firstOfRuns {last? : Option Int} {item : Int × α}
    (descends : history.Pairwise fun a b => b.1 ≤ a.1)
    (bounded : ∀ last ∈ last?, ∀ a ∈ history, a.1 ≤ last)
    (member : item ∈ firstOfRuns last? history) :
    history.find? (fun a => a.1 = item.1) = some item := by
  induction history generalizing last? with
  | nil => cases member
  | cons a rest ih =>
    obtain ⟨first, descends'⟩ := List.pairwise_cons.mp descends
    have skip (less : item.1 < a.1) (found : rest.find? (fun a => a.1 = item.1) = some item) :
        (a :: rest).find? (fun a => a.1 = item.1) = some item := by
      have other : ¬ a.1 = item.1 := by omega
      simpa [List.find?_cons, other] using found
    unfold firstOfRuns at member
    split at member
    · next same =>
      subst same
      exact skip (lt_of_mem_firstOfRuns descends' first member)
        (ih descends' (fun last known b inRest => by
          obtain rfl : a.1 = last := by simpa using known
          exact first b inRest) member)
    · rcases List.mem_cons.mp member with rfl | member
      · simp
      · exact skip (lt_of_mem_firstOfRuns descends' first member)
          (ih descends' (fun last known b inRest => by
            obtain rfl : a.1 = last := by simpa using known
            exact first b inRest) member)

/-- What a selector chooses is chosen by its number, too. -/
theorem select_exact_of_select {selector : RevisionSelector} {item : Int × α}
    (selected : history.select selector = .ok item) : history.select (.exact item.1) = .ok item := by
  cases selector with
  | exact number =>
    have same : item.1 = number := by
      simp only [select] at selected
      split at selected
      · next found =>
        cases selected
        simpa using List.find?_some found
      · cases selected
    rw [same]
    exact selected
  | previous =>
    simp only [select] at selected
    split at selected
    · next found =>
      cases selected
      have member : item ∈ firstOfRuns none history.newestFirst := found ▸ by simp
      have first : history.newestFirst.find? (fun a => a.1 = item.1) = some item :=
        find?_of_mem_firstOfRuns (newestFirst_descends history) (by simp) member
      rw [← List.head?_filter, filter_newestFirst, List.head?_filter] at first
      simp only [select, first]
    · cases selected

end Rollback.History
