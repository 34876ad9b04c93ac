import Rollback.Proofs.History.Revisions
import Mathlib.Data.Finset.Card
import Mathlib.Data.Finset.Dedup

/-! What is chosen from a history. The previous revision is the one with the second highest of the
numbers that occur, and an exact one has its number; of several items with one number the first counts.
So the number that is chosen, and whether there is one, depends on the numbers alone and not on their
order. -/
namespace Rollback.History

variable {α : Type} {history : History α} {item : Int × α}

def numbers (history : History α) : Finset Int := (history.map (·.1)).toFinset

/-- One of the numbers, of which just one is higher. -/
def SecondHighest (numbers : Finset Int) (n : Int) : Prop :=
  n ∈ numbers ∧ (numbers.filter (n < ·)).card = 1

instance (numbers : Finset Int) (n : Int) : Decidable (SecondHighest numbers n) :=
  inferInstanceAs (Decidable (_ ∧ _))

/-- No item before this one has its number. -/
def First (history : History α) (item : Int × α) : Prop :=
  ∃ before after, history = before ++ item :: after ∧ ∀ other ∈ before, other.1 ≠ item.1

theorem mem_numbers {n : Int} : n ∈ history.numbers ↔ ∃ item ∈ history, item.1 = n := by
  simp [numbers]

theorem first_iff : history.First item ↔ history.find? (fun a => a.1 = item.1) = some item := by
  simp [First, List.find?_eq_some_iff_append]

theorem SecondHighest.unique {numbers : Finset Int} {m n : Int} (first : SecondHighest numbers m)
    (second : SecondHighest numbers n) : m = n := by
  -- Of two such numbers the higher one is above the lower one, and so is the one above the higher.
  have notBelow {a b : Int} (lower : SecondHighest numbers a) (higher : SecondHighest numbers b) :
      ¬ a < b := by
    intro less
    obtain ⟨top, only⟩ := Finset.card_eq_one.mp lower.2
    obtain ⟨above, only'⟩ := Finset.card_eq_one.mp higher.2
    have inside : b ∈ numbers.filter (a < ·) := Finset.mem_filter.mpr ⟨higher.1, less⟩
    have ⟨listed, greater⟩ : above ∈ numbers ∧ b < above := by
      have member : above ∈ numbers.filter (b < ·) := only' ▸ Finset.mem_singleton_self above
      exact Finset.mem_filter.mp member
    have inside' : above ∈ numbers.filter (a < ·) :=
      Finset.mem_filter.mpr ⟨listed, less.trans greater⟩
    rw [only, Finset.mem_singleton] at inside inside'
    omega
  have := notBelow first second
  have := notBelow second first
  omega

theorem SecondHighest.two_le_card {numbers : Finset Int} {n : Int}
    (second : SecondHighest numbers n) : 2 ≤ numbers.card := by
  -- The number is not above itself, so there are more numbers than the one above it.
  have fewer : numbers.filter (n < ·) ⊂ numbers :=
    Finset.filter_ssubset.mpr ⟨n, second.1, lt_irrefl n⟩
  have less := Finset.card_lt_card fewer
  rw [second.2] at less
  exact less

theorem firstOfRuns_descends {last? : Option Int} (descends : history.Pairwise fun a b => b.1 ≤ a.1) :
    (firstOfRuns last? history).Pairwise fun a b => b.1 < a.1 := by
  induction history generalizing last? with
  | nil => exact .nil
  | cons item rest ih =>
    obtain ⟨first, descends⟩ := List.pairwise_cons.mp descends
    unfold firstOfRuns
    split
    · exact ih descends
    · exact .cons (fun other kept => lt_of_mem_firstOfRuns descends first kept) (ih descends)

theorem mem_firstOfRuns_or (last? : Option Int) (member : item ∈ history) :
    last? = some item.1 ∨ ∃ kept ∈ firstOfRuns last? history, kept.1 = item.1 := by
  induction history generalizing last? with
  | nil => cases member
  | cons first rest ih =>
    unfold firstOfRuns
    rcases List.mem_cons.mp member with rfl | later
    · split
      · next same => exact .inl same
      · exact .inr ⟨item, List.mem_cons_self, rfl⟩
    · split
      · exact ih _ later
      · rcases ih (some first.1) later with same | ⟨kept, inRest, same⟩
        · exact .inr ⟨first, List.mem_cons_self, Option.some.inj same⟩
        · exact .inr ⟨kept, List.mem_cons_of_mem _ inRest, same⟩

/-- The first items of the runs, the highest number first. -/
def runs (history : History α) : History α := firstOfRuns none history.newestFirst

theorem runs_descends (history : History α) : history.runs.Pairwise fun a b => b.1 < a.1 :=
  firstOfRuns_descends (newestFirst_descends history)

theorem numbers_runs (history : History α) : history.runs.numbers = history.numbers := by
  ext n
  rw [mem_numbers, mem_numbers]
  constructor
  · rintro ⟨item, kept, same⟩
    exact ⟨item, List.mem_mergeSort.mp ((sublist_firstOfRuns _ _).subset kept), same⟩
  · rintro ⟨item, member, rfl⟩
    have sorted : item ∈ history.newestFirst := List.mem_mergeSort.mpr member
    rcases mem_firstOfRuns_or none sorted with seen | kept
    · cases seen
    · exact kept

theorem card_numbers (history : History α) : history.numbers.card = history.runs.length := by
  have distinct : (history.runs.map (·.1)).Nodup :=
    List.pairwise_map.mpr ((runs_descends history).imp fun less => by omega)
  rw [← numbers_runs, numbers, List.toFinset_card_of_nodup distinct, List.length_map]

theorem secondHighest_of_runs {top : Int × α} {rest : History α}
    (kept : history.runs = top :: item :: rest) : SecondHighest history.numbers item.1 := by
  have descends := runs_descends history
  rw [kept] at descends
  obtain ⟨first, descends⟩ := List.pairwise_cons.mp descends
  obtain ⟨second, -⟩ := List.pairwise_cons.mp descends
  have higher : item.1 < top.1 := first item List.mem_cons_self
  rw [← numbers_runs, kept]
  refine ⟨mem_numbers.mpr ⟨item, by simp, rfl⟩, Finset.card_eq_one.mpr ⟨top.1, ?_⟩⟩
  ext n
  rw [Finset.mem_filter, mem_numbers, Finset.mem_singleton]
  constructor
  · rintro ⟨⟨other, member, rfl⟩, above⟩
    rcases List.mem_cons.mp member with rfl | member
    · rfl
    · rcases List.mem_cons.mp member with rfl | later
      · exact absurd above (lt_irrefl _)
      · exact absurd above (second other later).not_gt
  · rintro rfl
    exact ⟨⟨top, List.mem_cons_self, rfl⟩, higher⟩

theorem select_exact_eq_ok {n : Int} :
    history.select (.exact n) = .ok item ↔ item.1 = n ∧ history.First item := by
  rw [first_iff, select]
  constructor
  · intro selected
    split at selected
    · next found =>
      cases selected
      obtain rfl : item.1 = n := by simpa using List.find?_some found
      exact ⟨rfl, found⟩
    · cases selected
  · rintro ⟨rfl, found⟩
    rw [found]

theorem select_exact_eq_error {n : Int} {fault : RevisionFault} :
    history.select (.exact n) = .error fault ↔ fault = .notFound n ∧ n ∉ history.numbers := by
  have absent : n ∉ history.numbers ↔ history.find? (fun a => a.1 = n) = none := by
    simp only [mem_numbers, List.find?_eq_none, decide_eq_true_eq, not_exists, not_and]
  rw [absent, select]
  cases history.find? (fun a => a.1 = n) <;> simp [eq_comm]

theorem select_previous_eq_error {fault : RevisionFault} :
    history.select .previous = .error fault ↔ fault = .noPrevious ∧ history.numbers.card < 2 := by
  rw [card_numbers, select, ← runs]
  rcases history.runs with _ | ⟨top, _ | ⟨second, rest⟩⟩ <;> simp [eq_comm]

theorem secondHighest_of_select (selected : history.select .previous = .ok item) :
    SecondHighest history.numbers item.1 := by
  rw [select, ← runs] at selected
  split at selected
  · next kept =>
    cases selected
    exact secondHighest_of_runs kept
  · cases selected

theorem select_previous_eq_ok :
    history.select .previous = .ok item ↔
      SecondHighest history.numbers item.1 ∧ history.First item := by
  constructor
  · intro selected
    exact ⟨secondHighest_of_select selected, (select_exact_eq_ok.mp (select_exact_of_select selected)).2⟩
  · rintro ⟨second, first⟩
    cases chosen : history.select .previous with
    | error fault =>
      exact absurd (select_previous_eq_error.mp chosen).2 second.two_le_card.not_gt
    | ok other =>
      have same := (secondHighest_of_select chosen).unique second
      have exact := select_exact_of_select chosen
      rw [same, select_exact_eq_ok.mpr ⟨rfl, first⟩] at exact
      exact exact.symm

variable {other : History α} {selector : RevisionSelector}

theorem numbers_perm (perm : List.Perm history other) : history.numbers = other.numbers :=
  List.toFinset_eq_of_perm _ _ (perm.map _)

theorem refused_of_numbers (same : history.numbers = other.numbers) {fault : RevisionFault}
    (refused : history.select selector = .error fault) : other.select selector = .error fault := by
  cases selector with
  | previous =>
    rw [select_previous_eq_error] at refused ⊢
    rwa [← same]
  | exact n =>
    rw [select_exact_eq_error] at refused ⊢
    rwa [← same]

theorem number_of_numbers (same : history.numbers = other.numbers) {item' : Int × α}
    (chosen : history.select selector = .ok item) (chosen' : other.select selector = .ok item') :
    item.1 = item'.1 := by
  cases selector with
  | previous =>
    have second := secondHighest_of_select chosen'
    rw [← same] at second
    exact (secondHighest_of_select chosen).unique second
  | exact n => exact (select_exact_eq_ok.mp chosen).1.trans (select_exact_eq_ok.mp chosen').1.symm

/-- The number that is chosen, and whether there is one, depends on the numbers alone. -/
theorem select_number_eq (same : history.numbers = other.numbers) (selector : RevisionSelector) :
    (history.select selector).map Prod.fst = (other.select selector).map Prod.fst := by
  cases chosen : history.select selector with
  | error fault => rw [refused_of_numbers same chosen]
  | ok item =>
    cases chosen' : other.select selector with
    | error fault =>
      rw [refused_of_numbers same.symm chosen'] at chosen
      cases chosen
    | ok item' => exact congrArg Except.ok (number_of_numbers same chosen chosen')

/-- The previous revision is the first item with the second highest number, and there is none just when
fewer than two numbers occur. An exact revision is the first item with its number, and there is none just
when that does not occur. So the previous revision is also found by its number, and the order of a
history only matters for items that share one. -/
theorem select_by_number (history : History α) :
    (∀ item, history.select .previous = .ok item ↔
      SecondHighest history.numbers item.1 ∧ history.First item) ∧
    (∀ fault, history.select .previous = .error fault ↔
      fault = .noPrevious ∧ history.numbers.card < 2) ∧
    (∀ n item, history.select (.exact n) = .ok item ↔ item.1 = n ∧ history.First item) ∧
    (∀ n fault, history.select (.exact n) = .error fault ↔
      fault = .notFound n ∧ n ∉ history.numbers) ∧
    (∀ item, history.select .previous = .ok item → history.select (.exact item.1) = .ok item) ∧
    (∀ other : History α, List.Perm history other → ∀ selector,
      (history.select selector).map Prod.fst = (other.select selector).map Prod.fst) := by
  refine ⟨fun _ => select_previous_eq_ok, fun _ => select_previous_eq_error,
    fun _ _ => select_exact_eq_ok, fun _ _ => select_exact_eq_error,
    fun _ => select_exact_of_select, ?_⟩
  intro other perm
  exact select_number_eq (numbers_perm perm)

/-! Two orders of one history, in which the highest number and the one after it occur twice. -/
namespace Repeated

def found : History String := [(3, "c"), (5, "e"), (-1, "a"), (5, "f"), (3, "d")]

def sorted : History String := [(-1, "a"), (3, "d"), (3, "c"), (5, "f"), (5, "e")]

theorem perm : List.Perm found sorted := by decide

theorem first : found.First (3, "c") := ⟨[], _, rfl, by simp⟩

end Repeated

theorem select_by_number_repeated :
    List.Perm Repeated.found Repeated.sorted ∧
      Repeated.found.select .previous = .ok (3, "c") ∧
      Repeated.found.select (.exact 3) = .ok (3, "c") ∧
      (Repeated.sorted.select .previous).map Prod.fst = .ok 3 := by
  obtain ⟨previous, -, -, -, again, reordered⟩ := select_by_number Repeated.found
  have chosen := (previous (3, "c")).mpr ⟨by decide, Repeated.first⟩
  refine ⟨Repeated.perm, chosen, again _ chosen, ?_⟩
  rw [← reordered _ Repeated.perm, chosen]
  rfl

end Rollback.History
