import Mathlib.Data.List.Basic
import Mathlib.Data.List.TakeWhile
import Rollback.Server.Http

/-! The places that requests go to. Parameters come last in the query unless the text is cut off, and
without a question mark in the text there is no other query. -/
namespace Rollback

namespace Location

variable {text path : String} {params : List (String × String)} {l : Location}

/-- A text that may stand in a path as one part of it. -/
def IsPathPart (part : String) : Prop :=
  '/' ∉ part.toList ∧ '?' ∉ part.toList ∧ '#' ∉ part.toList

instance (part : String) : Decidable (IsPathPart part) := inferInstanceAs (Decidable (_ ∧ _ ∧ _))

/-- A name, and a namespace if there is one, that may stand in a path. -/
def ArePathParts (ns? : Option String) (name : String) : Prop :=
  IsPathPart name ∧ ∀ ns, ns? = some ns → IsPathPart ns

/-- How a text with a place is taken apart: the path ends before the first question mark or hash sign,
the query after it before the first hash sign. -/
inductive Read (text : String) (params : List (String × String)) : Location → Prop where
  | whole {before : List Char} (same : text.toList = before)
      (plain : '?' ∉ before ∧ '#' ∉ before) : Read text params ⟨String.ofList before, params⟩
  | question {before query : List Char} (same : text.toList = before ++ '?' :: query)
      (plain : '?' ∉ before ∧ '#' ∉ before) :
      Read text params ⟨String.ofList before, pairs query ++ params⟩
  | cutQuestion {before query after : List Char}
      (same : text.toList = before ++ '?' :: (query ++ '#' :: after))
      (plain : '?' ∉ before ∧ '#' ∉ before) :
      Read text params ⟨String.ofList before, pairs query⟩
  | cut {before after : List Char} (same : text.toList = before ++ '#' :: after)
      (plain : '?' ∉ before ∧ '#' ∉ before) : Read text params ⟨String.ofList before, []⟩

/-- Characters are kept up to the first that is not to be kept, if there is one. -/
theorem split_takeWhile (keep : Char → Bool) (cs : List Char) :
    cs.takeWhile keep = cs ∨
      ∃ c rest, cs = cs.takeWhile keep ++ c :: rest ∧ keep c = false := by
  cases dropped : cs.dropWhile keep with
  | nil => exact .inl (List.takeWhile_eq_self_iff.mpr (List.dropWhile_eq_nil_iff.mp dropped))
  | cons c rest =>
    refine .inr ⟨c, rest, ?_, ?_⟩
    · rw [← dropped, List.takeWhile_append_dropWhile]
    · have first := List.head?_dropWhile_not keep cs
      simpa [dropped] using first

theorem read_cases (located : read text params = some l) : Read text params l := by
  unfold read at located
  dsimp only at located
  have plain : '?' ∉ text.toList.takeWhile (fun c => c != '?' && c != '#') ∧
      '#' ∉ text.toList.takeWhile (fun c => c != '?' && c != '#') := by
    constructor <;>
    · intro member
      have kept := List.mem_takeWhile_imp member
      simp at kept
  have parted := split_takeWhile (fun c => c != '?' && c != '#') text.toList
  generalize text.toList.takeWhile (fun c => c != '?' && c != '#') = before at located plain parted
  split at located
  · cases located
  obtain whole | ⟨c, rest, same, stops⟩ := parted
  · rw [← whole, List.drop_length] at located
    cases located
    exact .whole whole.symm plain
  · rw [same, List.drop_left] at located
    by_cases question : c = '?'
    · subst question
      simp only at located
      split at located
      · cases located
      obtain whole | ⟨d, after, sameRest, stopsRest⟩ := split_takeWhile (· != '#') rest
      · rw [whole] at located
        simp only [Nat.lt_irrefl, if_false] at located
        cases located
        exact .question same plain
      · obtain rfl : d = '#' := by simpa using stopsRest
        generalize rest.takeWhile (· != '#') = query at located sameRest
        subst sameRest
        simp only [List.length_append, List.length_cons, Nat.lt_add_right_iff_pos, Nat.zero_lt_succ,
          if_true, List.append_nil] at located
        cases located
        exact .cutQuestion same plain
    · obtain rfl : c = '#' := by
        simp only [Bool.and_eq_false_iff, bne_eq_false_iff_eq] at stops
        exact stops.resolve_left question
      cases located
      exact .cut same plain

/-- Whether a text has a place does not depend on the parameters. -/
theorem isSome_read (text : String) (params : List (String × String)) :
    (read text params).isSome = (read text []).isSome := by
  unfold read
  dsimp only
  split
  · rfl
  · split
    · split <;> rfl
    · rfl
    · rfl

/-- A text in which nothing is cut off carries the parameters. -/
theorem query_of_read (located : read (path ++ "?") params = some l) (uncut : '#' ∉ path.toList) :
    ∃ query, l.query = query ++ params := by
  have absent : '#' ∉ (path ++ "?").toList := by simp [String.toList_append, uncut]
  cases read_cases located with
  | whole same plain => exact ⟨[], rfl⟩
  | question same plain => exact ⟨_, rfl⟩
  | cutQuestion same plain => exact absurd (same ▸ by simp) absent
  | cut same plain => exact absurd (same ▸ by simp) absent

/-- A text without a query of its own has the parameters alone, or nothing. -/
theorem query_subset_of_read (located : read (path ++ "?") params = some l)
    (unasked : '?' ∉ path.toList) : l.query ⊆ params := by
  have ends : (path ++ "?").toList = path.toList ++ ['?'] := String.toList_append
  cases read_cases located with
  | whole same plain => exact List.Subset.refl _
  | question same plain =>
    obtain ⟨-, -, rfl⟩ := (List.append_cons_inj_of_notMem unasked List.not_mem_nil).mp
      (ends.symm.trans same)
    exact List.Subset.refl _
  | @cutQuestion _ query _ same plain =>
    obtain ⟨-, -, rest⟩ := (List.append_cons_inj_of_notMem unasked List.not_mem_nil).mp
      (ends.symm.trans same)
    cases query <;> cases rest
  | cut same plain => exact List.nil_subset _

/-- A text without question mark and hash sign is a path, and the parameters are the query. -/
theorem whole_of_read (located : read text params = some l) (uncut : '#' ∉ text.toList)
    (unasked : '?' ∉ text.toList) : l = ⟨text, params⟩ := by
  cases read_cases located with
  | whole same plain => rw [← same, String.ofList_toList]
  | question same plain => exact absurd (same ▸ by simp) unasked
  | cutQuestion same plain => exact absurd (same ▸ by simp) unasked
  | cut same plain => exact absurd (same ▸ by simp) uncut

/-- Before a question mark a text without question mark and hash sign is a path. -/
theorem path_of_read (located : read (path ++ "?") params = some l) (uncut : '#' ∉ path.toList)
    (unasked : '?' ∉ path.toList) : l.path = path := by
  have ends : (path ++ "?").toList = path.toList ++ ['?'] := String.toList_append
  have absent : '#' ∉ (path ++ "?").toList := by simp [ends, uncut]
  cases read_cases located with
  | whole same plain => exact absurd (same ▸ ends ▸ by simp) plain.1
  | question same plain =>
    obtain ⟨rfl, -, -⟩ := (List.append_cons_inj_of_notMem unasked List.not_mem_nil).mp
      (ends.symm.trans same)
    exact String.ofList_toList
  | cutQuestion same plain => exact absurd (same ▸ by simp) absent
  | cut same plain => exact absurd (same ▸ by simp) absent

end Location

end Rollback
