import Rollback.Text.Casing
import Mathlib.Data.String.Basic

/-! Lower-casing neither takes away nor brings in the marks and digits of ASCII, so that a text has the
same separators afterwards. -/
namespace Rollback.Text

variable {sep : Char}

/-- A character of ASCII that comes before all letters. -/
def BeforeLetters (sep : Char) : Prop := 0 < sep.toNat ∧ sep.toNat < 65

theorem letters_of_lowerRanges {range : Nat × Nat × Nat × Int} (member : range ∈ lowerRanges) :
    65 ≤ (range.1 : Int) + range.2.2.2 := by
  have all : ∀ range ∈ lowerRanges, 65 ≤ (range.1 : Int) + range.2.2.2 := by decide +kernel
  exact all range member

theorem ofNat_ne {n : Nat} (mark : BeforeLetters sep) (letter : 65 ≤ n) : Char.ofNat n ≠ sep := by
  rintro rfl
  obtain ⟨positive, below⟩ := mark
  by_cases valid : n.isValidChar
  · have kept : (Char.ofNat n).toNat = n := by
      rw [Char.ofNat, dif_pos valid]
      rfl
    omega
  · rw [Char.ofNat, dif_neg valid] at positive
    exact lt_irrefl 0 positive

theorem lowerOne_eq_iff (mark : BeforeLetters sep) (c : Char) : lowerOne c = sep ↔ c = sep := by
  have ⟨positive, below⟩ := mark
  constructor
  · intro same
    unfold lowerOne at same
    split at same
    · split at same
      · next upper =>
        have capital : 65 ≤ c.toNat := upper.1
        exact absurd same (ofNat_ne mark (by omega))
      · exact same
    · split at same
      · next first last step distance found =>
        have shifted := letters_of_lowerRanges (List.mem_of_find?_eq_some found)
        have inside := List.find?_some found
        simp only [decide_eq_true_eq] at inside shifted
        exact absurd same (ofNat_ne mark (by omega))
      · exact same
  · rintro rfl
    have lower : ¬ ('A' ≤ c ∧ c ≤ 'Z') := by
      rintro ⟨capital, -⟩
      have code : 65 ≤ c.toNat := capital
      omega
    rw [lowerOne, if_pos (by omega), if_neg lower]

theorem mem_lowerAt (mark : BeforeLetters sep) (before after : List Char) (c : Char) :
    sep ∈ lowerAt before c after ↔ sep = c := by
  have other {d : Char} (high : 65 ≤ d.toNat) : sep ≠ d := by
    rintro rfl
    exact absurd mark.2 (by omega)
  unfold lowerAt
  -- A sigma is lowered by what stands around it and one letter to two characters, all others alone.
  split
  · next sigma =>
    subst sigma
    split <;> simp [other]
  · split
    · next dotted =>
      subst dotted
      simp [other]
    · rw [List.mem_singleton, eq_comm, lowerOne_eq_iff mark, eq_comm]

theorem mem_lowerFrom (mark : BeforeLetters sep) (before cs : List Char) :
    sep ∈ lowerFrom before cs ↔ sep ∈ cs := by
  induction cs generalizing before with
  | nil => simp [lowerFrom]
  | cons c rest ih => rw [lowerFrom, List.mem_append, mem_lowerAt mark, ih, List.mem_cons]

/-- A mark stands in the lower-case text just when it stands in the text. -/
theorem mem_lowerCase (mark : BeforeLetters sep) (s : String) :
    sep ∈ (lowerCase s).toList ↔ sep ∈ s.toList := by
  rw [lowerCase, String.toList_ofList, mem_lowerFrom mark]

/-- All characters are of ASCII. -/
def Ascii (s : String) : Prop := ∀ c ∈ s.toList, c.toNat < 128

-- The quantifier is decided over the letters of the text, not over all letters there are.
instance (s : String) : Decidable (Ascii s) := List.decidableBAll _ _

theorem lowerAt_of_ascii {c : Char} (ascii : c.toNat < 128) (before after : List Char) :
    lowerAt before c after = [lowerOne c] := by
  have other {d : Char} (high : 128 ≤ d.toNat) : c ≠ d := by
    rintro rfl
    omega
  rw [lowerAt, if_neg (other (by decide)), if_neg (other (by decide))]

theorem lowerFrom_of_ascii {cs : List Char} (ascii : ∀ c ∈ cs, c.toNat < 128) (before : List Char) :
    lowerFrom before cs = cs.map lowerOne := by
  induction cs generalizing before with
  | nil => rfl
  | cons c rest ih =>
    obtain ⟨first, others⟩ := List.forall_mem_cons.mp ascii
    rw [lowerFrom, lowerAt_of_ascii first, ih others]
    rfl

/-- A text of ASCII is lowered letter by letter. -/
theorem toList_lowerCase {s : String} (ascii : Ascii s) :
    (lowerCase s).toList = s.toList.map lowerOne := by
  rw [lowerCase, String.toList_ofList, lowerFrom_of_ascii ascii]

end Rollback.Text
