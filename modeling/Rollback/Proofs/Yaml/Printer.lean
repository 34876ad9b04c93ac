import Rollback.Yaml.Printer

/-! A printed document is empty or ends with the end of a line. -/
namespace Rollback.Yaml

namespace Pen

variable {p : Pen}

/-- In the first column the last character is a line end, unless nothing has been written. -/
def Settled (p : Pen) : Prop := p.column = 0 → ∀ c ∈ p.written.head?, isBreak c = true

theorem Settled.put (p : Pen) (c : Char) : (p.put c).Settled := nofun

theorem Settled.putAll (settled : p.Settled) (cs : List Char) : (p.putAll cs).Settled := by
  induction cs generalizing p with
  | nil => exact settled
  | cons c cs ih => exact ih (.put p c)

theorem Settled.newLine (p : Pen) : p.newLine.Settled := by
  rintro - c member
  obtain rfl : '\n' = c := Option.some.inj member
  decide

theorem Settled.putBreak (p : Pen) {c : Char} (ends : isBreak c = true) : (p.putBreak c).Settled := by
  rintro - d member
  obtain rfl : c = d := Option.some.inj member
  exact ends

theorem Settled.indentTo (settled : p.Settled) (column : Nat) : (p.indentTo column).Settled := by
  unfold Pen.indentTo
  dsimp only
  split
  · exact (Settled.newLine p).putAll _
  · exact settled.putAll _

theorem Settled.mark (settled : p.Settled) (cs : List Char) (spaced blank indent : Bool) :
    (p.mark cs spaced blank indent).Settled := by
  unfold Pen.mark
  dsimp only
  split
  · exact (Settled.put p ' ').putAll cs
  · exact settled.putAll cs

theorem Settled.plain (settled : p.Settled) (cs : List Char) : (p.plain cs).Settled := by
  unfold Pen.plain
  dsimp only
  split
  · exact settled.putAll cs
  · exact (Settled.put p ' ').putAll cs

theorem Settled.lines (column : Nat) (quote : Option Char) (broken : Bool) (settled : p.Settled)
    (cs : List Char) : (Pen.lines column quote broken p cs).1.Settled := by
  induction cs generalizing p broken with
  | nil => exact settled
  | cons c cs ih =>
    unfold Pen.lines
    split
    · next ends => exact ih _ (Settled.putBreak p ends)
    · exact ih _ (Settled.put _ c)

theorem Settled.single (settled : p.Settled) (column : Nat) (cs : List Char) :
    (p.single column cs).Settled := by
  have inside := (settled.mark ['\x27'] true false false).lines column (some '\x27') false cs
  unfold Pen.single
  dsimp only
  split
  · exact (inside.indentTo column).mark _ _ _ _
  · exact inside.mark _ _ _ _

theorem Settled.double (settled : p.Settled) (cs : List Char) : (p.double cs).Settled :=
  settled.mark _ _ _ _

theorem Settled.literal (p : Pen) (column : Nat) (cs : List Char) :
    (p.literal column cs).Settled := by
  refine Settled.lines column none true ?_ cs
  exact Settled.newLine (p.mark ('|' :: blockHints cs) true false false)

theorem Settled.text (settled : p.Settled) (column : Nat) (style : Style) (cs : List Char) :
    (p.text column style cs).Settled := by
  cases style with
  | plain => exact settled.plain cs
  | single => exact settled.single column cs
  | double => exact settled.double cs
  | literal => exact .literal p column cs

end Pen

mutual

theorem settled_write (column? : Option Nat) (inMember : Bool) {p : Pen} (settled : p.Settled) :
    (v : Json) → (write column? inMember p v).Settled
  | .string _ => settled.text _ _ _
  | .array [] => (settled.mark _ _ _ _).mark _ _ _ _
  | .object [] => (settled.mark _ _ _ _).mark _ _ _ _
  | .array (v :: rest) => settled_writeItems _ settled (v :: rest)
  | .object (m :: rest) => settled_writeMembers _ settled (m :: rest)
  | .null => settled.plain _
  | .bool _ => settled.plain _
  | .integer _ => settled.plain _
  | .float _ => settled.plain _

theorem settled_writeItems (column : Nat) {p : Pen} (settled : p.Settled) :
    (items : List Json) → (writeItems column p items).Settled
  | [] => settled
  | v :: rest =>
    settled_writeItems column
      (settled_write (some column) false ((settled.indentTo column).mark _ _ _ _) v) rest

theorem settled_writeMembers (column : Nat) {p : Pen} (settled : p.Settled) :
    (members : List (String × Json)) → (writeMembers column p members).Settled
  | [] => settled
  | (key, v) :: rest => by
    have there := settled.indentTo column
    unfold writeMembers
    dsimp only
    split
    · refine settled_writeMembers column (settled_write (some column) true ?_ v) rest
      exact (there.text _ _ _).mark _ _ _ _
    · refine settled_writeMembers column (settled_write (some column) true ?_ v) rest
      exact (((there.mark _ _ _ _).text _ _ _).indentTo column).mark _ _ _ _

end

/-- Going to the first column ends the line that was begun. -/
theorem last_of_indentTo_zero {p : Pen} (settled : p.Settled) :
    ∀ c ∈ (p.indentTo 0).written.head?, isBreak c = true := by
  unfold Pen.indentTo
  simp only [Nat.zero_sub, List.replicate_zero]
  split
  · rintro c member
    obtain rfl : '\n' = c := Option.some.inj member
    decide
  · next stays =>
    have first : p.column = 0 := by
      simp only [Bool.or_eq_true, not_or, decide_eq_true_eq, Nat.not_lt, Nat.le_zero] at stays
      exact stays.1.2
    exact settled first

/-- A printed document ends with the end of a line, if anything has been printed. -/
theorem last_render (v : Json) : ∀ c ∈ (render v).toList.getLast?, isBreak c = true := by
  have settled : (write none false .start v).Settled := settled_write none false (by simp [Pen.Settled, Pen.start]) v
  rw [render, String.toList_ofList, List.getLast?_reverse]
  exact last_of_indentTo_zero settled

end Rollback.Yaml
