import Rollback.Proofs.Text.Cut
import Mathlib.Data.List.Basic
import Mathlib.Tactic.Tauto

/-! Conditions on labels in one line, which can be read in one way only. They are separated by commas, and
so are the values inside the parentheses of a condition; but a key ends at the first mark, a plain value
at the first comma and a list of values at the first closing parenthesis, so that the text determines the
conditions one after the other. -/
namespace Rollback.LabelSelector

/-- What is asked of the label of a key. -/
inductive Test where
  | equals (value : String)
  | isIn (values : List String)
  | notIn (values : List String)
  | present
  | absent

structure Condition where
  key : String
  test : Test

def listed (values : List String) : List Char := [','].intercalate (values.map String.toList)

namespace Test

/-- What stands before the key. -/
def opening : Test → List Char
  | .absent => ['!']
  | _ => []

/-- What stands after the key. -/
def body : Test → List Char
  | .equals value => '=' :: value.toList
  | .isIn values => ' ' :: 'i' :: 'n' :: ' ' :: '(' :: (listed values ++ [')'])
  | .notIn values =>
    ' ' :: 'n' :: 'o' :: 't' :: 'i' :: 'n' :: ' ' :: '(' :: (listed values ++ [')'])
  | .present | .absent => []

end Test

def Condition.chars (c : Condition) : List Char := c.test.opening ++ (c.key.toList ++ c.test.body)

/-- None of the marks stands in the text. -/
def Unmarked (marks : List Char) (text : String) : Prop := ∀ c ∈ text.toList, c ∉ marks

-- The quantifier is decided over the letters of the text, not over all letters there are.
instance (marks : List Char) (text : String) : Decidable (Unmarked marks text) :=
  List.decidableBAll _ _

/-- A key with something in it and without marks. Of white space it is the blank that could be misread. -/
structure AdmittedKey (key : String) : Prop where
  nonempty : key ≠ ""
  unmarked : Unmarked [',', '=', '!', '(', ')', ' '] key

instance (key : String) : Decidable (AdmittedKey key) :=
  decidable_of_iff (key ≠ "" ∧ Unmarked [',', '=', '!', '(', ')', ' '] key)
    ⟨fun plain => ⟨plain.1, plain.2⟩, fun plain => ⟨plain.nonempty, plain.unmarked⟩⟩

/-- A value without marks. It may be empty, and an exclamation mark is none here. -/
def AdmittedValue (value : String) : Prop := Unmarked [',', '=', '(', ')', ' '] value

instance (value : String) : Decidable (AdmittedValue value) := inferInstanceAs (Decidable (Unmarked _ _))

def AdmittedValues (values : List String) : Prop := values ≠ [] ∧ ∀ value ∈ values, AdmittedValue value

instance (values : List String) : Decidable (AdmittedValues values) := inferInstanceAs (Decidable (_ ∧ _))

def Test.Admitted : Test → Prop
  | .equals value => AdmittedValue value
  | .isIn values | .notIn values => AdmittedValues values
  | .present | .absent => True

structure Condition.Admitted (c : Condition) : Prop where
  key : AdmittedKey c.key
  test : c.test.Admitted

theorem not_mem_listed {mark : Char} {values : List String} (between : mark ≠ ',')
    (unmarked : ∀ value ∈ values, mark ∉ value.toList) : mark ∉ listed values := by
  induction values with
  | nil => exact List.not_mem_nil
  | cons value rest ih =>
    obtain ⟨first, others⟩ := List.forall_mem_cons.mp unmarked
    cases rest with
    | nil => simpa [listed] using first
    | cons next rest =>
      have later := ih others
      simp only [listed, List.map_cons, List.intercalate_cons_cons, List.mem_append,
        List.mem_singleton] at later ⊢
      simp [first, between, later]

theorem listed_inj {values values' : List String} (plain : AdmittedValues values)
    (plain' : AdmittedValues values') (same : listed values = listed values') : values = values' := by
  have pieces {values : List String} (plain : AdmittedValues values) :
      (listed values).splitOn ',' = values.map String.toList := by
    apply List.splitOn_intercalate
    · intro text member
      obtain ⟨value, inside, rfl⟩ := List.mem_map.mp member
      intro comma
      exact plain.2 value inside ',' comma (by simp)
    · simpa using plain.1
  have texts := pieces plain
  rw [same, pieces plain'] at texts
  exact (List.map_injective_iff.mpr fun _ _ => String.toList_inj.mp) texts.symm

theorem listed_append_inj {values values' : List String} {rest rest' : List Char}
    (plain : AdmittedValues values) (plain' : AdmittedValues values')
    (same : listed values ++ ')' :: rest = listed values' ++ ')' :: rest') :
    values = values' ∧ rest = rest' := by
  -- The first closing parenthesis ends a list, as there is none inside.
  have closed {values : List String} (plain : AdmittedValues values) : ')' ∉ listed values :=
    not_mem_listed (by decide) fun value inside closing => plain.2 value inside ')' closing (by simp)
  obtain ⟨texts, following⟩ := Text.append_cons_inj (closed plain) (closed plain') same
  exact ⟨listed_inj plain plain' texts, following⟩

/-- What may follow a condition: nothing, or a comma. -/
def Ends (rest : List Char) : Prop := ∀ c ∈ rest.head?, c = ','

theorem not_ends {c : Char} {more rest : List Char} (begins : c :: more = rest) (other : c ≠ ',') :
    ¬ Ends rest := by
  subst begins
  exact fun ends => other (ends c rfl)

variable {rest rest' : List Char}

theorem value_append_inj {value value' : String} (plain : AdmittedValue value)
    (plain' : AdmittedValue value') (ends : Ends rest) (ends' : Ends rest')
    (same : value.toList ++ rest = value'.toList ++ rest') : value = value' ∧ rest = rest' := by
  have unmarked {value : String} (plain : AdmittedValue value) : ∀ c ∈ value.toList, c ≠ ',' := by
    rintro c inside rfl
    exact plain _ inside (by simp)
  obtain ⟨texts, following⟩ := Text.append_inj_of_stop (unmarked plain) (unmarked plain')
    (fun c first => not_not.mpr (ends c first)) (fun c first => not_not.mpr (ends' c first)) same
  exact ⟨String.toList_inj.mp texts, following⟩

theorem Test.stops (t : Test) (ends : Ends rest) :
    ∀ c ∈ (t.body ++ rest).head?, c ∈ [',', '=', ' '] := by
  intro c first
  cases t with
  | equals value =>
    obtain rfl : '=' = c := Option.some.inj first
    decide
  | isIn values | notIn values =>
    obtain rfl : ' ' = c := Option.some.inj first
    decide
  | present | absent =>
    obtain rfl := ends c first
    decide

theorem Test.body_inj {t u : Test} (plain : t.Admitted) (plain' : u.Admitted) (ends : Ends rest)
    (ends' : Ends rest') (openings : t.opening = u.opening) (same : t.body ++ rest = u.body ++ rest') :
    t = u ∧ rest = rest' := by
  -- Different tests begin with different letters; only the two without a body need what stands before
  -- the key.
  cases t with
  | equals value =>
    cases u with
    | equals value' =>
      obtain ⟨rfl, following⟩ := value_append_inj plain plain' ends ends' (List.cons.inj same).2
      exact ⟨rfl, following⟩
    | isIn _ | notIn _ => exact absurd (List.cons.inj same).1 (by decide)
    | present | absent => exact absurd ends' (not_ends same (by decide))
  | isIn values =>
    cases u with
    | isIn values' =>
      obtain ⟨rfl, following⟩ := listed_append_inj plain plain' (by simpa [body] using same)
      exact ⟨rfl, following⟩
    | equals _ => exact absurd (List.cons.inj same).1 (by decide)
    | notIn _ => exact absurd (List.cons.inj (List.cons.inj same).2).1 (by decide)
    | present | absent => exact absurd ends' (not_ends same (by decide))
  | notIn values =>
    cases u with
    | notIn values' =>
      obtain ⟨rfl, following⟩ := listed_append_inj plain plain' (by simpa [body] using same)
      exact ⟨rfl, following⟩
    | equals _ => exact absurd (List.cons.inj same).1 (by decide)
    | isIn _ => exact absurd (List.cons.inj (List.cons.inj same).2).1 (by decide)
    | present | absent => exact absurd ends' (not_ends same (by decide))
  | present =>
    cases u with
    | present => exact ⟨rfl, same⟩
    | absent => cases openings
    | equals _ | isIn _ | notIn _ => exact absurd ends (not_ends same.symm (by decide))
  | absent =>
    cases u with
    | absent => exact ⟨rfl, same⟩
    | _ => cases openings

/-- A key does not begin with the mark of an absent one, so the first letter tells whether that stands
before it. -/
theorem Condition.opening_eq {c : Condition} (plain : c.Admitted) (rest : List Char) :
    c.test.opening = if (c.chars ++ rest).head? = some '!' then ['!'] else [] := by
  have nonempty : c.key.toList ≠ [] := fun empty =>
    plain.key.nonempty (String.toList_eq_nil_iff.mp empty)
  obtain ⟨first, others, key⟩ := List.exists_cons_of_ne_nil nonempty
  have unmarked : first ≠ '!' := by
    rintro rfl
    exact plain.key.unmarked '!' (by simp [key]) (by simp)
  cases test : c.test <;> simp [chars, Test.opening, test, key, unmarked]

theorem Condition.append_inj {c d : Condition} (plain : c.Admitted) (plain' : d.Admitted) (ends : Ends rest)
    (ends' : Ends rest') (same : c.chars ++ rest = d.chars ++ rest') : c = d ∧ rest = rest' := by
  have openings : c.test.opening = d.test.opening := by
    rw [opening_eq plain rest, same, ← opening_eq plain' rest']
  simp only [chars, openings, List.append_assoc] at same
  -- The marks that end a key are none of its letters.
  have stop (t : Test) {rest : List Char} (ends : Ends rest) :
      ∀ a ∈ (t.body ++ rest).head?, ¬ a ∉ [',', '=', '!', '(', ')', ' '] := by
    intro a first
    have mark := t.stops ends a first
    simp only [List.mem_cons, List.not_mem_nil, or_false] at mark ⊢
    tauto
  obtain ⟨keys, bodies⟩ := Text.append_inj_of_stop plain.key.unmarked plain'.key.unmarked
    (stop _ ends) (stop _ ends') (List.append_cancel_left same)
  obtain ⟨tests, following⟩ := Test.body_inj plain.test plain'.test ends ends' openings bodies
  cases c
  cases d
  exact ⟨by simp_all [String.toList_inj], following⟩

def following (conditions : List Condition) : List Char := conditions.flatMap fun c => ',' :: c.chars

theorem ends_following (conditions : List Condition) : Ends (following conditions) := by
  cases conditions with
  | nil => exact nofun
  | cons c rest =>
    rintro a ⟨⟩
    rfl

theorem following_inj {cs ds : List Condition} (plain : ∀ c ∈ cs, c.Admitted)
    (plain' : ∀ d ∈ ds, d.Admitted)
    (same : following cs = following ds) : cs = ds := by
  induction cs generalizing ds with
  | nil =>
    cases ds with
    | nil => rfl
    | cons d ds => cases same
  | cons c cs ih =>
    cases ds with
    | nil => cases same
    | cons d ds =>
      obtain ⟨first, others⟩ := List.forall_mem_cons.mp plain
      obtain ⟨first', others'⟩ := List.forall_mem_cons.mp plain'
      obtain ⟨rfl, rests⟩ := Condition.append_inj first first' (ends_following cs) (ends_following ds)
        (List.cons.inj same).2
      rw [ih others others' rests]

theorem intercalate_chars (c : Condition) (cs : List Condition) :
    [','].intercalate ((c :: cs).map Condition.chars) = c.chars ++ following cs := by
  induction cs generalizing c with
  | nil => simp [following]
  | cons d cs ih =>
    rw [List.map_cons, List.map_cons, List.intercalate_cons_cons, ← List.map_cons, ih]
    simp [following]

/-- Different conditions have different forms. -/
theorem intercalate_inj {cs ds : List Condition} (filled : cs ≠ []) (filled' : ds ≠ [])
    (plain : ∀ c ∈ cs, c.Admitted) (plain' : ∀ d ∈ ds, d.Admitted)
    (same : [','].intercalate (cs.map Condition.chars) = [','].intercalate (ds.map Condition.chars)) :
    cs = ds := by
  obtain ⟨c, cs, rfl⟩ := List.exists_cons_of_ne_nil filled
  obtain ⟨d, ds, rfl⟩ := List.exists_cons_of_ne_nil filled'
  rw [intercalate_chars, intercalate_chars] at same
  apply following_inj plain plain'
  exact congrArg (',' :: ·) same

end Rollback.LabelSelector
