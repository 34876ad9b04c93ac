import Rollback.Proofs.Text.Cut
import Rollback.Proofs.Text.Pieces
import Rollback.Workload.Gvk

/-! What an `apiVersion` text stands for. A type that is written comes back when it is read, and a text that
is read comes back when it is written, but for a slash in front of a version of the core group. So such a
version has two texts, and every other group and version has one. -/
namespace Rollback.ApiVersion

/-- A text stands for a group and a version. The core group, whose name is empty, may be left out with its
slash or stand in front of it. -/
inductive Denotes : String → String → String → Prop where
  | bare {version : String} (filled : version ≠ "") (plain : '/' ∉ version.toList) :
      Denotes version "" version
  | slashed {group version : String} (filled : version ≠ "") (plain : '/' ∉ version.toList)
      (plainGroup : '/' ∉ group.toList) : Denotes (group ++ "/" ++ version) group version

/-- What is wrong with a text that stands for nothing. -/
inductive Refused : String → ApiVersionFault → Prop where
  | empty : Refused "" .empty
  | manySlashes {text : String} (many : 1 < text.toList.count '/') : Refused text .tooManySlashes
  | noVersion {group : String} (plain : '/' ∉ group.toList) : Refused (group ++ "/") .noVersion

/-- There is at most one slash, something stands after it, and without one something stands there. -/
structure WellFormed (text : String) : Prop where
  single : text.toList.count '/' ≤ 1
  versioned : ∀ group version, text = group ++ "/" ++ version → version ≠ ""
  filled : '/' ∉ text.toList → text ≠ ""

variable {text text' group group' version version' : String} {fault : ApiVersionFault}

theorem Denotes.filled (denotes : Denotes text group version) : version ≠ "" := by
  cases denotes <;> assumption

theorem Denotes.plain (denotes : Denotes text group version) :
    '/' ∉ group.toList ∧ '/' ∉ version.toList := by
  cases denotes with
  | bare _ plain => exact ⟨by simp, plain⟩
  | slashed _ plain plainGroup => exact ⟨plainGroup, plain⟩

theorem splitAt_bare (plain : '/' ∉ version.toList) : Text.splitAt '/' version = [version] :=
  Text.splitAt_eq_iff.mpr ⟨by simp, by simpa using plain, by simp⟩

theorem splitAt_slashed (plainGroup : '/' ∉ group.toList) (plain : '/' ∉ version.toList) :
    Text.splitAt '/' (group ++ "/" ++ version) = [group, version] := by
  refine Text.splitAt_eq_iff.mpr ⟨by simp, by simp [plainGroup, plain], ?_⟩
  simp

theorem slashed_ne_empty (group version : String) : group ++ "/" ++ version ≠ "" := by
  intro none
  have chars := congrArg String.toList none
  simp at chars

theorem count_slashed (group version : String) : (group ++ "/" ++ version).toList.count '/' =
    group.toList.count '/' + version.toList.count '/' + 1 := by
  simp
  omega

/-- What stands before the first slash of a text and what stands after it can be told from the text. -/
theorem slashed_inj (plainGroup : '/' ∉ group.toList) (plainGroup' : '/' ∉ group'.toList)
    (same : group ++ "/" ++ version = group' ++ "/" ++ version') :
    group = group' ∧ version = version' := by
  have chars := congrArg String.toList same
  simp only [String.toList_append, List.append_assoc] at chars
  obtain ⟨groups, versions⟩ := Text.append_cons_inj plainGroup plainGroup' chars
  exact ⟨String.toList_inj.mp groups, String.toList_inj.mp versions⟩

theorem parse_of_denotes (denotes : Denotes text group version) :
    parseApiVersion text = .ok (group, version) := by
  cases denotes with
  | bare filled plain =>
    rw [parseApiVersion, if_neg filled, splitAt_bare plain]
    exact if_neg filled
  | slashed filled plain plainGroup =>
    rw [parseApiVersion, if_neg (slashed_ne_empty group version), splitAt_slashed plainGroup plain]
    exact if_neg filled

theorem parse_of_refused (refused : Refused text fault) : parseApiVersion text = .error fault := by
  cases refused with
  | empty => rfl
  | manySlashes many =>
    have filled : text ≠ "" := by
      rintro rfl
      exact absurd many (by decide)
    have length : (Text.splitAt '/' text).length = text.toList.count '/' + 1 := Text.length_splitAt text
    rw [parseApiVersion, if_neg filled]
    split
    · next found =>
      rw [found, List.length_singleton] at length
      omega
    · next found =>
      rw [found, List.length_cons, List.length_singleton] at length
      omega
    · rfl
  | @noVersion group plain =>
    have filled := slashed_ne_empty group ""
    have pieces : Text.splitAt '/' (group ++ "/" ++ "") = [group, ""] := splitAt_slashed plain (by simp)
    rw [String.append_empty] at filled pieces
    rw [parseApiVersion, if_neg filled, pieces]
    rfl

/-- Every text stands for something or is refused for a reason. -/
theorem denotes_or_refused (text : String) :
    (∃ group version, Denotes text group version) ∨ ∃ fault, Refused text fault := by
  by_cases many : 1 < text.toList.count '/'
  · exact .inr ⟨_, .manySlashes many⟩
  cases cut : Text.cut '/' text with
  | none =>
    have plain := Text.cut_eq_none.mp cut
    by_cases filled : text = ""
    · subst filled
      exact .inr ⟨_, .empty⟩
    · exact .inl ⟨_, _, .bare filled plain⟩
  | some parts =>
    obtain ⟨group, version⟩ := parts
    obtain ⟨plainGroup, chars⟩ := Text.cut_eq_some.mp cut
    obtain rfl : text = group ++ "/" ++ version := by
      rw [← String.toList_inj, chars]
      simp
    by_cases filled : version = ""
    · subst filled
      rw [String.append_empty]
      exact .inr ⟨_, .noVersion plainGroup⟩
    · have plain : '/' ∉ version.toList := by
        rw [count_slashed] at many
        exact List.count_eq_zero.mp (by omega)
      exact .inl ⟨_, _, .slashed filled plain plainGroup⟩

theorem parse_eq_ok : parseApiVersion text = .ok (group, version) ↔ Denotes text group version := by
  refine ⟨fun parsed => ?_, parse_of_denotes⟩
  obtain ⟨group', version', denotes⟩ | ⟨fault, refused⟩ := denotes_or_refused text
  · rw [parse_of_denotes denotes] at parsed
    cases parsed
    exact denotes
  · rw [parse_of_refused refused] at parsed
    cases parsed

theorem parse_eq_error : parseApiVersion text = .error fault ↔ Refused text fault := by
  refine ⟨fun failed => ?_, parse_of_refused⟩
  obtain ⟨group, version, denotes⟩ | ⟨fault', refused⟩ := denotes_or_refused text
  · rw [parse_of_denotes denotes] at failed
    cases failed
  · rw [parse_of_refused refused] at failed
    cases failed
    exact refused

theorem WellFormed.not_refused (formed : WellFormed text) : ¬ Refused text fault := by
  intro refused
  cases refused with
  | empty => exact formed.filled (by simp) rfl
  | manySlashes many => exact absurd formed.single (by omega)
  | @noVersion group plain => exact formed.versioned group "" (by simp) rfl

theorem Denotes.wellFormed (denotes : Denotes text group version) : WellFormed text := by
  cases denotes with
  | bare filled plain =>
    have none := List.count_eq_zero.mpr plain
    refine ⟨by omega, ?_, fun _ => filled⟩
    rintro group version rfl
    exact absurd (by simp) plain
  | slashed filled plain plainGroup =>
    have one := count_slashed group version
    rw [List.count_eq_zero.mpr plainGroup, List.count_eq_zero.mpr plain] at one
    refine ⟨by omega, ?_, fun _ => slashed_ne_empty group version⟩
    intro group' version' same
    -- With a single slash there is only one way to take the text apart.
    have plainGroup' : '/' ∉ group'.toList := by
      rw [same, count_slashed] at one
      exact List.count_eq_zero.mp (by omega)
    obtain ⟨-, rfl⟩ := slashed_inj plainGroup plainGroup' same
    exact filled

theorem exists_parse_iff : (∃ type, parseApiVersion text = .ok type) ↔ WellFormed text := by
  constructor
  · rintro ⟨⟨group, version⟩, parsed⟩
    exact (parse_eq_ok.mp parsed).wellFormed
  · intro formed
    obtain ⟨group, version, denotes⟩ | ⟨fault, refused⟩ := denotes_or_refused text
    · exact ⟨_, parse_of_denotes denotes⟩
    · exact absurd refused formed.not_refused

theorem denotes_render (filled : version ≠ "") (plain : '/' ∉ version.toList)
    (plainGroup : '/' ∉ group.toList) : Denotes (renderApiVersion group version) group version := by
  unfold renderApiVersion
  split
  · next core =>
    subst core
    exact .bare filled plain
  · exact .slashed filled plain plainGroup

theorem render_of_denotes (denotes : Denotes text group version) :
    text = renderApiVersion group version ∨
      group = "" ∧ text = "/" ++ renderApiVersion group version := by
  cases denotes with
  | bare => exact .inl rfl
  | slashed =>
    by_cases core : group = ""
    · subst core
      exact .inr ⟨rfl, by simp [renderApiVersion]⟩
    · exact .inl (if_neg core).symm

/-- A slash in front makes no difference where it is allowed. -/
theorem Denotes.of_slash (denotes : Denotes ("/" ++ text) group version) :
    Denotes text group version := by
  generalize same : "/" ++ text = whole at denotes
  cases denotes with
  | bare _ plain =>
    subst same
    exact absurd (by simp) plain
  | slashed filled plain plainGroup =>
    -- A slash in front of a text stands for the empty name of the core group and the slash after it.
    rw [← String.empty_append (s := "/")] at same
    obtain ⟨rfl, rfl⟩ := slashed_inj (by simp) plainGroup same
    exact .bare filled plain

theorem Denotes.unique (denotes : Denotes text group version)
    (denotes' : Denotes text group' version') : group = group' ∧ version = version' := by
  have parsed := parse_of_denotes denotes
  rw [parse_of_denotes denotes'] at parsed
  cases parsed
  exact ⟨rfl, rfl⟩

theorem same_type_iff (denotes : Denotes text group version)
    (denotes' : Denotes text' group' version') : group = group' ∧ version = version' ↔
      text = text' ∨ text = "/" ++ text' ∨ text' = "/" ++ text := by
  constructor
  · rintro ⟨rfl, rfl⟩
    rcases render_of_denotes denotes with rfl | ⟨-, rfl⟩ <;>
      rcases render_of_denotes denotes' with rfl | ⟨-, rfl⟩ <;> simp
  · rintro (rfl | rfl | rfl)
    · exact denotes.unique denotes'
    · exact denotes.of_slash.unique denotes'
    · exact denotes.unique denotes'.of_slash

/-- A type with a version and without slashes comes back when it is written and read. A text is read just
when it is well formed, and else refused for what is wrong with it. What is read has a version and no slash
in its parts, and written again it is the text, but for a slash in front of a version of the core group. So
two texts are read as the same group and version just when they are the same but for such a slash. -/
theorem parse_inverts (type : Gvk) (text : String) :
    ('/' ∉ type.group.toList → '/' ∉ type.version.toList → type.version ≠ "" →
      Gvk.ofApiVersion type.apiVersion type.kind = .ok type) ∧
    ((∃ parts, parseApiVersion text = .ok parts) ↔ WellFormed text) ∧
    (∀ fault, parseApiVersion text = .error fault ↔ Refused text fault) ∧
    ∀ group version, parseApiVersion text = .ok (group, version) →
      '/' ∉ group.toList ∧ '/' ∉ version.toList ∧ version ≠ "" ∧
        (text = renderApiVersion group version ∨
          group = "" ∧ text = "/" ++ renderApiVersion group version) ∧
        ∀ text' group' version', parseApiVersion text' = .ok (group', version') →
          (group = group' ∧ version = version' ↔
            text = text' ∨ text = "/" ++ text' ∨ text' = "/" ++ text) := by
  refine ⟨?_, exists_parse_iff, fun _ => parse_eq_error, ?_⟩
  · intro plainGroup plain filled
    rw [Gvk.ofApiVersion, Gvk.apiVersion, parse_of_denotes (denotes_render filled plain plainGroup)]
    rfl
  · intro group version parsed
    have denotes := parse_eq_ok.mp parsed
    refine ⟨denotes.plain.1, denotes.plain.2, denotes.filled, render_of_denotes denotes, ?_⟩
    intro text' group' version' parsed'
    exact same_type_iff denotes (parse_eq_ok.mp parsed')

theorem parse_inverts_core :
    '/' ∉ "apps".toList ∧ '/' ∉ "v1".toList ∧ "v1" ≠ "" ∧
      parseApiVersion "v1" = .ok ("", "v1") ∧ parseApiVersion "/v1" = .ok ("", "v1") ∧
      Gvk.ofApiVersion (Gvk.apiVersion ⟨"apps", "v1", "Deployment"⟩) "Deployment" =
        .ok ⟨"apps", "v1", "Deployment"⟩ ∧
      ("/v1" = renderApiVersion "" "v1" ∨ "" = "" ∧ "/v1" = "/" ++ renderApiVersion "" "v1") ∧
      ("/v1" = "v1" ∨ "/v1" = "/" ++ "v1" ∨ "v1" = "/" ++ "/v1") := by
  obtain ⟨inverse, -, -, read⟩ := parse_inverts ⟨"apps", "v1", "Deployment"⟩ "/v1"
  have plainGroup : '/' ∉ "apps".toList := by decide
  have plain : '/' ∉ "v1".toList := by decide
  have filled : "v1" ≠ "" := by decide
  have bare : parseApiVersion "v1" = .ok ("", "v1") := rfl
  have slashed : parseApiVersion "/v1" = .ok ("", "v1") := rfl
  obtain ⟨-, -, -, written, same⟩ := read "" "v1" slashed
  refine ⟨plainGroup, plain, filled, bare, slashed, inverse plainGroup plain filled, written, ?_⟩
  exact (same "v1" "" "v1" bare).mp ⟨rfl, rfl⟩

end Rollback.ApiVersion
