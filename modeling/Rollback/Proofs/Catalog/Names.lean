import Rollback.Proofs.Catalog.Lookup
import Rollback.Proofs.Text.Cut
import Rollback.Proofs.Text.LowerCase

/-! What a name can mean. A name with a dot is a resource's own name and its group, with the version
between them or without, and nothing else. A name without dot is a short name, or else the own name of
a resource, of which the one counts whose group stands highest. -/
namespace Rollback

open Text

namespace Resource

/-- The text is `name.group`, which means the resource at the preferred version. -/
def GroupQualified (r : Resource) (text : String) : Prop :=
  r.preferred = true ∧ ∃ name, r.hasName name = true ∧ text = name ++ "." ++ r.group

/-- The text is `name.version.group`. The group is what follows the second dot, so that a version which
has a dot itself cannot be named. -/
def VersionQualified (r : Resource) (text : String) : Prop :=
  '.' ∉ r.version.toList ∧
    ∃ name, r.hasName name = true ∧ text = name ++ "." ++ r.version ++ "." ++ r.group

/-- The text is a short name that stands for the group and plural of the resource. -/
def Abbreviated (r : Resource) (text : String) : Prop :=
  r.preferred = true ∧ ∃ s ∈ shortNames, s.short = text ∧ r.group = s.group ∧ r.plural = s.plural

/-- The text is the resource's own name. -/
def Bare (r : Resource) (text : String) : Prop := r.preferred = true ∧ r.hasName text = true

/-- No name of the resource has a dot. -/
def Undotted (r : Resource) : Prop := '.' ∉ r.plural.toList ∧ '.' ∉ r.kind.toList

instance (r : Resource) : Decidable r.Undotted := inferInstanceAs (Decidable (_ ∧ _))

variable {r : Resource} {name : String}

theorem dot_beforeLetters : BeforeLetters '.' := ⟨by decide, by decide⟩

theorem Undotted.not_mem_name (undotted : r.Undotted) (named : r.hasName name = true) :
    '.' ∉ name.toList := by
  simp only [hasName, Bool.or_eq_true, beq_iff_eq] at named
  rcases named with rfl | rfl
  · exact undotted.1
  · rw [mem_lowerCase dot_beforeLetters]
    exact undotted.2

end Resource

namespace Catalog

open Resource

variable {c : Catalog} {fits : Resource → Prop} {text name rest : String}

/-- One of the resources that fit has been found, if there is any. -/
def Finds (c : Catalog) (fits : Resource → Prop) : Option Resource → Prop
  | some r => r ∈ c.entries ∧ fits r
  | none => ∀ r ∈ c.entries, ¬ fits r

namespace Finds

theorem of_find? {p : Resource → Bool} (agrees : ∀ r ∈ c.entries, p r = true ↔ fits r) :
    c.Finds fits (c.entries.find? p) := by
  cases found : c.entries.find? p with
  | none =>
    intro r member meant
    exact List.find?_eq_none.mp found r member ((agrees r member).mpr meant)
  | some r =>
    have member := List.mem_of_find?_eq_some found
    exact ⟨member, (agrees r member).mp (List.find?_some found)⟩

theorem of_preferred {p : Resource → Bool}
    (agrees : ∀ r ∈ c.entries, r.preferred = true ∧ p r = true ↔ fits r) :
    c.Finds fits (c.preferred.find? p) := by
  rw [preferred, List.find?_filter]
  apply of_find?
  intro r member
  rw [decide_eq_true_eq]
  exact agrees r member

end Finds

theorem finds_inGroup? (undotted : ∀ r ∈ c.entries, r.Undotted) (cut : cut '.' text = some (name, rest)) :
    c.Finds (·.GroupQualified text) (c.inGroup? name rest) := by
  obtain ⟨absent, whole⟩ := cut_eq_some.mp cut
  apply Finds.of_preferred
  intro r member
  rw [decide_eq_true_eq]
  constructor
  · rintro ⟨preferred, rfl, named⟩
    exact ⟨preferred, name, named, by simp [← String.toList_inj, whole]⟩
  · rintro ⟨preferred, own, named, rfl⟩
    have parts : own.toList ++ '.' :: r.group.toList = name.toList ++ '.' :: rest.toList := by
      simpa using whole
    obtain ⟨sameName, sameGroup⟩ :=
      append_cons_inj ((undotted r member).not_mem_name named) absent parts
    obtain rfl := String.toList_inj.mp sameName
    exact ⟨preferred, String.toList_inj.mp sameGroup, named⟩

theorem finds_atVersion? (undotted : ∀ r ∈ c.entries, r.Undotted)
    (first : cut '.' text = some (name, rest)) :
    c.Finds (·.VersionQualified text) (c.atVersion? name rest) := by
  obtain ⟨absent, whole⟩ := cut_eq_some.mp first
  -- What follows the own name of a resource is what follows the first dot.
  have parts {r : Resource} (member : r ∈ c.entries) {own : String} (named : r.hasName own = true)
      (spelled : text = own ++ "." ++ r.version ++ "." ++ r.group) :
      own = name ∧ rest.toList = r.version.toList ++ '.' :: r.group.toList := by
    have same : own.toList ++ '.' :: (r.version.toList ++ '.' :: r.group.toList) =
        name.toList ++ '.' :: rest.toList := by
      rw [← whole, spelled]
      simp
    obtain ⟨sameName, sameRest⟩ :=
      append_cons_inj ((undotted r member).not_mem_name named) absent same
    exact ⟨String.toList_inj.mp sameName, sameRest.symm⟩
  unfold atVersion?
  cases second : cut '.' rest with
  | none =>
    rintro r member ⟨-, own, named, spelled⟩
    obtain ⟨-, dotted⟩ := parts member named spelled
    exact cut_eq_none.mp second (by simp [dotted])
  | some qualifier =>
    obtain ⟨version, group⟩ := qualifier
    obtain ⟨absent', whole'⟩ := cut_eq_some.mp second
    apply Finds.of_find?
    intro r member
    rw [decide_eq_true_eq]
    constructor
    · rintro ⟨rfl, rfl, named⟩
      exact ⟨absent', name, named, by simp [← String.toList_inj, whole, whole']⟩
    · rintro ⟨plain, own, named, spelled⟩
      obtain ⟨rfl, dotted⟩ := parts member named spelled
      obtain ⟨sameVersion, sameGroup⟩ := append_cons_inj plain absent' (dotted.symm.trans whole')
      exact ⟨String.toList_inj.mp sameVersion, String.toList_inj.mp sameGroup, named⟩

theorem not_mem_short : ∀ s ∈ shortNames, '.' ∉ s.short.toList := by decide

theorem shortNames_inj : ∀ s ∈ shortNames, ∀ t ∈ shortNames, s.short = t.short →
    s.group = t.group ∧ s.plural = t.plural := by decide

theorem finds_ofShortName? (c : Catalog) (text : String) :
    c.Finds (·.Abbreviated text) (c.ofShortName? text) := by
  unfold ofShortName?
  cases known : shortNames.find? (·.short = text) with
  | none =>
    rintro r member ⟨-, s, listed, short, -⟩
    exact List.find?_eq_none.mp known s listed (decide_eq_true short)
  | some s =>
    have listed := List.mem_of_find?_eq_some known
    have short : s.short = text := by simpa using List.find?_some known
    apply Finds.of_preferred
    intro r member
    rw [decide_eq_true_eq]
    constructor
    · rintro ⟨preferred, group, plural⟩
      exact ⟨preferred, s, listed, short, group, plural⟩
    · rintro ⟨preferred, t, listed', short', group, plural⟩
      obtain ⟨sameGroup, samePlural⟩ := shortNames_inj t listed' s listed (short'.trans short.symm)
      exact ⟨preferred, group.trans sameGroup, plural.trans samePlural⟩

theorem ofShortName?_of_dotted (c : Catalog) (dotted : '.' ∈ text.toList) :
    c.ofShortName? text = none := by
  have finds := finds_ofShortName? c text
  cases found : c.ofShortName? text with
  | none => rfl
  | some r =>
    rw [found] at finds
    obtain ⟨-, -, s, listed, rfl, -⟩ := finds
    exact absurd dotted (not_mem_short s listed)

theorem mem_named {r : Resource} :
    r ∈ c.preferred.filter (·.hasName text) ↔ r ∈ c.entries ∧ r.Bare text := by
  rw [preferred, List.mem_filter, List.mem_filter, Bare, and_assoc]

theorem finds_ofBareName? (c : Catalog) (text : String) :
    c.Finds (·.Bare text) (c.ofBareName? text) := by
  unfold ofBareName?
  cases found : best (c.preferred.filter (·.hasName text)) with
  | none =>
    intro r member meant
    have inside := mem_named.mpr ⟨member, meant⟩
    rw [best_eq_none.mp found] at inside
    cases inside
  | some r => exact mem_named.mp (mem_of_best found)

theorem search_dotted (undotted : ∀ r ∈ c.entries, r.Undotted) (dotted : '.' ∈ text.toList) :
    ∃ name rest, cut '.' text = some (name, rest) ∧
      c.search text = (c.atVersion? name rest).or (c.inGroup? name rest) := by
  -- No short name and no resource's own name has a dot, so that only a qualified name is left.
  have short : c.ofShortName? text = none := ofShortName?_of_dotted c dotted
  have bare : c.ofBareName? text = none := by
    have finds := finds_ofBareName? c text
    cases found : c.ofBareName? text with
    | none => rfl
    | some r =>
      rw [found] at finds
      exact absurd dotted ((undotted r finds.1).not_mem_name finds.2.2)
  cases parts : cut '.' text with
  | none => exact absurd dotted (cut_eq_none.mp parts)
  | some halves =>
    refine ⟨halves.1, halves.2, rfl, ?_⟩
    rw [search_eq, short, bare, Option.none_or, Option.or_none, ofQualifiedName?_of_cut parts]

theorem search_undotted (plain : '.' ∉ text.toList) :
    c.search text = (c.ofShortName? text).or (c.ofBareName? text) := by
  rw [search_eq, ofQualifiedName?_of_uncut (cut_eq_none.mpr plain), Option.none_or]

/-- What is found first counts, and only if there is none what is found second. -/
theorem Finds.or {fits' : Resource → Prop} {found found' : Option Resource}
    (first : c.Finds fits found) (second : c.Finds fits' found') :
    (∀ r, found.or found' = some r → r ∈ c.entries ∧
      (fits r ∨ (found' = some r ∧ fits' r) ∧ ∀ e ∈ c.entries, ¬ fits e)) ∧
      (found.or found' = none ↔ ∀ e ∈ c.entries, ¬ fits e ∧ ¬ fits' e) := by
  cases found with
  | some r =>
    constructor
    · intro chosen same
      obtain rfl := Option.some.inj same
      exact ⟨first.1, .inl first.2⟩
    · constructor
      · intro nothing
        cases nothing
      · intro none
        exact absurd first.2 (none r first.1).1
  | none =>
    rw [Option.none_or]
    constructor
    · rintro chosen rfl
      exact ⟨second.1, .inr ⟨⟨rfl, second.2⟩, first⟩⟩
    · constructor
      · rintro rfl e member
        exact ⟨first e member, second e member⟩
      · intro none
        cases found' with
        | none => rfl
        | some r => exact absurd second.2 (none r second.1).2

/-- A name with a dot means a resource that it names together with its version and its group, or else
one that it names with its group alone. A name without dot means the resource that it is short for, or
else of all that have the name one that stands highest. There is an answer whenever any of these
readings fits. -/
theorem resolve_readings (undotted : ∀ r ∈ c.entries, r.Undotted) (input : String) :
    ('.' ∈ input.toList →
      (∀ r, c.resolve input = .ok r → r ∈ c.entries ∧
        (r.VersionQualified (lowerCase input) ∨
          r.GroupQualified (lowerCase input) ∧
            ∀ e ∈ c.entries, ¬ e.VersionQualified (lowerCase input))) ∧
      ((∃ fault, c.resolve input = .error fault) ↔ ∀ e ∈ c.entries,
        ¬ e.VersionQualified (lowerCase input) ∧ ¬ e.GroupQualified (lowerCase input))) ∧
    ('.' ∉ input.toList →
      (∀ r, c.resolve input = .ok r → r ∈ c.entries ∧
        (r.Abbreviated (lowerCase input) ∨
          (r.Bare (lowerCase input) ∧
            ∀ e ∈ c.entries, e.Bare (lowerCase input) → r.standing ≤ e.standing) ∧
              ∀ e ∈ c.entries, ¬ e.Abbreviated (lowerCase input))) ∧
      ((∃ fault, c.resolve input = .error fault) ↔ ∀ e ∈ c.entries,
        ¬ e.Abbreviated (lowerCase input) ∧ ¬ e.Bare (lowerCase input))) := by
  have fails : (∃ fault, c.resolve input = .error fault) ↔ c.search (lowerCase input) = none := by
    simp [resolve_eq_error]
  simp only [fails, resolve_eq_ok, ← mem_lowerCase dot_beforeLetters input]
  constructor
  · intro dotted
    obtain ⟨name, rest, parts, search⟩ := search_dotted undotted dotted
    obtain ⟨found, none⟩ := (finds_atVersion? undotted parts).or (finds_inGroup? undotted parts)
    rw [search]
    refine ⟨?_, none⟩
    intro r chosen
    obtain ⟨member, version | ⟨⟨-, group⟩, noVersion⟩⟩ := found r chosen
    · exact ⟨member, .inl version⟩
    · exact ⟨member, .inr ⟨group, noVersion⟩⟩
  · intro plain
    obtain ⟨found, none⟩ := (finds_ofShortName? c (lowerCase input)).or (finds_ofBareName? c _)
    rw [search_undotted plain]
    refine ⟨?_, none⟩
    intro r chosen
    obtain ⟨member, short | ⟨⟨best, bare⟩, noShort⟩⟩ := found r chosen
    · exact ⟨member, .inl short⟩
    · refine ⟨member, .inr ⟨⟨bare, ?_⟩, noShort⟩⟩
      intro e listed named
      exact standing_le_of_best best (mem_named.mpr ⟨listed, named⟩)

end Catalog

/-! Stateful sets of two groups, one of them at two versions, and a resource whose version has a dot. -/
namespace Named

def resource (group version kind plural : String) (preferred : Bool) : Resource :=
  ⟨group, version, kind, plural, group ++ "/" ++ version, true, preferred, ["get"]⟩

def builtIn : Resource := resource "apps" "v1" "StatefulSet" "statefulsets" true

def advanced : Resource := resource "apps.kruise.io" "v1beta1" "StatefulSet" "statefulsets" true

def older : Resource := resource "apps.kruise.io" "v1alpha1" "StatefulSet" "statefulsets" false

def sets : Catalog := ⟨[advanced, older, builtIn]⟩

def widgets : Resource := resource "example.com" "v1.2" "Widget" "widgets" true

end Named

theorem resolve_readings_sets :
    (∀ r ∈ Named.sets.entries, r.Undotted) ∧ '.' ∈ "StatefulSet.v1alpha1.apps.kruise.io".toList ∧
      '.' ∉ "statefulset".toList ∧
      (Named.older ∈ Named.sets.entries ∧
        (Named.older.VersionQualified (lowerCase "StatefulSet.v1alpha1.apps.kruise.io") ∨
          Named.older.GroupQualified (lowerCase "StatefulSet.v1alpha1.apps.kruise.io") ∧
            ∀ e ∈ Named.sets.entries,
              ¬ e.VersionQualified (lowerCase "StatefulSet.v1alpha1.apps.kruise.io"))) ∧
      (Named.builtIn ∈ Named.sets.entries ∧
        (Named.builtIn.Abbreviated (lowerCase "statefulset") ∨
          (Named.builtIn.Bare (lowerCase "statefulset") ∧ ∀ e ∈ Named.sets.entries,
            e.Bare (lowerCase "statefulset") → Named.builtIn.standing ≤ e.standing) ∧
            ∀ e ∈ Named.sets.entries, ¬ e.Abbreviated (lowerCase "statefulset"))) := by
  have undotted : ∀ r ∈ Named.sets.entries, r.Undotted := by decide
  have dotted : '.' ∈ "StatefulSet.v1alpha1.apps.kruise.io".toList := by decide
  have plain : '.' ∉ "statefulset".toList := by decide
  refine ⟨undotted, dotted, plain, ?_, ?_⟩
  · exact ((Catalog.resolve_readings undotted _).1 dotted).1 Named.older (by decide +kernel)
  · exact ((Catalog.resolve_readings undotted _).2 plain).1 Named.builtIn (by decide +kernel)

/-- A version that has a dot itself is not read as one: the name of a resource with its version and its
group can mean nothing. -/
theorem version_unread :
    (∀ r ∈ (Catalog.mk [Named.widgets]).entries, r.Undotted) ∧
      '.' ∈ "widget.v1.2.example.com".toList ∧ Named.widgets.hasName "widget" = true ∧
      lowerCase "widget.v1.2.example.com" =
        "widget" ++ "." ++ Named.widgets.version ++ "." ++ Named.widgets.group ∧
      (Catalog.mk [Named.widgets]).resolve "widget.v1.2.example.com" =
        .error (.unknownType "widget.v1.2.example.com") := by
  decide +kernel

end Rollback
