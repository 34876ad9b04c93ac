import Rollback.Manifest.Load
import Rollback.Proofs.Text.Utf8
import Rollback.Server.Session

/-! How much of a manifest is read. One octet more than the limit is taken, so that a manifest that is too
large is told from one that just fits, and the text is the whole manifest or there is none. The exception
is the greatest limit that fits in 64 bits: one more than it does not fit, and the program ends before any
octet has been read. -/
namespace Rollback.Manifest

variable {limit : Nat} {octets : List UInt8} {text : String}

theorem taken_of_lt (below : limit < Text.maxNat64) : taken limit = .ok (limit + 1) := if_pos below

theorem taken_greatest : taken Text.maxNat64 = .error .overflow := if_neg (Nat.lt_irrefl _)

theorem readText_of_length_le (below : limit < Text.maxNat64) (fits : octets.length ≤ limit) :
    readText limit octets =
      (Text.decodeText octets).mapError fun fault => .told (.plain fault.message) := by
  have whole : octets.take (limit + 1) = octets := List.take_of_length_le (by omega)
  simp only [readText, taken_of_lt below, whole]
  rw [if_neg (by omega)]

theorem readText_of_lt_length (below : limit < Text.maxNat64) (large : limit < octets.length) :
    readText limit octets = .error (.told (.plain s!"manifest is too large (>{limit} bytes)")) := by
  have more : limit < (octets.take (limit + 1)).length := by
    rw [List.length_take]
    omega
  simp only [readText, taken_of_lt below, if_pos more]

theorem readText_eq_ok (below : limit < Text.maxNat64) :
    readText limit octets = .ok text ↔ octets.length ≤ limit ∧ Text.encode text = octets := by
  rw [← Text.decodeText_eq_ok]
  by_cases fits : octets.length ≤ limit
  · rw [readText_of_length_le below fits, Traversal.mapError_eq_ok_iff]
    exact (and_iff_right fits).symm
  · rw [readText_of_lt_length below (by omega)]
    simp [fits]

theorem readText_of_not_encoded (below : limit < Text.maxNat64) (fits : octets.length ≤ limit)
    (other : ∀ text, Text.encode text ≠ octets) :
    ∃ fault : Text.Utf8Fault, readText limit octets = .error (.told (.plain fault.message)) := by
  rw [readText_of_length_le below fits]
  cases read : Text.decodeText octets with
  | error fault => exact ⟨fault, rfl⟩
  | ok text => exact absurd (Text.decodeText_eq_ok.mp read) (other text)

theorem readText_greatest (octets : List UInt8) : readText Text.maxNat64 octets = .error .overflow := by
  simp only [readText, taken_greatest]

/-- With any limit but the greatest, a text is read just when the manifest is at most as large as the limit
and is the encoding of that text, so no part of it is taken for the whole. A larger manifest is refused as
too large, and one of another encoding with its first fault. With the greatest limit every manifest ends the
program. -/
theorem readText_whole (limit : Nat) (representable : limit ≤ Text.maxNat64) (octets : List UInt8) :
    (limit ≠ Text.maxNat64 →
      taken limit = .ok (limit + 1) ∧
      (∀ text, readText limit octets = .ok text ↔ octets.length ≤ limit ∧ Text.encode text = octets) ∧
      (limit < octets.length →
        readText limit octets = .error (.told (.plain s!"manifest is too large (>{limit} bytes)"))) ∧
      (octets.length ≤ limit → (∀ text, Text.encode text ≠ octets) →
        ∃ fault : Text.Utf8Fault, readText limit octets = .error (.told (.plain fault.message)))) ∧
    (limit = Text.maxNat64 →
      taken limit = .error .overflow ∧ readText limit octets = .error .overflow) := by
  constructor
  · intro other
    have below : limit < Text.maxNat64 := by omega
    exact ⟨taken_of_lt below, fun text => readText_eq_ok below, readText_of_lt_length below,
      readText_of_not_encoded below⟩
  · rintro rfl
    exact ⟨taken_greatest, readText_greatest octets⟩

/-! A manifest of 16 octets, read with the limits 16 and 15 and with the greatest one. -/
namespace Bounded

def manifest : String := "kind: Deployment"

theorem size_manifest : (Text.encode manifest).length = 16 := by
  rw [Text.encode_eq]
  decide

end Bounded

theorem readText_whole_bounded :
    16 ≤ Text.maxNat64 ∧ 15 ≤ Text.maxNat64 ∧
      readText 16 (Text.encode Bounded.manifest) = .ok Bounded.manifest ∧
      readText 15 (Text.encode Bounded.manifest) =
        .error (.told (.plain "manifest is too large (>15 bytes)")) ∧
      readText Text.maxNat64 (Text.encode Bounded.manifest) = .error .overflow := by
  have most : 16 ≤ Text.maxNat64 := by decide
  have most' : 15 ≤ Text.maxNat64 := by decide
  obtain ⟨-, accepted, -⟩ :=
    (readText_whole 16 most (Text.encode Bounded.manifest)).1 (by decide)
  obtain ⟨-, -, refused, -⟩ :=
    (readText_whole 15 most' (Text.encode Bounded.manifest)).1 (by decide)
  obtain ⟨-, ended⟩ := (readText_whole _ (Nat.le_refl _) (Text.encode Bounded.manifest)).2 rfl
  refine ⟨most, most', (accepted _).mpr ⟨?_, rfl⟩, refused ?_, ended⟩
  · exact Nat.le_of_eq Bounded.size_manifest
  · rw [Bounded.size_manifest]
    decide

/-- An environment can set the greatest limit, and then a manifest that fits ends the program. -/
theorem readText_overflows :
    (Settings.ofEnvironment [(Settings.limitVariable, "18446744073709551615")]).manifestLimit =
        Text.maxNat64 ∧
      (Text.encode Bounded.manifest).length ≤ Text.maxNat64 ∧
      readText Text.maxNat64 (Text.encode Bounded.manifest) = .error .overflow ∧
      readText Text.maxNat64 (Text.encode Bounded.manifest) ≠ .ok Bounded.manifest := by
  have ended := readText_greatest (Text.encode Bounded.manifest)
  refine ⟨by decide +kernel, ?_, ended, ?_⟩
  · rw [Bounded.size_manifest]
    decide
  · rw [ended]
    exact nofun

end Rollback.Manifest
