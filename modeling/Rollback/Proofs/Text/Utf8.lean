import Rollback.Proofs.Traversal
import Rollback.Text.Utf8

/-! Octets are read as the characters of which they are the encoding, and as none when they are no
encoding: what is read, encoded again, gives the octets back. -/
namespace Rollback.Text

/-- The octets that are still to come of a character, with the bounds of the first of them and the bits
before it, and the character that they make up. -/
inductive Finishes : (more low high bits : Nat) → List UInt8 → Char → Prop where
  | last {low high bits : Nat} {b : UInt8} (bounds : low ≤ b.toNat ∧ b.toNat ≤ high) :
      Finishes 0 low high bits [b] (Char.ofNat (bits * 64 + b.toNat % 64))
  | next {more low high bits : Nat} {b : UInt8} {rest : List UInt8} {c : Char}
      (bounds : low ≤ b.toNat ∧ b.toNat ≤ high)
      (others : Finishes more 0x80 0xBF (bits * 64 + b.toNat % 64) rest c) :
      Finishes (more + 1) low high bits (b :: rest) c

/-- The octets that are read as one character. -/
inductive Encodes : List UInt8 → Char → Prop where
  | single {b : UInt8} (small : b.toNat < 0x80) : Encodes [b] (Char.ofNat b.toNat)
  | several {b : UInt8} {count low high : Nat} {rest : List UInt8} {c : Char}
      (large : ¬ b.toNat < 0x80) (leads : leadOctet b.toNat = some (count, low, high))
      (others : Finishes (count - 1) low high (b.toNat % Nat.pow 2 (6 - count)) rest c) :
      Encodes (b :: rest) c

variable {done cs : List Char} {u : Unfinished} {index : Nat} {octets own rest : List UInt8} {c : Char}

theorem decodeFrom_finishes {start seen more low high bits : Nat}
    (finishes : Finishes more low high bits own c) :
    decodeFrom done (some ⟨start, seen, more, low, high, bits⟩) index (own ++ rest) =
      decodeFrom (c :: done) none (index + own.length) rest := by
  induction finishes generalizing seen index with
  | last bounds => simp [decodeFrom, bounds]
  | next bounds others ih =>
    rw [List.cons_append, decodeFrom]
    simp only [bounds, and_self, if_true]
    rw [ih, List.length_cons, Nat.add_assoc, Nat.add_comm 1]

theorem finishes_of_decodeFrom (read : decodeFrom done (some u) index octets = .ok cs) :
    ∃ own c rest, octets = own ++ rest ∧ Finishes u.more u.low u.high u.bits own c ∧
      decodeFrom (c :: done) none (index + own.length) rest = .ok cs := by
  induction octets generalizing u index with
  | nil => cases read
  | cons b rest ih =>
    obtain ⟨start, seen, more, low, high, bits⟩ := u
    rw [decodeFrom] at read
    dsimp only at read
    split at read
    · next bounds =>
      cases more with
      | zero => exact ⟨[b], _, rest, rfl, .last bounds, read⟩
      | succ more =>
        obtain ⟨own, c, following, rfl, finishes, later⟩ := ih read
        refine ⟨b :: own, c, following, rfl, .next bounds finishes, ?_⟩
        rw [List.length_cons, Nat.add_comm own.length, ← Nat.add_assoc]
        exact later
    · cases read

theorem decodeFrom_encodes (encodes : Encodes own c) :
    decodeFrom done none index (own ++ rest) =
      decodeFrom (c :: done) none (index + own.length) rest := by
  cases encodes with
  | single small => simp [decodeFrom, small]
  | several large leads others =>
    rw [List.cons_append, decodeFrom]
    simp only [large, leads, if_false]
    rw [decodeFrom_finishes others, List.length_cons, Nat.add_assoc, Nat.add_comm 1]

theorem encodes_of_decodeFrom (filled : octets ≠ [])
    (read : decodeFrom done none index octets = .ok cs) :
    ∃ own c rest, octets = own ++ rest ∧ Encodes own c ∧
      decodeFrom (c :: done) none (index + own.length) rest = .ok cs := by
  cases octets with
  | nil => exact absurd rfl filled
  | cons b rest =>
    rw [decodeFrom] at read
    dsimp only at read
    split at read
    · next small => exact ⟨[b], _, rest, rfl, .single small, read⟩
    · next large =>
      split at read
      · cases read
      · next count low high leads =>
        obtain ⟨own, c, following, rfl, finishes, later⟩ := finishes_of_decodeFrom read
        refine ⟨b :: own, c, following, rfl, .several large leads finishes, ?_⟩
        rw [List.length_cons, Nat.add_comm own.length, ← Nat.add_assoc]
        exact later

theorem ofNat_eq_iff {n : Nat} {b : UInt8} : UInt8.ofNat n = b ↔ n % 256 = b.toNat := by
  rw [← UInt8.toNat_inj, UInt8.toNat_ofNat']

theorem toNat_ofNat {n : Nat} (valid : n.isValidChar) : (Char.ofNat n).val.toNat = n := by
  rw [Char.ofNat, dif_pos valid]
  rfl

section Octets

variable {a b b' b'' : UInt8} {n : Nat}

theorem utf8EncodeChar_two (value : n = a.toNat % 32 * 64 + b.toNat % 64)
    (lead : 0xC2 ≤ a.toNat ∧ a.toNat ≤ 0xDF) (second : 0x80 ≤ b.toNat ∧ b.toNat ≤ 0xBF) :
    String.utf8EncodeChar (Char.ofNat n) = [a, b] := by
  have valid : n.isValidChar := by
    left
    omega
  simp only [String.utf8EncodeChar, toNat_ofNat valid]
  rw [if_neg (by omega), if_pos (by omega)]
  simp only [List.cons.injEq, ofNat_eq_iff, and_true]
  omega

theorem utf8EncodeChar_three
    (value : n = (a.toNat % 16 * 64 + b.toNat % 64) * 64 + b'.toNat % 64)
    (lead : 0xE0 ≤ a.toNat ∧ a.toNat ≤ 0xEF) (second : 0x80 ≤ b.toNat ∧ b.toNat ≤ 0xBF)
    (third : 0x80 ≤ b'.toNat ∧ b'.toNat ≤ 0xBF) (least : 0x800 ≤ n) (valid : n.isValidChar) :
    String.utf8EncodeChar (Char.ofNat n) = [a, b, b'] := by
  simp only [String.utf8EncodeChar, toNat_ofNat valid]
  rw [if_neg (by omega), if_neg (by omega), if_pos (by omega)]
  simp only [List.cons.injEq, ofNat_eq_iff, and_true]
  omega

theorem utf8EncodeChar_four
    (value : n = ((a.toNat % 8 * 64 + b.toNat % 64) * 64 + b'.toNat % 64) * 64 + b''.toNat % 64)
    (lead : 0xF0 ≤ a.toNat ∧ a.toNat ≤ 0xF4) (second : 0x80 ≤ b.toNat ∧ b.toNat ≤ 0xBF)
    (third : 0x80 ≤ b'.toNat ∧ b'.toNat ≤ 0xBF) (fourth : 0x80 ≤ b''.toNat ∧ b''.toNat ≤ 0xBF)
    (least : 0x10000 ≤ n) (most : n < 0x110000) :
    String.utf8EncodeChar (Char.ofNat n) = [a, b, b', b''] := by
  have valid : n.isValidChar := by
    right
    omega
  simp only [String.utf8EncodeChar, toNat_ofNat valid]
  rw [if_neg (by omega), if_neg (by omega), if_neg (by omega)]
  simp only [List.cons.injEq, ofNat_eq_iff, and_true]
  omega

/-- The first octet of several tells how many follow and bounds the second one, so that no character has
two encodings and no code point is encoded that is no character. -/
theorem leadOctet_cases {n count low high : Nat} (leads : leadOctet n = some (count, low, high)) :
    (count = 1 ∧ (0xC2 ≤ n ∧ n ≤ 0xDF) ∧ low = 0x80 ∧ high = 0xBF) ∨
    (count = 2 ∧ (0xE0 ≤ n ∧ n ≤ 0xEF) ∧ (0x80 ≤ low ∧ high ≤ 0xBF) ∧
      (n = 0xE0 → 0xA0 ≤ low) ∧ (n = 0xED → high ≤ 0x9F)) ∨
    (count = 3 ∧ (0xF0 ≤ n ∧ n ≤ 0xF4) ∧ (0x80 ≤ low ∧ high ≤ 0xBF) ∧
      (n = 0xF0 → 0x90 ≤ low) ∧ (n = 0xF4 → high ≤ 0x8F)) := by
  unfold leadOctet at leads
  repeat' split at leads
  all_goals cases leads <;> omega

theorem utf8EncodeChar_of_encodes (encodes : Encodes own c) : String.utf8EncodeChar c = own := by
  cases encodes with
  | @single b small =>
    have valid : b.toNat.isValidChar := by
      left
      omega
    simp only [String.utf8EncodeChar, toNat_ofNat valid]
    rw [if_pos (by omega), UInt8.ofNat_toNat]
  | @several a count low high rest c large leads others =>
    rcases leadOctet_cases leads with ⟨rfl, lead, rfl, rfl⟩ | ⟨rfl, lead, bounds, least, most⟩ |
      ⟨rfl, lead, bounds, least, most⟩
    · cases others with
      | last second => exact utf8EncodeChar_two rfl lead second
    · cases others with
      | next second others =>
        cases others with
        | last third =>
          refine utf8EncodeChar_three rfl lead (by omega) third ?_ ?_
          all_goals
            simp only [show Nat.pow 2 (6 - 2) = 16 from rfl, Nat.isValidChar]
            omega
    · cases others with
      | next second others =>
        cases others with
        | next third others =>
          cases others with
          | last fourth =>
            refine utf8EncodeChar_four rfl lead (by omega) third fourth ?_ ?_
            all_goals
              simp only [show Nat.pow 2 (6 - 3) = 8 from rfl]
              omega

theorem Finishes.of_eq {low high bits n : Nat} {b : UInt8} (bounds : low ≤ b.toNat ∧ b.toNat ≤ high)
    (value : bits * 64 + b.toNat % 64 = n) : Finishes 0 low high bits [b] (Char.ofNat n) :=
  value ▸ .last bounds

theorem encodes_two (first : a.toNat = n / 64 + 0xC0) (second : b.toNat = n % 64 + 0x80)
    (least : 0x80 ≤ n) (most : n < 0x800) : Encodes [a, b] (Char.ofNat n) := by
  have lead : leadOctet a.toNat = some (1, 0x80, 0xBF) := by
    unfold leadOctet
    rw [if_pos (by omega)]
  refine .several (by omega) lead (.of_eq (by omega) ?_)
  rw [show Nat.pow 2 (6 - 1) = 32 from rfl]
  omega

theorem encodes_three (first : a.toNat = n / 4096 + 0xE0) (second : b.toNat = n / 64 % 64 + 0x80)
    (third : b'.toNat = n % 64 + 0x80) (least : 0x800 ≤ n) (most : n < 0x10000)
    (valid : n.isValidChar) : Encodes [a, b, b'] (Char.ofNat n) := by
  unfold Nat.isValidChar at valid
  obtain ⟨low, high, lead, bounds⟩ : ∃ low high, leadOctet a.toNat = some (2, low, high) ∧
      low ≤ b.toNat ∧ b.toNat ≤ high := by
    unfold leadOctet
    rw [if_neg (by omega)]
    split
    · exact ⟨_, _, rfl, by omega, by omega⟩
    split
    · exact ⟨_, _, rfl, by omega, by omega⟩
    · rw [if_pos (by omega)]
      exact ⟨_, _, rfl, by omega, by omega⟩
  refine .several (by omega) lead (.next bounds (.of_eq (by omega) ?_))
  rw [show Nat.pow 2 (6 - 2) = 16 from rfl]
  omega

theorem encodes_four (first : a.toNat = n / 262144 + 0xF0) (second : b.toNat = n / 4096 % 64 + 0x80)
    (third : b'.toNat = n / 64 % 64 + 0x80) (fourth : b''.toNat = n % 64 + 0x80)
    (least : 0x10000 ≤ n) (most : n < 0x110000) : Encodes [a, b, b', b''] (Char.ofNat n) := by
  obtain ⟨low, high, lead, bounds⟩ : ∃ low high, leadOctet a.toNat = some (3, low, high) ∧
      low ≤ b.toNat ∧ b.toNat ≤ high := by
    unfold leadOctet
    rw [if_neg (by omega), if_neg (by omega), if_neg (by omega), if_neg (by omega)]
    split
    · exact ⟨_, _, rfl, by omega, by omega⟩
    split
    · exact ⟨_, _, rfl, by omega, by omega⟩
    · rw [if_pos (by omega)]
      exact ⟨_, _, rfl, by omega, by omega⟩
  refine .several (by omega) lead (.next bounds (.next (by omega) (.of_eq (by omega) ?_)))
  rw [show Nat.pow 2 (6 - 3) = 8 from rfl]
  omega

end Octets

theorem encodes_utf8EncodeChar (c : Char) : Encodes (String.utf8EncodeChar c) c := by
  have valid : c.val.toNat.isValidChar := c.valid
  have whole : c = Char.ofNat c.val.toNat := (Char.ofNat_toNat c).symm
  simp only [String.utf8EncodeChar]
  generalize c.val.toNat = n at *
  subst whole
  unfold Nat.isValidChar at valid
  have octet {n : Nat} (small : n < 256) : (UInt8.ofNat n).toNat = n := by
    rw [UInt8.toNat_ofNat', Nat.mod_eq_of_lt small]
  split
  · next small =>
    have same : (UInt8.ofNat n).toNat = n := octet (by omega)
    have single := Encodes.single (b := UInt8.ofNat n) (by omega)
    rwa [same] at single
  split
  · refine encodes_two ?_ ?_ (by omega) (by omega)
    all_goals exact (octet (by omega)).trans (by omega)
  split
  · refine encodes_three ?_ ?_ ?_ (by omega) (by omega) valid
    all_goals exact (octet (by omega)).trans (by omega)
  · refine encodes_four ?_ ?_ ?_ ?_ (by omega) (by omega)
    all_goals exact (octet (by omega)).trans (by omega)

theorem decodeFrom_encoded (cs done : List Char) (index : Nat) :
    decodeFrom done none index (cs.flatMap String.utf8EncodeChar) = .ok (done.reverse ++ cs) := by
  induction cs generalizing done index with
  | nil => simp [decodeFrom]
  | cons c rest ih =>
    rw [List.flatMap_cons, decodeFrom_encodes (encodes_utf8EncodeChar c), ih]
    simp

theorem encoded_of_decodeFrom (read : decodeFrom done none index octets = .ok cs) :
    ∃ more, cs = done.reverse ++ more ∧ more.flatMap String.utf8EncodeChar = octets := by
  -- Every character takes at least one octet.
  induction size : octets.length using Nat.strongRecOn generalizing done index octets with
  | ind n ih =>
    by_cases filled : octets = []
    · subst filled
      cases read
      exact ⟨[], by simp, rfl⟩
    · obtain ⟨own, c, rest, rfl, encodes, later⟩ := encodes_of_decodeFrom filled read
      have whole := utf8EncodeChar_of_encodes encodes
      have shorter : rest.length < n := by
        have nonempty : own ≠ [] := whole ▸ String.utf8EncodeChar_ne_nil
        have positive := List.length_pos_iff.mpr nonempty
        rw [← size, List.length_append]
        omega
      obtain ⟨more, rfl, encoded⟩ := ih rest.length shorter later rfl
      exact ⟨c :: more, by simp, by rw [List.flatMap_cons, whole, encoded]⟩

theorem decode_eq_ok : decode octets = .ok cs ↔ cs.flatMap String.utf8EncodeChar = octets := by
  constructor
  · intro read
    obtain ⟨more, rfl, encoded⟩ := encoded_of_decodeFrom read
    exact encoded
  · rintro rfl
    exact decodeFrom_encoded cs [] 0

theorem toList_loop_eq (bytes : ByteArray) (index : Nat) (read : List UInt8) :
    ByteArray.toList.loop bytes index read = read.reverse ++ bytes.data.toList.drop index := by
  fun_induction ByteArray.toList.loop bytes index read with
  | case1 index read more ih =>
    have inside : index < bytes.data.toList.length := by simpa using more
    rw [ih, List.drop_eq_getElem_cons inside]
    simp [ByteArray.get!, more]
  | case2 index read ended =>
    rw [List.drop_eq_nil_of_le (by simpa using Nat.le_of_not_lt ended), List.append_nil]

theorem encode_eq (text : String) : encode text = text.toList.flatMap String.utf8EncodeChar := by
  rw [encode, ByteArray.toList, toList_loop_eq, String.toUTF8, ← String.ofList_toList (s := text),
    String.toByteArray_ofList, List.utf8Encode, List.toList_data_toByteArray, String.toList_ofList]
  rfl

/-- A text is read just from its own encoding. -/
theorem decodeText_eq_ok {text : String} : decodeText octets = .ok text ↔ encode text = octets := by
  rw [decodeText, encode_eq, ← decode_eq_ok]
  cases decode octets with
  | error fault => simp
  | ok cs =>
    simp only [Except.map, Except.ok.injEq]
    exact ⟨fun same => by rw [← same, String.toList_ofList], fun same => by rw [same, String.ofList_toList]⟩

theorem encode_injective : Function.Injective encode := by
  intro text other same
  have read := decodeText_eq_ok.mpr same
  rw [decodeText_eq_ok.mpr rfl] at read
  exact (Except.ok.inj read).symm

end Rollback.Text
