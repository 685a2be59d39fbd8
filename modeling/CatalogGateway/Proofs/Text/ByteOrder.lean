import CatalogGateway.Text.Octets
import Mathlib.Data.List.Lex
import Mathlib.Tactic.SplitIfs

/-!
# The order of texts and of their bytes

Texts are ordered by their characters, and so they are by the bytes that encode them in UTF-8:
the code of the lower one of two characters has the lower byte where they first differ.
-/

namespace CatalogGateway

namespace Octets

theorem ofText_eq_flatMap (text : String) :
    ofText text = text.toList.flatMap String.utf8EncodeChar := by
  rw [ofText, String.toUTF8_eq_toByteArray, ← String.utf8Encode_toList, List.utf8Encode,
    List.toList_data_toByteArray]

theorem cons_lt_cons_iff {first second : Nat} {rest other : Octets} (isByte : first < 256)
    (isOtherByte : second < 256) :
    UInt8.ofNat first :: rest < UInt8.ofNat second :: other ↔
      first < second ∨ first = second ∧ rest < other := by
  rw [List.cons_lt_cons_iff, UInt8.lt_iff_toNat_lt, ← UInt8.toNat_inj,
    UInt8.toNat_ofNat_of_lt' isByte, UInt8.toNat_ofNat_of_lt' isOtherByte]

/-- Of two characters, the lower one has the lower code, whatever follows. -/
theorem utf8EncodeChar_append_lt {first second : Char} (below : first < second)
    (rest other : Octets) :
    String.utf8EncodeChar first ++ rest < String.utf8EncodeChar second ++ other := by
  have values : first.val.toNat < second.val.toNat := below
  have bound : second.val.toNat < 0x110000 := by
    have valid : second.val.toNat < 0xD800 ∨
        0xDFFF < second.val.toNat ∧ second.val.toNat < 0x110000 := second.valid
    omega
  simp only [String.utf8EncodeChar]
  generalize first.val.toNat = low at values
  generalize second.val.toNat = high at values bound
  -- The digits of a value to the base 64 stand in its bytes.
  have digits (value : Nat) : value = 262144 * (value / 262144) + 4096 * (value / 4096 % 64) +
      64 * (value / 64 % 64) + value % 64 := by
    omega
  have lowDigits := digits low
  have highDigits := digits high
  have lowTop : low / 262144 % 8 = low / 262144 := by omega
  have highTop : high / 262144 % 8 = high / 262144 := by omega
  -- The lengths of the codes, of which the first is not the longer one.
  split_ifs <;> simp (disch := omega) only [List.cons_append, cons_lt_cons_iff] <;> omega

theorem flatMap_utf8EncodeChar_lt {first second : List Char} (below : first < second) :
    first.flatMap String.utf8EncodeChar < second.flatMap String.utf8EncodeChar := by
  induction below with
  | nil =>
      rename_i character rest
      obtain ⟨octet, octets, coded⟩ := List.exists_cons_of_ne_nil
        (String.utf8EncodeChar_ne_nil (c := character))
      rw [List.flatMap_cons, coded]
      exact List.nil_lt_cons _ _
  | rel less => exact utf8EncodeChar_append_lt less _ _
  | cons _ ih =>
      rw [List.flatMap_cons, List.flatMap_cons]
      exact List.append_left_lt ih

/-- A text is below another exactly when its bytes are. -/
theorem ofText_lt_iff {first second : String} : ofText first < ofText second ↔ first < second := by
  have mono {first second : String} (below : first < second) : ofText first < ofText second := by
    rw [ofText_eq_flatMap, ofText_eq_flatMap]
    exact flatMap_utf8EncodeChar_lt below
  refine ⟨fun below => ?_, mono⟩
  by_contra notBelow
  have least : second ≤ first := String.not_lt.mp notBelow
  have notMost : ¬ first ≤ second := by
    intro most
    rw [String.le_antisymm most least] at below
    exact List.lt_irrefl _ below
  exact List.lt_asymm below (mono (String.not_le.mp notMost))

end Octets

end CatalogGateway
