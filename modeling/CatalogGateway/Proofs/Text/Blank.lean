import CatalogGateway.Text.Alphanumeric
import Mathlib.Data.List.TakeDrop

/-!
# Blanks around texts

No character of a plain word is blank.  A text that neither begins nor ends with a blank is not
changed by trimming.
-/

namespace CatalogGateway

namespace Text

variable {character : Char} {text : List Char}

/-- All code points in some ranges. -/
def codesIn (ranges : List (Nat × Nat)) : List Nat :=
  ranges.flatMap fun range => List.range' range.1 (range.2 + 1 - range.1)

theorem mem_codesIn_of_inRanges {code : Nat} {ranges : List (Nat × Nat)}
    (inside : inRanges code ranges = true) : code ∈ codesIn ranges := by
  induction ranges with
  | nil => cases inside
  | cons range rest ih =>
      obtain ⟨low, high⟩ := range
      rw [inRanges] at inside
      simp only [codesIn, List.flatMap_cons, List.mem_append]
      split at inside
      · cases inside
      · split at inside
        · left
          rw [List.mem_range'_1]
          omega
        · exact .inr (ih inside)

theorem isWordCharacter_eq_false_of_isBlank (blank : isBlank character = true) :
    isWordCharacter character = false := by
  -- There are few blanks, and each of them is looked up.
  have separate : ∀ code ∈ codesIn blankRanges,
      inRanges code alphanumericRanges = false ∧ code ≠ '_'.toNat := by
    decide +kernel
  obtain ⟨notAlphanumeric, notLine⟩ := separate _ (mem_codesIn_of_inRanges blank)
  have different : character ≠ '_' := fun same => notLine (congrArg Char.toNat same)
  simp [isWordCharacter, isAlphanumeric, notAlphanumeric, different]

theorem isBlank_eq_false_of_isWordCharacter (word : isWordCharacter character = true) :
    isBlank character = false := by
  cases blank : isBlank character with
  | false => rfl
  | true =>
      rw [isWordCharacter_eq_false_of_isBlank blank] at word
      cases word

theorem trimStart_of_head (front : text.head?.all (!isBlank ·) = true) :
    trimStart text = text := by
  cases text with
  | nil => rfl
  | cons first rest =>
      have notBlank : isBlank first = false := by simpa using front
      simp [trimStart, notBlank]

theorem trimEnd_of_last (back : text.getLast?.all (!isBlank ·) = true) :
    trimEnd text = text := by
  have front : text.reverse.head?.all (!isBlank ·) = true := by
    rwa [List.head?_reverse]
  have kept := trimStart_of_head front
  rw [trimStart] at kept
  rw [trimEnd, kept, List.reverse_reverse]

theorem trim_of_ends (front : text.head?.all (!isBlank ·) = true)
    (back : text.getLast?.all (!isBlank ·) = true) : trim text = text := by
  rw [trim, trimStart_of_head front, trimEnd_of_last back]

end Text

end CatalogGateway
