import CatalogGateway.Proofs.Text.Blank
import CatalogGateway.Text.Numeral
import Mathlib.Data.List.Basic

/-!
# Numbers read back

A number that is written in decimal, with a sign if it is negative, is read back, also when the
text is trimmed before.  What is read are exactly the texts of ASCII digits that may follow a
sign, whose value has to fit.
-/

namespace CatalogGateway

namespace Text

theorem digitsFrom_eq_ofDigitChars {text : List Char} (value : Nat)
    (digits : ∀ character ∈ text, character.isDigit = true) :
    digitsFrom value text = some (Nat.ofDigitChars 10 text value) := by
  induction text generalizing value with
  | nil => rfl
  | cons character rest ih =>
      have isDigit := digits character List.mem_cons_self
      have others : ∀ other ∈ rest, other.isDigit = true := fun other member =>
        digits other (List.mem_cons_of_mem _ member)
      rw [digitsFrom, if_pos isDigit, ih _ others, Nat.ofDigitChars_cons]

theorem isDigit_of_mem_decimal {number : Nat} {character : Char}
    (member : character ∈ decimal number) : character.isDigit = true :=
  Nat.isDigit_of_mem_toDigits (by decide) (by decide) member

theorem digits?_decimal (number : Nat) : digits? (decimal number) = some number := by
  have allDigits : ∀ character ∈ decimal number, character.isDigit = true :=
    fun _ => isDigit_of_mem_decimal
  have readBack := digitsFrom_eq_ofDigitChars 0 allDigits
  have value : Nat.ofDigitChars 10 (decimal number) 0 = number := Nat.ofDigitChars_ten_toDigits
  rw [value] at readBack
  cases written : decimal number with
  | nil => exact absurd written Nat.toDigits_ne_nil
  | cons first rest =>
      rw [written] at readBack
      exact readBack

theorem exists_decimal_eq_cons (number : Nat) :
    ∃ first rest, decimal number = first :: rest ∧ first.isDigit = true := by
  cases written : decimal number with
  | nil => exact absurd written Nat.toDigits_ne_nil
  | cons first rest =>
      exact ⟨first, rest, rfl, isDigit_of_mem_decimal (written ▸ List.mem_cons_self)⟩

theorem unsigned?_decimal (number : Nat) : unsigned? (decimal number) = some number := by
  obtain ⟨first, rest, written, isDigit⟩ := exists_decimal_eq_cons number
  have notPlus : first ≠ '+' := by
    rintro rfl
    cases isDigit
  rw [written, unsigned?, ← written, digits?_decimal]
  intro other same
  exact notPlus (List.cons.inj same).1

theorem uint32?_decimal (number : UInt32) : uint32? (decimal number.toNat) = some number := by
  have fits : number.toNat < UInt32.size := number.toNat_lt
  rw [uint32?, unsigned?_decimal]
  simp [fits]

theorem toList_toString_ofNat (number : Nat) :
    (toString (Int.ofNat number)).toList = decimal number := by
  simp [decimal, toString, Int.repr]

theorem toList_toString_negSucc (number : Nat) :
    (toString (Int.negSucc number)).toList = '-' :: decimal (number + 1) := by
  simp [decimal, toString, Int.repr]

theorem signed?_toString (number : Int) : signed? (toString number).toList = some number := by
  cases number with
  | ofNat number =>
      obtain ⟨first, rest, written, isDigit⟩ := exists_decimal_eq_cons number
      have notMinus : first ≠ '-' := by
        rintro rfl
        cases isDigit
      have notPlus : first ≠ '+' := by
        rintro rfl
        cases isDigit
      rw [toList_toString_ofNat, written, signed?, ← written, digits?_decimal]
      · rfl
      · exact fun other same => notMinus (List.cons.inj same).1
      · exact fun other same => notPlus (List.cons.inj same).1
  | negSucc number =>
      rw [toList_toString_negSucc, signed?, digits?_decimal]
      rfl

theorem int64?_toString (number : Int64) :
    int64? (toString number.toInt).toList = some number := by
  have bounds := And.intro number.minValue_le_toInt number.toInt_le
  simp only [int64?, signed?_toString]
  rw [if_pos bounds, Int64.ofInt_toInt]

theorem isBlank_eq_false_of_isDigit {character : Char} (isDigit : character.isDigit = true) :
    isBlank character = false := by
  apply isBlank_eq_false_of_isWordCharacter
  have bounds : 0x30 ≤ character.toNat ∧ character.toNat ≤ 0x39 := by
    simpa [Char.isDigit, UInt32.le_iff_toNat_le] using isDigit
  have inside : isAlphanumeric character = true := by
    rw [isAlphanumeric, alphanumericRanges, inRanges, if_neg (by omega), if_pos bounds.2]
  simp [isWordCharacter, inside]

/-- A text that ends in a number ends in no blank. -/
theorem trim_append_decimal (front : List Char) (number : Nat)
    (starts : (front ++ decimal number).head?.all (!isBlank ·) = true) :
    trim (front ++ decimal number) = front ++ decimal number := by
  apply trim_of_ends starts
  obtain ⟨first, rest, written, _⟩ := exists_decimal_eq_cons number
  rw [Option.all_eq_true]
  intro last isLast
  have inDecimal : last ∈ decimal number := by
    rw [List.getLast?_append_of_ne_nil _ (by simp [written])] at isLast
    exact List.mem_of_getLast? isLast
  simp [isBlank_eq_false_of_isDigit (isDigit_of_mem_decimal inDecimal)]

theorem trim_decimal (number : Nat) : trim (decimal number) = decimal number := by
  apply trim_append_decimal []
  rw [Option.all_eq_true]
  intro first isFirst
  simp [isBlank_eq_false_of_isDigit (isDigit_of_mem_decimal (List.mem_of_mem_head? isFirst))]

theorem trim_toString (number : Int) :
    trim (toString number).toList = (toString number).toList := by
  cases number with
  | ofNat number =>
      rw [toList_toString_ofNat, trim_decimal]
  | negSucc number =>
      rw [toList_toString_negSucc]
      exact trim_append_decimal ['-'] (number + 1) rfl

section Grammar

variable {text : List Char}

/-- A text of one or more ASCII digits with their value. -/
def Digits (text : List Char) (value : Nat) : Prop :=
  text ≠ [] ∧ (∀ character ∈ text, character.isDigit = true) ∧ Nat.ofDigitChars 10 text 0 = value

/-- A text of digits that may follow a sign, with its value. -/
inductive Numeral : List Char → Int → Prop where
  | plain {text : List Char} {value : Nat} (digits : Digits text value) : Numeral text value
  | plus {text : List Char} {value : Nat} (digits : Digits text value) :
      Numeral ('+' :: text) value
  | minus {text : List Char} {value : Nat} (digits : Digits text value) :
      Numeral ('-' :: text) (-value)

theorem digitsFrom_eq_some_iff {start value : Nat} :
    digitsFrom start text = some value ↔
      (∀ character ∈ text, character.isDigit = true) ∧
        Nat.ofDigitChars 10 text start = value := by
  constructor
  · intro read
    have allDigits : ∀ character ∈ text, character.isDigit = true := by
      induction text generalizing start with
      | nil => exact nofun
      | cons character rest ih =>
          rw [digitsFrom] at read
          split at read
          · rename_i isDigit
            exact List.forall_mem_cons.mpr ⟨isDigit, ih read⟩
          · cases read
    rw [digitsFrom_eq_ofDigitChars start allDigits] at read
    exact ⟨allDigits, Option.some.inj read⟩
  · rintro ⟨allDigits, rfl⟩
    exact digitsFrom_eq_ofDigitChars start allDigits

theorem digits?_eq_some_iff {value : Nat} : digits? text = some value ↔ Digits text value := by
  cases text with
  | nil => simp [digits?, Digits]
  | cons first rest =>
      rw [digits?, digitsFrom_eq_some_iff]
      simp [Digits]

theorem head_isDigit {first : Char} {rest : List Char} {value : Nat}
    (digits : Digits (first :: rest) value) : first.isDigit = true :=
  digits.2.1 first List.mem_cons_self

theorem signed?_eq_some_iff {value : Int} : signed? text = some value ↔ Numeral text value := by
  constructor
  · intro read
    unfold signed? at read
    split at read
    all_goals
      obtain ⟨_, lifted, rfl⟩ := Option.map_eq_some_iff.mp read
      obtain ⟨number, isNumber, same⟩ := Option.bind_eq_some_iff.mp lifted
      obtain rfl := Option.some.inj same
      have digits := digits?_eq_some_iff.mp isNumber
    · exact .minus digits
    · exact .plus digits
    · exact .plain digits
  · rintro (digits | digits | digits)
    · -- Digits do not begin with a sign, so they are read as they stand.
      have isNumber := digits?_eq_some_iff.mpr digits
      unfold signed?
      split
      · cases head_isDigit digits
      · cases head_isDigit digits
      · rw [isNumber]
        rfl
    · rw [signed?, digits?_eq_some_iff.mpr digits]
      rfl
    · rw [signed?, digits?_eq_some_iff.mpr digits]
      rfl

/-- A text of digits that may follow a plus sign, with its value. -/
inductive UnsignedNumeral : List Char → Nat → Prop where
  | plain {text : List Char} {value : Nat} (digits : Digits text value) :
      UnsignedNumeral text value
  | plus {text : List Char} {value : Nat} (digits : Digits text value) :
      UnsignedNumeral ('+' :: text) value

theorem unsigned?_eq_some_iff {value : Nat} :
    unsigned? text = some value ↔ UnsignedNumeral text value := by
  constructor
  · intro read
    unfold unsigned? at read
    split at read
    · exact .plus (digits?_eq_some_iff.mp read)
    · exact .plain (digits?_eq_some_iff.mp read)
  · rintro (digits | digits)
    · unfold unsigned?
      split
      · cases head_isDigit digits
      · exact digits?_eq_some_iff.mpr digits
    · exact digits?_eq_some_iff.mpr digits

theorem uint32?_eq_some_iff {value : UInt32} :
    uint32? text = some value ↔ UnsignedNumeral text value.toNat := by
  rw [← unsigned?_eq_some_iff, uint32?]
  constructor
  · intro read
    split at read
    · rename_i number isNumber
      split at read
      · rename_i fits
        obtain rfl := Option.some.inj read
        rw [isNumber, UInt32.toNat_ofNat_of_lt' fits]
      · cases read
    · cases read
  · intro isNumber
    have fits : value.toNat < UInt32.size := value.toNat_lt
    simp [isNumber, fits]

theorem UnsignedNumeral.ne_nil {value : Nat} (numeral : UnsignedNumeral text value) :
    text ≠ [] := by
  cases numeral with
  | plain digits => exact digits.1
  | plus digits => exact List.cons_ne_nil _ _

theorem UnsignedNumeral.isBlank_eq_false {value : Nat} (numeral : UnsignedNumeral text value) :
    ∀ character ∈ text, isBlank character = false := by
  have ofDigits {digitText : List Char} (digits : Digits digitText value) :
      ∀ character ∈ digitText, isBlank character = false :=
    fun character member => isBlank_eq_false_of_isDigit (digits.2.1 character member)
  cases numeral with
  | plain digits => exact ofDigits digits
  | plus digits => exact List.forall_mem_cons.mpr ⟨rfl, ofDigits digits⟩

theorem int64?_eq_some_iff {value : Int64} :
    int64? text = some value ↔ Numeral text value.toInt := by
  rw [← signed?_eq_some_iff, int64?]
  constructor
  · intro read
    split at read
    · rename_i number isNumber
      split at read
      · rename_i fits
        obtain rfl := Option.some.inj read
        have below : number < 2 ^ 63 := Int.lt_of_le_of_lt fits.2 (by decide)
        rw [isNumber, Int64.toInt_ofInt_of_le fits.1 below]
      · cases read
    · cases read
  · intro isNumber
    have fits := And.intro value.minValue_le_toInt value.toInt_le
    simp only [isNumber]
    rw [if_pos fits, Int64.ofInt_toInt]

end Grammar

end Text

end CatalogGateway
