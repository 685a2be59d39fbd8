import CatalogGateway.Proofs.Text.Blank
import Mathlib.Data.List.TakeWhile

/-!
# Blanks between tokens

Two ways to write tokens one after another: with any blanks around each of them, or as words that
are kept apart by blanks.  The first is what trimming undoes piece by piece, the second what
cutting a text into words undoes.
-/

namespace CatalogGateway

namespace Text

variable {text front back token : List Char} {tokens parts : List (List Char)}

/-- A text of blanks only. -/
def Blanks (text : List Char) : Prop :=
  ∀ character ∈ text, isBlank character = true

/-- A text of some tokens in order, with any blanks before, between and after them. -/
inductive Spaced : List (List Char) → List Char → Prop where
  | nil {blanks : List Char} (blank : Blanks blanks) : Spaced [] blanks
  | cons {blanks token text : List Char} {tokens : List (List Char)} (blank : Blanks blanks)
      (spaced : Spaced tokens text) : Spaced (token :: tokens) (blanks ++ (token ++ text))

/-- A text of some words in order, with blanks before each of them and possibly at the end. -/
inductive SpacedWords : List (List Char) → List Char → Prop where
  | nil {blanks : List Char} (blank : Blanks blanks) : SpacedWords [] blanks
  | cons {blanks word text : List Char} {words : List (List Char)} (blank : Blanks blanks)
      (apart : blanks ≠ []) (filled : word ≠ [])
      (solid : ∀ character ∈ word, isBlank character = false) (spaced : SpacedWords words text) :
      SpacedWords (word :: words) (blanks ++ (word ++ text))

/-- A text that neither begins nor ends with a blank. -/
def Bare (text : List Char) : Prop :=
  text.head?.all (!isBlank ·) = true ∧ text.getLast?.all (!isBlank ·) = true

theorem bare_of_forall (solid : ∀ character ∈ text, isBlank character = false) : Bare text := by
  constructor <;> rw [Option.all_eq_true] <;> intro character isEnd
  · simp [solid character (List.mem_of_mem_head? isEnd)]
  · simp [solid character (List.mem_of_getLast? isEnd)]

section Blanks

theorem blanks_nil : Blanks [] :=
  nofun

theorem Blanks.append (first : Blanks front) (second : Blanks back) : Blanks (front ++ back) :=
  List.forall_mem_append.mpr ⟨first, second⟩

theorem blanks_takeWhile (text : List Char) : Blanks (text.takeWhile isBlank) :=
  fun _ => List.mem_takeWhile_imp

theorem Blanks.reverse (blank : Blanks text) : Blanks text.reverse :=
  fun character member => blank character (List.mem_reverse.mp member)

theorem trimStart_append (blank : Blanks front) (text : List Char) :
    trimStart (front ++ text) = trimStart text :=
  List.dropWhile_append_of_pos blank

theorem trimEnd_append (text : List Char) (blank : Blanks back) :
    trimEnd (text ++ back) = trimEnd text := by
  rw [trimEnd, List.reverse_append, List.dropWhile_append_of_pos blank.reverse]
  rfl

theorem exists_eq_append_trimStart (text : List Char) :
    ∃ blanks, Blanks blanks ∧ text = blanks ++ trimStart text :=
  ⟨_, blanks_takeWhile text, List.takeWhile_append_dropWhile.symm⟩

theorem exists_eq_trimEnd_append (text : List Char) :
    ∃ blanks, Blanks blanks ∧ text = trimEnd text ++ blanks := by
  obtain ⟨blanks, blank, reversed⟩ := exists_eq_append_trimStart text.reverse
  refine ⟨blanks.reverse, blank.reverse, ?_⟩
  rw [← List.reverse_inj, reversed, List.reverse_append, List.reverse_reverse, trimEnd,
    List.reverse_reverse]
  rfl

theorem head?_dropWhile (test : Char → Bool) (text : List Char) :
    (text.dropWhile test).head?.all (!test ·) = true := by
  have stopped := List.head?_dropWhile_not test text
  cases first : (text.dropWhile test).head? with
  | none => rfl
  | some character =>
      rw [first] at stopped
      simpa using stopped

theorem getLast?_trimEnd (text : List Char) :
    (trimEnd text).getLast?.all (!isBlank ·) = true := by
  rw [trimEnd, List.getLast?_reverse]
  exact head?_dropWhile isBlank text.reverse

theorem trimStart_trimEnd_of_head (starts : text.head?.all (!isBlank ·) = true) :
    (trimEnd text).head?.all (!isBlank ·) = true := by
  obtain ⟨blanks, _, same⟩ := exists_eq_trimEnd_append text
  cases kept : trimEnd text with
  | nil => rfl
  | cons first rest =>
      rw [same, kept] at starts
      exact starts

/-- Trimming leaves a token exactly when the text is that token, bare, with blanks around it. -/
theorem trim_eq_iff : trim text = token ↔ Bare token ∧ Spaced [token] text := by
  constructor
  · rintro rfl
    obtain ⟨before, blankBefore, sameStart⟩ := exists_eq_append_trimStart text
    obtain ⟨after, blankAfter, sameEnd⟩ := exists_eq_trimEnd_append (trimStart text)
    refine ⟨⟨trimStart_trimEnd_of_head (head?_dropWhile isBlank text), getLast?_trimEnd _⟩, ?_⟩
    have spaced : Spaced [trim text] (before ++ (trim text ++ after)) :=
      .cons blankBefore (.nil blankAfter)
    rwa [trim, ← sameEnd, ← sameStart] at spaced
  · rintro ⟨⟨starts, ends⟩, spaced⟩
    cases spaced with
    | cons blankBefore spaced =>
        cases spaced with
        | nil blankAfter =>
            rw [trim, trimStart_append blankBefore]
            cases token with
            | nil =>
                have none : trimStart _ = [] := List.dropWhile_eq_nil_iff.mpr blankAfter
                rw [List.nil_append, none]
                rfl
            | cons first rest =>
                rw [trimStart_of_head (by exact starts), trimEnd_append _ blankAfter,
                  trimEnd_of_last ends]

theorem trim_eq_nil_iff : trim text = [] ↔ Blanks text := by
  rw [trim_eq_iff]
  constructor
  · rintro ⟨_, spaced⟩
    cases spaced with
    | cons blankBefore spaced =>
        cases spaced with
        | nil blankAfter => exact blankBefore.append blankAfter
  · intro blank
    exact ⟨⟨rfl, rfl⟩, .cons blanks_nil (.nil blank)⟩

end Blanks

section Spaced

theorem Spaced.blanks_append (blank : Blanks front) (spaced : Spaced tokens text) :
    Spaced tokens (front ++ text) := by
  cases spaced with
  | nil others => exact .nil (blank.append others)
  | cons others spaced =>
      rw [← List.append_assoc]
      exact .cons (blank.append others) spaced

theorem Spaced.append {left right : List (List Char)} (first : Spaced left front)
    (second : Spaced right back) : Spaced (left ++ right) (front ++ back) := by
  induction first with
  | nil blank => exact second.blanks_append blank
  | cons blank _ ih =>
      rw [List.append_assoc, List.append_assoc]
      exact .cons blank ih

theorem Spaced.exists_append {left right : List (List Char)}
    (spaced : Spaced (left ++ right) text) :
    ∃ front back, text = front ++ back ∧ Spaced left front ∧ Spaced right back := by
  induction left generalizing text with
  | nil => exact ⟨[], text, rfl, .nil blanks_nil, spaced⟩
  | cons token left ih =>
      cases spaced with
      | cons blank spaced =>
          obtain ⟨front, back, rfl, first, second⟩ := ih spaced
          exact ⟨_, back, by simp only [List.append_assoc], .cons blank first, second⟩

theorem spaced_nil_iff : Spaced [] text ↔ Blanks text := by
  constructor
  · intro spaced
    cases spaced with
    | nil blank => exact blank
  · exact .nil

theorem spaced_singleton_iff : Spaced [token] text ↔
    ∃ before after, Blanks before ∧ Blanks after ∧ text = before ++ (token ++ after) := by
  constructor
  · intro spaced
    cases spaced with
    | cons blankBefore spaced =>
        cases spaced with
        | nil blankAfter => exact ⟨_, _, blankBefore, blankAfter, rfl⟩
  · rintro ⟨before, after, blankBefore, blankAfter, rfl⟩
    exact .cons blankBefore (.nil blankAfter)

/-- A text begins with a blank or as its first token does. -/
theorem Spaced.head? {first : Char} (spaced : Spaced ((first :: token) :: tokens) text) :
    text.head?.all (fun character => isBlank character || character == first) = true := by
  cases spaced with
  | @cons blanks _ text _ blank spaced =>
      cases blanks with
      | nil => simp
      | cons character rest => simp [blank character List.mem_cons_self]

/-- Tokens between two others are tokens of the text that is enclosed by the two. -/
theorem spaced_enclosed_iff {opening closing : List Char} :
    Spaced (opening :: (tokens ++ [closing])) text ↔
      ∃ inner, Spaced [opening ++ (inner ++ closing)] text ∧ Spaced tokens inner := by
  constructor
  · intro spaced
    cases spaced with
    | cons blankBefore spaced =>
        obtain ⟨front, back, rfl, inside, last⟩ := spaced.exists_append
        obtain ⟨between, after, blankBetween, blankAfter, rfl⟩ := spaced_singleton_iff.mp last
        have inner : Spaced tokens (front ++ between) := by
          simpa using inside.append (.nil blankBetween)
        refine ⟨front ++ between, spaced_singleton_iff.mpr
          ⟨_, after, blankBefore, blankAfter, ?_⟩, inner⟩
        simp only [List.append_assoc]
  · rintro ⟨inner, spaced, inside⟩
    obtain ⟨before, after, blankBefore, blankAfter, rfl⟩ := spaced_singleton_iff.mp spaced
    have last : Spaced [closing] (closing ++ after) := .cons blanks_nil (.nil blankAfter)
    simp only [List.append_assoc]
    exact .cons blankBefore (inside.append last)

end Spaced

section Words

theorem words_blanks_append (blank : Blanks front) (text : List Char) :
    words (front ++ text) = words text := by
  induction front with
  | nil => rfl
  | cons character rest ih =>
      have isBlank := blank character List.mem_cons_self
      have others : Blanks rest := fun other member => blank other (List.mem_cons_of_mem _ member)
      rw [← ih others, words, List.cons_append, List.splitOnP_cons_eq_if_modifyHead, if_pos isBlank]
      rfl

theorem words_eq_nil_of_blanks (blank : Blanks text) : words text = [] := by
  have cut := words_blanks_append blank []
  rwa [List.append_nil] at cut

theorem words_word_append (filled : token ≠ [])
    (solid : ∀ character ∈ token, isBlank character = false)
    (ends : text.head?.all isBlank = true) :
    words (token ++ text) = token :: words text := by
  have isFilled : token.isEmpty = false := by simpa using filled
  cases text with
  | nil => simp [words, List.splitOnP_eq_singleton solid, isFilled]
  | cons blank rest =>
      have isBlank : isBlank blank = true := by simpa using ends
      have cut : words (blank :: rest) = words rest :=
        words_blanks_append (List.forall_mem_singleton.mpr isBlank) rest
      rw [cut, words, List.splitOnP_append_cons_of_forall_mem solid _ isBlank]
      simp [words, isFilled]

theorem Blanks.head? (blank : Blanks text) : text.head?.all isBlank = true := by
  cases text with
  | nil => rfl
  | cons first rest => exact blank first List.mem_cons_self

theorem SpacedWords.head? (spaced : SpacedWords parts text) : text.head?.all isBlank = true := by
  cases spaced with
  | nil blank => exact blank.head?
  | cons blank apart filled solid spaced =>
      obtain ⟨first, rest, rfl⟩ := List.exists_cons_of_ne_nil apart
      exact blank first List.mem_cons_self

theorem SpacedWords.words_eq (spaced : SpacedWords parts text) : words text = parts := by
  induction spaced with
  | nil blank => exact words_eq_nil_of_blanks blank
  | cons blank apart filled solid spaced ih =>
      rw [words_blanks_append blank, words_word_append filled solid spaced.head?, ih]

theorem exists_word (notBlanks : ¬ Blanks text) :
    ∃ blanks word after, Blanks blanks ∧ word ≠ [] ∧
      (∀ character ∈ word, isBlank character = false) ∧ after.head?.all isBlank = true ∧
      text = blanks ++ (word ++ after) := by
  obtain ⟨blanks, blank, same⟩ := exists_eq_append_trimStart text
  have starts := head?_dropWhile isBlank text
  cases rest : trimStart text with
  | nil =>
      rw [rest, List.append_nil] at same
      exact absurd (same ▸ blank) notBlanks
  | cons first others =>
      have notBlank : isBlank first = false := by
        rw [← trimStart, rest] at starts
        simpa using starts
      refine ⟨blanks, (first :: others).takeWhile (!isBlank ·),
        (first :: others).dropWhile (!isBlank ·), blank, ?_, ?_, ?_, ?_⟩
      · simp [notBlank]
      · intro character member
        simpa using List.mem_takeWhile_imp member
      · simpa using head?_dropWhile (!isBlank ·) (first :: others)
      · rw [List.takeWhile_append_dropWhile, ← rest, ← same]

theorem spacedWords_words (starts : text.head?.all isBlank = true) :
    SpacedWords (words text) text := by
  -- What is left after the first word and the blanks before it starts with a blank again.
  induction length : text.length using Nat.strong_induction_on generalizing text with
  | _ length ih =>
      subst length
      by_cases allBlank : Blanks text
      · rw [words_eq_nil_of_blanks allBlank]
        exact .nil allBlank
      · obtain ⟨blanks, word, after, blank, filled, solid, continues, rfl⟩ := exists_word allBlank
        have shorter : after.length < (blanks ++ (word ++ after)).length := by
          have := List.length_pos_iff.mpr filled
          simp only [List.length_append]
          omega
        have apart : blanks ≠ [] := by
          rintro rfl
          obtain ⟨first, rest, rfl⟩ := List.exists_cons_of_ne_nil filled
          have notBlank := solid first List.mem_cons_self
          have isBlank : isBlank first = true := starts
          rw [isBlank] at notBlank
          cases notBlank
        rw [words_blanks_append blank, words_word_append filled solid continues]
        exact .cons blank apart filled solid (ih _ shorter continues rfl)

/-- A text is cut into the words that it is written of, if it does not start with a word. -/
theorem spacedWords_iff :
    SpacedWords parts text ↔ text.head?.all isBlank = true ∧ words text = parts := by
  constructor
  · intro spaced
    exact ⟨spaced.head?, spaced.words_eq⟩
  · rintro ⟨starts, rfl⟩
    exact spacedWords_words starts

end Words

end Text

end CatalogGateway
