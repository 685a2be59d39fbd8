import CatalogGateway.Proofs.Text.Spacing
import CatalogGateway.Text.Identifier

/-!
# Identifiers split off

An identifier that was written at the front of a text is split off again, whatever it is made
of, as long as the text after it does not go on with it: a plain word ends before a character
that no word has, and a quoted identifier before anything but a quote.
-/

namespace CatalogGateway

namespace Text

namespace Identifier

variable {column rest : List Char}

theorem readQuoted_append (column : List Char) (ends : rest.head? ≠ some '"') :
    readQuoted (doubleQuotes column ++ '"' :: rest) = some (column, rest) := by
  induction column with
  | nil =>
      cases rest with
      | nil => rfl
      | cons next others =>
          have notQuote : next ≠ '"' := fun same => ends (congrArg some same)
          simp [doubleQuotes, readQuoted, notQuote]
  | cons character column ih =>
      have written : doubleQuotes (character :: column) =
          (if character = '"' then ['"', '"'] else [character]) ++ doubleQuotes column := rfl
      rw [written]
      by_cases isQuote : character = '"'
      · subst isQuote
        simp [readQuoted, ih]
      · rw [if_neg isQuote]
        simp [readQuoted, isQuote, ih]

theorem eq_append_of_readQuoted {text : List Char} (read : readQuoted text = some (column, rest)) :
    text = doubleQuotes column ++ '"' :: rest ∧ rest.head? ≠ some '"' := by
  induction text using readQuoted.induct generalizing column with
  | case1 => cases read
  | case2 inner ih =>
      rw [readQuoted] at read
      obtain ⟨⟨column, rest⟩, inside, same⟩ := Option.map_eq_some_iff.mp read
      cases same
      obtain ⟨rfl, ends⟩ := ih inside
      exact ⟨rfl, ends⟩
  | case3 after single =>
      rw [readQuoted] at read
      · cases read
        refine ⟨rfl, fun starts => ?_⟩
        obtain ⟨others, same⟩ := List.head?_eq_some_iff.mp starts
        exact single others same
      · exact single
  | case4 character inner notDoubled notQuote ih =>
      rw [readQuoted] at read
      · obtain ⟨⟨column, rest⟩, inside, same⟩ := Option.map_eq_some_iff.mp read
        cases same
        obtain ⟨rfl, ends⟩ := ih inside
        have differs : character ≠ '"' := notQuote
        exact ⟨by simp [doubleQuotes, differs], ends⟩
      · exact notDoubled
      · exact notQuote

/-- What is read up to a closing quote is what was written with its quotes doubled. -/
theorem readQuoted_eq_some_iff {text : List Char} : readQuoted text = some (column, rest) ↔
    text = doubleQuotes column ++ '"' :: rest ∧ rest.head? ≠ some '"' := by
  constructor
  · exact eq_append_of_readQuoted
  · rintro ⟨rfl, ends⟩
    exact readQuoted_append column ends

theorem takeWhile_append_of_ends {test : Char → Bool} (all : ∀ character ∈ column,
    test character = true) (ends : rest.head?.all (!test ·) = true) :
    (column ++ rest).takeWhile test = column ∧ (column ++ rest).dropWhile test = rest := by
  rw [List.takeWhile_append_of_pos all, List.dropWhile_append_of_pos all]
  cases rest with
  | nil => simp
  | cons next others =>
      have stops : test next = false := by simpa using ends
      simp [stops]

/-- Whether an identifier ends where a text begins. -/
def EndsAt (column rest : List Char) : Prop :=
  if isPlain column then rest.head?.all (!isWordCharacter ·) = true else rest.head? ≠ some '"'

theorem split?_of_word {first : Char} (isWord : isWordCharacter first = true)
    (text : List Char) : split? (first :: text) =
      some ⟨(first :: text).takeWhile isWordCharacter, false,
        (first :: text).dropWhile isWordCharacter⟩ := by
  have notBlank := isBlank_eq_false_of_isWordCharacter isWord
  have front : trimStart (first :: text) = first :: text :=
    trimStart_of_head (by simp [notBlank])
  rw [split?, front]
  split
  · rename_i same
    rw [(List.cons.inj same).1] at isWord
    exact absurd isWord (by decide +kernel)
  · rw [List.takeWhile_cons_of_pos isWord]

theorem split?_of_quoted {text rest : List Char} {first : Char}
    (read : readQuoted text = some (first :: column, rest)) :
    split? ('"' :: text) = some ⟨first :: column, true, rest⟩ := by
  have notBlank : isBlank '"' = false := by decide
  have front : trimStart ('"' :: text) = '"' :: text :=
    trimStart_of_head (by simp [notBlank])
  simp only [split?, front, read]

theorem split?_blanks_append {blanks : List Char} (blank : Blanks blanks) (text : List Char) :
    split? (blanks ++ text) = split? text := by
  simp only [split?, trimStart_append blank]

/-- How an identifier is written, quoted or not: a plain word as it is, and any text that is not
empty between quotes, with its own quotes doubled. -/
inductive Written : Bool → List Char → List Char → Prop where
  | plain {word : List Char} (plain : isPlain word = true) : Written false word word
  | quoted {column : List Char} (named : column ≠ []) :
      Written true column ('"' :: (doubleQuotes column ++ ['"']))

/-- Whether a written identifier ends where a text begins. -/
def Stops (quoted : Bool) (rest : List Char) : Prop :=
  if quoted then rest.head? ≠ some '"' else rest.head?.all (!isWordCharacter ·) = true

/-- An identifier ends before a blank and before a mark that no identifier goes on with. -/
theorem stops_of_head? (quoted : Bool) (mark : Char)
    (isMark : isWordCharacter mark = false ∧ mark ≠ '"')
    (starts : rest.head?.all (fun character => isBlank character || character == mark) = true) :
    Stops quoted rest := by
  cases rest with
  | nil => cases quoted <;> simp [Stops]
  | cons first others =>
      have ends : isWordCharacter first = false ∧ first ≠ '"' := by
        rcases Bool.or_eq_true_iff.mp starts with blank | same
        · refine ⟨isWordCharacter_eq_false_of_isBlank blank, ?_⟩
          rintro rfl
          cases blank
        · rw [eq_of_beq same]
          exact isMark
      cases quoted <;> simp [Stops, ends]

theorem stops_of_head?_isBlank (quoted : Bool) (starts : rest.head?.all isBlank = true) :
    Stops quoted rest := by
  refine stops_of_head? quoted ' ' (by decide +kernel) ?_
  cases rest with
  | nil => rfl
  | cons first others => exact Bool.or_eq_true_iff.mpr (.inl starts)

theorem stops_of_spaced_nil (quoted : Bool) (spaced : Spaced [] rest) : Stops quoted rest :=
  stops_of_head?_isBlank quoted (spaced_nil_iff.mp spaced).head?

theorem isPlain_iff : isPlain column = true ↔
    column ≠ [] ∧ ∀ character ∈ column, isWordCharacter character = true := by
  simp [isPlain]

theorem Written.column_ne_nil {quoted : Bool} {written : List Char}
    (form : Written quoted column written) : column ≠ [] := by
  cases form with
  | plain plain => exact (isPlain_iff.mp plain).1
  | quoted named => exact named

theorem written_quote (named : column ≠ []) : Written (!isPlain column) column (quote column) := by
  rw [quote]
  cases plain : isPlain column with
  | true => exact .plain plain
  | false => exact .quoted named

theorem exists_written_of_split? {text : List Char} {front : Front}
    (split : split? text = some front) : ∃ before written, Blanks before ∧
      Written front.quoted front.column written ∧ Stops front.quoted front.rest ∧
      text = before ++ (written ++ front.rest) := by
  obtain ⟨before, blank, same⟩ := exists_eq_append_trimStart text
  rw [split?] at split
  split at split
  · rename_i inner starts
    split at split
    · rename_i first column rest read
      cases split
      obtain ⟨rfl, ends⟩ := readQuoted_eq_some_iff.mp read
      refine ⟨before, _, blank, .quoted (List.cons_ne_nil first column), ends, ?_⟩
      rw [same, starts]
      simp
    · cases split
  · split at split
    · cases split
    · rename_i first column taken
      cases split
      have words : ∀ character ∈ first :: column, isWordCharacter character = true :=
        fun _ member => List.mem_takeWhile_imp (taken ▸ member)
      refine ⟨before, _, blank, .plain (isPlain_iff.mpr ⟨List.cons_ne_nil first column, words⟩),
        head?_dropWhile isWordCharacter _, ?_⟩
      rw [← taken, List.takeWhile_append_dropWhile]
      exact same

/-- What is split off a text is the identifier that stands there after blanks, and it is all of
the identifier. -/
theorem split?_eq_some_iff {text : List Char} {front : Front} : split? text = some front ↔
    ∃ before written, Blanks before ∧ Written front.quoted front.column written ∧
      Stops front.quoted front.rest ∧ text = before ++ (written ++ front.rest) := by
  constructor
  · exact exists_written_of_split?
  · obtain ⟨column, quoted, rest⟩ := front
    rintro ⟨before, written, blank, form, stops, rfl⟩
    rw [split?_blanks_append blank]
    cases form with
    | plain plain =>
        obtain ⟨named, words⟩ := isPlain_iff.mp plain
        obtain ⟨taken, dropped⟩ := takeWhile_append_of_ends words stops
        obtain ⟨first, others, rfl⟩ := List.exists_cons_of_ne_nil named
        rw [List.cons_append, split?_of_word (words first List.mem_cons_self)]
        rw [List.cons_append] at taken dropped
        rw [taken, dropped]
    | quoted named =>
        have read := readQuoted_append column stops
        obtain ⟨first, others, rfl⟩ := List.exists_cons_of_ne_nil named
        simp only [List.cons_append, List.append_assoc, List.nil_append]
        exact split?_of_quoted read

theorem exists_spaced_of_split? {text : List Char} {tokens : List (List Char)} {quoted : Bool}
    (split : split? text = some ⟨column, quoted, rest⟩) (spaced : Spaced tokens rest) :
    ∃ identifier, Written quoted column identifier ∧ Spaced (identifier :: tokens) text := by
  obtain ⟨before, identifier, blank, written, _, rfl⟩ := split?_eq_some_iff.mp split
  exact ⟨identifier, written, .cons blank spaced⟩

/-- The first of some tokens is split off if it is an identifier that ends before the others. -/
theorem exists_split?_of_spaced {text identifier : List Char} {tokens : List (List Char)}
    {quoted : Bool} (written : Written quoted column identifier)
    (spaced : Spaced (identifier :: tokens) text)
    (stops : ∀ rest, Spaced tokens rest → Stops quoted rest) :
    ∃ rest, split? text = some ⟨column, quoted, rest⟩ ∧ Spaced tokens rest := by
  cases spaced with
  | cons blank spaced =>
      exact ⟨_, split?_eq_some_iff.mpr ⟨_, identifier, blank, written, stops _ spaced, rfl⟩, spaced⟩

theorem stops_iff_endsAt : Stops (!isPlain column) rest ↔ EndsAt column rest := by
  unfold EndsAt
  cases plain : isPlain column <;> simp [Stops]

/-- An identifier that was written at the front of a text is split off, if it has characters and
the text does not go on with it. -/
theorem split?_quote_append_iff :
    split? (quote column ++ rest) = some ⟨column, !isPlain column, rest⟩ ↔
      column ≠ [] ∧ EndsAt column rest := by
  rw [← stops_iff_endsAt]
  constructor
  · intro split
    obtain ⟨_, _, _, form, stops, _⟩ := split?_eq_some_iff.mp split
    exact ⟨form.column_ne_nil, stops⟩
  · rintro ⟨named, stops⟩
    exact split?_eq_some_iff.mpr ⟨[], _, blanks_nil, written_quote named, stops, rfl⟩

theorem split?_quote_append (named : column ≠ []) (ends : EndsAt column rest) :
    split? (quote column ++ rest) = some ⟨column, !isPlain column, rest⟩ :=
  split?_quote_append_iff.mpr ⟨named, ends⟩

/-- A text that goes on with neither a word nor a quote ends every identifier before it. -/
theorem endsAt_cons (column : List Char) (next : Char) (rest : List Char)
    (stops : isWordCharacter next = false ∧ next ≠ '"') : EndsAt column (next :: rest) := by
  unfold EndsAt
  split <;> simp [stops]

@[simp]
theorem endsAt_nil (column : List Char) : EndsAt column [] := by
  unfold EndsAt
  split <;> simp

theorem split?_quoted_append {column : String} (suffix : String) (named : column ≠ "")
    (ends : EndsAt column.toList suffix.toList) :
    split? (quoted column ++ suffix).toList =
      some ⟨column.toList, !isPlain column.toList, suffix.toList⟩ := by
  have namedList : column.toList ≠ [] := by simpa using named
  have split := split?_quote_append namedList ends
  simpa [quoted] using split

theorem split?_quoted {column : String} (named : column ≠ "") :
    split? (quoted column).toList = some ⟨column.toList, !isPlain column.toList, []⟩ := by
  have split := split?_quoted_append "" named (endsAt_nil _)
  rwa [String.append_empty] at split

theorem endsAt_blank (column rest : List Char) : EndsAt column (' ' :: rest) :=
  endsAt_cons column ' ' rest (by decide +kernel)

theorem Written.ne_nil {quoted : Bool} {written : List Char}
    (form : Written quoted column written) : written ≠ [] := by
  cases form with
  | plain plain => exact (isPlain_iff.mp plain).1
  | quoted _ => exact List.cons_ne_nil _ _

/-- What is split off a text is not empty, and neither is the part of the text that it takes. -/
theorem exists_append_rest_of_split? {text : List Char} {front : Front}
    (split : split? text = some front) :
    front.column ≠ [] ∧ ∃ taken, taken ≠ [] ∧ text = taken ++ front.rest := by
  obtain ⟨before, written, _, form, _, same⟩ := split?_eq_some_iff.mp split
  refine ⟨form.column_ne_nil, before ++ written, ?_, by rw [same, List.append_assoc]⟩
  exact List.append_ne_nil_of_right_ne_nil before form.ne_nil

/-- Writing an identifier is undone by splitting it off, after any blanks and before any text that
does not go on with it.  Whatever is split off a text has characters, and a shorter text is
left. -/
theorem split?_undoes_quoted :
    (∀ blanks column rest : String, Blanks blanks.toList →
      (split? (blanks ++ quoted column ++ rest).toList =
          some ⟨column.toList, !isPlain column.toList, rest.toList⟩ ↔
        column ≠ "" ∧ EndsAt column.toList rest.toList)) ∧
    ∀ text : String, split? text.toList = none ∨ ∃ front, split? text.toList = some front ∧
      front.column ≠ [] ∧ front.rest <:+ text.toList ∧ front.rest ≠ text.toList := by
  constructor
  · intro blanks column rest blank
    have parts : (blanks ++ quoted column ++ rest).toList =
        blanks.toList ++ (quote column.toList ++ rest.toList) := by
      simp [quoted]
    rw [parts, split?_blanks_append blank, split?_quote_append_iff, Ne, String.toList_eq_nil_iff]
  · intro text
    cases split : split? text.toList with
    | none => exact .inl rfl
    | some front =>
        obtain ⟨named, taken, filled, same⟩ := exists_append_rest_of_split? split
        refine .inr ⟨front, rfl, named, ⟨taken, same.symm⟩, fun whole => filled ?_⟩
        exact List.append_left_eq_self.mp (same.symm.trans whole.symm)

/-- A name that ends in quotes, after a tab and before a keyword. -/
theorem split?_trailingQuotes :
    Blanks "\t".toList ∧ EndsAt "a\"\"".toList " DESC".toList ∧
      split? "\t\"a\"\"\"\"\" DESC".toList = some ⟨"a\"\"".toList, true, " DESC".toList⟩ := by
  have blank : Blanks "\t".toList := by
    intro character member
    obtain rfl : character = '\t' := by simpa using member
    rfl
  have ends : EndsAt "a\"\"".toList " DESC".toList := endsAt_blank _ _
  have split := (split?_undoes_quoted.1 "\t" "a\"\"" " DESC" blank).mpr ⟨by decide, ends⟩
  exact ⟨blank, ends, split⟩

end Identifier

end Text

end CatalogGateway
