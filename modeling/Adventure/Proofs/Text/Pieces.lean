import Adventure.Text.Blank
import Mathlib.Algebra.GroupWithZero.Nat

/-!
# Pieces, words and lines of a text

Splitting a text is specified here without the functions that do it.  A text is *cut* at its
marks when no piece has a mark in it and one mark stands between each piece and the next
(`Cut`); its *words* are the longest stretches without marks (`Worded`); its *lines* end at line
feeds (`Lined`); and what is *trimmed* has lost blanks at both ends and nothing else (`Trimmed`).
Each of these relations puts the text together again from its parts, so nothing is lost, added
or moved, and each determines the parts: `pieces_eq_iff`, `words_eq_iff`, `lines_eq_iff` and
`trim_eq_iff` say that the functions compute exactly them.
-/

set_option autoImplicit false

namespace Adventure.Text

variable {isMark : Char → Bool} {text piece rest gap word : List Char} {mark : Char}

/-- A text is free of a character when it does not occur. -/
theorem free_iff {sign : Char} : (∀ c ∈ text, (c == sign) = false) ↔ sign ∉ text := by
  constructor
  · intro free member
    exact absurd (free sign member) (by simp)
  · intro absent c member
    rw [beq_eq_false_iff_ne]
    rintro rfl
    exact absent member

/-! ## Pieces -/

/-- A text is cut at its marks. -/
inductive Cut (isMark : Char → Bool) : List Char → List (List Char) → Prop where
  | last {piece : List Char} (free : ∀ c ∈ piece, isMark c = false) : Cut isMark piece [piece]
  | cons {piece rest : List Char} {mark : Char} {others : List (List Char)}
      (free : ∀ c ∈ piece, isMark c = false) (marks : isMark mark = true)
      (later : Cut isMark rest others) : Cut isMark (piece ++ mark :: rest) (piece :: others)

theorem Cut.ne_nil {found : List (List Char)} (cut : Cut isMark text found) : found ≠ [] := by
  cases cut <;> exact List.cons_ne_nil _ _

/-- What is left of a text is cut, with the current piece in front. -/
theorem splitAt_cut (text : List Char) (before : List (List Char))
    (free : ∀ c ∈ piece, isMark c = false) :
    ∃ after, splitAt isMark text piece before = before.reverse ++ after ∧
      Cut isMark (piece.reverse ++ text) after := by
  induction text generalizing piece before with
  | nil =>
      refine ⟨[piece.reverse], by rw [splitAt, List.reverse_cons], ?_⟩
      rw [List.append_nil]
      exact .last (by simpa using free)
  | cons c text ih =>
      rw [splitAt]
      split
      next marks =>
        obtain ⟨after, same, cut⟩ := ih (piece.reverse :: before) (List.forall_mem_nil _)
        refine ⟨piece.reverse :: after, by rw [same]; simp, ?_⟩
        exact .cons (by simpa using free) marks cut
      next other =>
        have longer : ∀ d ∈ c :: piece, isMark d = false :=
          List.forall_mem_cons.mpr ⟨Bool.eq_false_iff.mpr other, free⟩
        obtain ⟨after, same, cut⟩ := ih before longer
        refine ⟨after, same, ?_⟩
        simpa using cut

theorem cut_pieces (isMark : Char → Bool) (text : List Char) :
    Cut isMark text (pieces isMark text) := by
  obtain ⟨after, same, cut⟩ := splitAt_cut text [] (List.forall_mem_nil (isMark · = false))
  rw [pieces, same]
  exact cut

/-- Characters that are no marks join the current piece. -/
theorem splitAt_append (free : ∀ c ∈ piece, isMark c = false) (rest current : List Char)
    (before : List (List Char)) :
    splitAt isMark (piece ++ rest) current before =
      splitAt isMark rest (piece.reverse ++ current) before := by
  induction piece generalizing current with
  | nil => rfl
  | cons c piece ih =>
      obtain ⟨other, free⟩ := List.forall_mem_cons.mp free
      rw [List.cons_append, splitAt, other, if_neg Bool.false_ne_true, ih free,
        List.reverse_cons, List.append_assoc]
      rfl

theorem Cut.splitAt_eq {found : List (List Char)} (cut : Cut isMark text found)
    (before : List (List Char)) : splitAt isMark text [] before = before.reverse ++ found := by
  induction cut generalizing before with
  | @last piece free =>
      have whole := splitAt_append free [] [] before
      rw [List.append_nil, List.append_nil] at whole
      rw [whole, splitAt, List.reverse_reverse, List.reverse_cons]
  | cons free marks later ih =>
      rw [splitAt_append free, splitAt, if_pos marks, ih, List.append_nil, List.reverse_reverse,
        List.reverse_cons, List.append_assoc]
      rfl

/-- **A text is cut in one way**, into its pieces. -/
theorem pieces_eq_iff {found : List (List Char)} :
    pieces isMark text = found ↔ Cut isMark text found := by
  constructor
  · rintro rfl
    exact cut_pieces isMark text
  · exact fun cut => cut.splitAt_eq []

theorem pieces_of_free (free : ∀ c ∈ piece, isMark c = false) : pieces isMark piece = [piece] :=
  pieces_eq_iff.mpr (.last free)

theorem pieces_append_mark (free : ∀ c ∈ piece, isMark c = false) (marks : isMark mark = true)
    (rest : List Char) : pieces isMark (piece ++ mark :: rest) = piece :: pieces isMark rest :=
  pieces_eq_iff.mpr (.cons free marks (cut_pieces isMark rest))

/-! ## Words -/

/-- The words of a text: the pieces that are not empty. -/
def words (isMark : Char → Bool) (text : List Char) : List (List Char) :=
  (pieces isMark text).filter (!·.isEmpty)

/-- The words of a text are its longest stretches without marks: a gap of marks stands in front
of each, and a mark or the end of the text behind it. -/
inductive Worded (isMark : Char → Bool) : List Char → List (List Char) → Prop where
  | nil {gap : List Char} (marks : ∀ c ∈ gap, isMark c = true) : Worded isMark gap []
  | cons {gap word rest : List Char} {others : List (List Char)}
      (marks : ∀ c ∈ gap, isMark c = true) (some_ : word ≠ [])
      (free : ∀ c ∈ word, isMark c = false) (ends : ∀ c ∈ rest.head?, isMark c = true)
      (later : Worded isMark rest others) : Worded isMark (gap ++ (word ++ rest)) (word :: others)

/-- One more mark in front makes no difference to the words. -/
theorem Worded.cons_mark {found : List (List Char)} (marks : isMark mark = true)
    (worded : Worded isMark rest found) : Worded isMark (mark :: rest) found := by
  cases worded with
  | nil gap => exact .nil (List.forall_mem_cons.mpr ⟨marks, gap⟩)
  | cons gap some_ free ends later =>
      exact .cons (List.forall_mem_cons.mpr ⟨marks, gap⟩) some_ free ends later

/-- A word may stand in front, without a gap. -/
theorem Worded.cons_word {others : List (List Char)} (some_ : word ≠ [])
    (free : ∀ c ∈ word, isMark c = false) (ends : ∀ c ∈ rest.head?, isMark c = true)
    (later : Worded isMark rest others) : Worded isMark (word ++ rest) (word :: others) :=
  .cons (List.forall_mem_nil _) some_ free ends later

theorem Cut.worded {found : List (List Char)} (cut : Cut isMark text found) :
    Worded isMark text (found.filter (!·.isEmpty)) := by
  induction cut with
  | @last piece free =>
      cases piece with
      | nil => exact .nil (List.forall_mem_nil _)
      | cons c piece =>
          have worded : Worded isMark (c :: piece ++ []) [c :: piece] :=
            .cons_word (List.cons_ne_nil _ _) free (by simp) (.nil (List.forall_mem_nil _))
          rwa [List.append_nil] at worded
  | @cons piece rest mark others free marks later ih =>
      cases piece with
      | nil => exact ih.cons_mark marks
      | cons c piece =>
          exact .cons_word (List.cons_ne_nil _ _) free (by simpa using marks) (ih.cons_mark marks)

theorem words_mark (marks : isMark mark = true) :
    words isMark (mark :: rest) = words isMark rest := by
  rw [words, words, ← List.nil_append (mark :: rest),
    pieces_append_mark (List.forall_mem_nil _) marks]
  rfl

theorem words_gap (marks : ∀ c ∈ gap, isMark c = true) :
    words isMark (gap ++ rest) = words isMark rest := by
  induction gap with
  | nil => rfl
  | cons c gap ih =>
      obtain ⟨first, marks⟩ := List.forall_mem_cons.mp marks
      rw [List.cons_append, words_mark first, ih marks]

theorem words_word (some_ : word ≠ []) (free : ∀ c ∈ word, isMark c = false)
    (ends : ∀ c ∈ rest.head?, isMark c = true) :
    words isMark (word ++ rest) = word :: words isMark rest := by
  cases rest with
  | nil =>
      rw [List.append_nil, words, pieces_of_free free,
        List.filter_cons_of_pos (by simpa using some_)]
      rfl
  | cons c rest =>
      have marks : isMark c = true := ends c rfl
      rw [words_mark marks, words, pieces_append_mark free marks,
        List.filter_cons_of_pos (by simpa using some_)]
      rfl

/-- **A text has its words in one way.** -/
theorem words_eq_iff {found : List (List Char)} :
    words isMark text = found ↔ Worded isMark text found := by
  constructor
  · rintro rfl
    exact (cut_pieces isMark text).worded
  · intro worded
    induction worded with
    | @nil gap marks =>
        rw [← List.append_nil gap, words_gap marks]
        rfl
    | cons marks some_ free ends later ih => rw [words_gap marks, words_word some_ free ends, ih]

/-- Every word takes a mark and a character; the mark is missing only in front of a word that
the text starts with. -/
theorem Worded.two_mul_length_le {found : List (List Char)} (worded : Worded isMark text found) :
    2 * found.length ≤ text.length + 1 ∧
      ((∀ c ∈ text.head?, isMark c = true) → 2 * found.length ≤ text.length) := by
  induction worded with
  | nil marks => simp
  | @cons gap word rest others marks some_ free ends later ih =>
      have full := List.length_pos_iff.mpr some_
      have fits := ih.2 ends
      simp only [List.length_append, List.length_cons]
      refine ⟨by omega, fun front => ?_⟩
      have between : gap ≠ [] := by
        rintro rfl
        obtain ⟨c, tail, rfl⟩ := List.exists_cons_of_ne_nil some_
        cases (front c rfl).symm.trans (free c (.head _))
      have wide := List.length_pos_iff.mpr between
      omega

/-! ## Lines -/

/-- The lines of a text: each ends at a line feed, or at a carriage return with a line feed, and
the last may have no end when it is not empty. -/
inductive Lined : List Char → List (List Char) → Prop where
  | nil : Lined [] []
  | last {line : List Char} (some_ : line ≠ []) (free : '\n' ∉ line) : Lined line [line]
  | feed {line rest : List Char} {others : List (List Char)} (free : '\n' ∉ line)
      (plain : line.getLast? ≠ some '\r') (later : Lined rest others) :
      Lined (line ++ '\n' :: rest) (line :: others)
  | returnFeed {line rest : List Char} {others : List (List Char)} (free : '\n' ∉ line)
      (later : Lined rest others) : Lined (line ++ '\r' :: '\n' :: rest) (line :: others)

section Lines

variable {line : List Char}

theorem dropReturn_of_plain (plain : line.getLast? ≠ some '\r') : dropReturn line = line := by
  unfold dropReturn
  split
  next front reversed =>
    rw [← List.reverse_reverse line, reversed, List.reverse_cons, List.getLast?_concat] at plain
    exact absurd rfl plain
  next => rfl

theorem dropReturn_concat (line : List Char) : dropReturn (line ++ ['\r']) = line := by
  simp [dropReturn]

theorem lines_of_free (some_ : line ≠ []) (free : '\n' ∉ line) : lines line = [line] := by
  obtain ⟨c, tail, rfl⟩ := List.exists_cons_of_ne_nil some_
  simp [lines, pieces_of_free (free_iff.mpr free)]

theorem lines_append_feed (free : '\n' ∉ line) (rest : List Char) :
    lines (line ++ '\n' :: rest) = dropReturn line :: lines rest := by
  have more := (cut_pieces (· == '\n') rest).ne_nil
  rw [lines, pieces_append_mark (free_iff.mpr free) rfl, List.dropLast_cons_of_ne_nil more,
    List.getLast?_cons_of_ne_nil more, List.map_cons, lines]
  split <;> rfl

theorem Cut.lined {found : List (List Char)} (cut : Cut (· == '\n') text found) :
    Lined text (lines text) := by
  induction cut with
  | @last piece free =>
      have free : '\n' ∉ piece := free_iff.mp free
      by_cases empty : piece = []
      · rw [empty]
        exact .nil
      · rw [lines_of_free empty free]
        exact .last empty free
  | @cons piece rest mark others free marks later ih =>
      obtain rfl : mark = '\n' := eq_of_beq marks
      have free : '\n' ∉ piece := free_iff.mp free
      rw [lines_append_feed free]
      by_cases plain : piece.getLast? = some '\r'
      · obtain ⟨line, rfl⟩ := List.getLast?_eq_some_iff.mp plain
        rw [dropReturn_concat, List.append_assoc]
        exact .returnFeed (fun member => free (List.mem_append_left _ member)) ih
      · rw [dropReturn_of_plain plain]
        exact .feed free plain ih

/-- **A text has its lines in one way.** -/
theorem lines_eq_iff {found : List (List Char)} : lines text = found ↔ Lined text found := by
  constructor
  · rintro rfl
    exact (cut_pieces (· == '\n') text).lined
  · intro lined
    induction lined with
    | nil => rfl
    | last some_ free => exact lines_of_free some_ free
    | feed free plain later ih => rw [lines_append_feed free, dropReturn_of_plain plain, ih]
    | @returnFeed line rest others free later ih =>
        have whole : '\n' ∉ line ++ ['\r'] := by simpa using free
        have ended := lines_append_feed whole rest
        rw [dropReturn_concat, List.append_assoc] at ended
        rw [← ih]
        exact ended

theorem lined_lines (text : List Char) : Lined text (lines text) := lines_eq_iff.mp rfl

/-- The characters of all lines are characters of the text. -/
theorem Lined.sum_length_le {found : List (List Char)} (lined : Lined text found) :
    (found.map List.length).sum ≤ text.length := by
  induction lined with
  | nil => exact Nat.le_refl _
  | last some_ free => simp
  | feed free plain later ih =>
      simp only [List.map_cons, List.sum_cons, List.length_append, List.length_cons]
      omega
  | returnFeed free later ih =>
      simp only [List.map_cons, List.sum_cons, List.length_append, List.length_cons]
      omega

/-- A text has no more lines than characters. -/
theorem Lined.length_le {found : List (List Char)} (lined : Lined text found) :
    found.length ≤ text.length := by
  induction lined with
  | nil => exact Nat.le_refl _
  | last some_ free => exact List.length_pos_iff.mpr some_
  | feed free plain later ih =>
      simp only [List.length_append, List.length_cons]
      omega
  | returnFeed free later ih =>
      simp only [List.length_append, List.length_cons]
      omega

end Lines

/-! ## Trimming -/

/-- Blanks are taken from both ends of a text until there are none. -/
structure Trimmed (text core : List Char) : Prop where
  parts : ∃ front back, text = front ++ (core ++ back) ∧ (∀ c ∈ front, isBlank c = true) ∧
    ∀ c ∈ back, isBlank c = true
  first : ∀ c ∈ core.head?, isBlank c = false
  last : ∀ c ∈ core.getLast?, isBlank c = false

theorem dropWhile_append_blanks {front rest : List Char} (blanks : ∀ c ∈ front, isBlank c = true)
    (starts : ∀ c ∈ rest.head?, isBlank c = false) :
    (front ++ rest).dropWhile isBlank = rest := by
  rw [List.dropWhile_append_of_pos blanks]
  cases rest with
  | nil => rfl
  | cons c rest => rw [List.dropWhile_cons_of_neg (by simpa using starts)]

theorem dropWhile_parts (text : List Char) : ∃ front, text = front ++ text.dropWhile isBlank ∧
    (∀ c ∈ front, isBlank c = true) ∧
    ∀ c ∈ (text.dropWhile isBlank).head?, isBlank c = false := by
  refine ⟨text.takeWhile isBlank, List.takeWhile_append_dropWhile.symm, ?_, ?_⟩
  · exact List.all_eq_true.mp List.all_takeWhile
  · intro c first
    have kept := List.head?_dropWhile_not isBlank text
    rw [first] at kept
    simpa using kept

/-- **A text is trimmed in one way.** -/
theorem trim_eq_iff {core : List Char} : trim text = core ↔ Trimmed text core := by
  constructor
  · rintro rfl
    obtain ⟨front, whole, blanks, starts⟩ := dropWhile_parts text
    obtain ⟨back, turned, blanks', ends⟩ := dropWhile_parts (text.dropWhile isBlank).reverse
    have parts : text.dropWhile isBlank = trim text ++ back.reverse := by
      rw [← List.reverse_reverse (text.dropWhile isBlank), turned, List.reverse_append]
      rfl
    refine ⟨⟨front, back.reverse, by rw [← parts, ← whole], blanks, by simpa using blanks'⟩, ?_, ?_⟩
    · intro c first
      refine starts c ?_
      rw [parts, List.head?_append, Option.mem_def.mp first]
      rfl
    · intro c last
      refine ends c ?_
      rwa [trim, List.getLast?_reverse] at last
  · rintro ⟨⟨front, back, rfl, blanks, blanks'⟩, first, last⟩
    by_cases empty : core = []
    · subst empty
      have all : ∀ c ∈ front ++ back, isBlank c = true := by
        intro c member
        exact (List.mem_append.mp member).elim (blanks c) (blanks' c)
      rw [trim, List.nil_append, ← List.append_nil (front ++ back),
        dropWhile_append_blanks all (by simp)]
      rfl
    · have starts : ∀ c ∈ (core ++ back).head?, isBlank c = false := by
        obtain ⟨c, tail, rfl⟩ := List.exists_cons_of_ne_nil empty
        exact first
      have reversed : ∀ c ∈ back.reverse, isBlank c = true := by simpa using blanks'
      rw [trim, dropWhile_append_blanks blanks starts, List.reverse_append,
        dropWhile_append_blanks reversed (by rwa [List.head?_reverse]), List.reverse_reverse]

theorem trimmed_trim (text : List Char) : Trimmed text (trim text) := trim_eq_iff.mp rfl

theorem Trimmed.length_le {core : List Char} (trimmed : Trimmed text core) :
    core.length ≤ text.length := by
  obtain ⟨front, back, rfl, -, -⟩ := trimmed.parts
  simp only [List.length_append]
  omega

end Adventure.Text
