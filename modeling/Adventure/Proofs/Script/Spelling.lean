import Adventure.Proofs.Script.Listing
import Adventure.Proofs.Text.Pieces

/-!
# How a text spells its items

What stands in a text (`items`) is found by the same functions that the assembler reads it with.
Here it is said without them.  A line ends before its comment (`Body`), has labels in front that
end at their colons (`Labelled`), and after them words between blanks and commas
(`Text.Worded`); together that is how a line spells its items (`Spells`).

Every relation puts the text together from its parts and leaves no choice of them.  So the
functions lose nothing and invent nothing: `splitLine_eq_iff` and `tokens_eq_iff` for one line,
`items_eq_iff` for a whole text.
-/

set_option autoImplicit false

namespace Adventure.Assembler

open Text

variable {line body core text before after name : List Char} {labels : List String}

/-! ## Comments -/

/-- What stands in a line before its comment, if there is one. -/
inductive Body : (line body : List Char) → Prop where
  | whole {line : List Char} (free : ';' ∉ line) : Body line line
  | comment {body comment : List Char} (free : ';' ∉ body) : Body (body ++ ';' :: comment) body

theorem takeWhile_eq_iff : line.takeWhile (· != ';') = body ↔ Body line body := by
  constructor
  · rintro rfl
    have free : ';' ∉ line.takeWhile (· != ';') := fun member => by
      simpa using List.all_eq_true.mp List.all_takeWhile _ member
    have whole := List.takeWhile_append_dropWhile (p := (· != ';')) (l := line)
    cases rest : line.dropWhile (· != ';') with
    | nil =>
        rw [rest, List.append_nil] at whole
        rw [whole] at free ⊢
        exact .whole free
    | cons c comment =>
        have stops := List.head?_dropWhile_not (· != ';') line
        rw [rest] at stops
        obtain rfl : c = ';' := by simpa using stops
        rw [rest] at whole
        have commented : Body (_ ++ ';' :: comment) _ := .comment free
        rwa [whole] at commented
  · have kept : ∀ {front : List Char}, ';' ∉ front → ∀ c ∈ front, (c != ';') = true := by
      intro front free c member
      rw [bne, free_iff.mpr free c member]
      rfl
    rintro (free | free)
    · rw [← List.append_nil line, List.takeWhile_append_of_pos (kept free)]
      rfl
    · rw [List.takeWhile_append_of_pos (kept free), List.takeWhile_cons_of_neg (by simp),
        List.append_nil]

theorem Body.length_le (within : Body line body) : body.length ≤ line.length := by
  cases within with
  | whole free => exact Nat.le_refl _
  | comment free =>
      rw [List.length_append]
      exact Nat.le_add_right _ _

/-! ## Labels -/

/-- A name that a label can have. -/
structure IsName (name : List Char) : Prop where
  some_ : name ≠ []
  front : ∀ c ∈ name.head?, c.isDigit = false
  chars : ∀ c ∈ name, c.isAlphanum = true ∨ c = '_' ∨ c = '-'

theorem isLabel_iff : isLabel name = true ↔ IsName name := by
  cases name with
  | nil => exact ⟨fun label => absurd label (by decide), fun label => absurd rfl label.some_⟩
  | cons c rest =>
      simp only [isLabel, isLabelChar, Bool.and_eq_true, Bool.not_eq_true', List.all_eq_true,
        Bool.or_eq_true, beq_iff_eq, or_assoc]
      constructor
      · rintro ⟨front, chars⟩
        exact ⟨List.cons_ne_nil _ _, by simpa using front, chars⟩
      · intro label
        exact ⟨label.front c rfl, label.chars⟩

/-- Labels in front of a text.  A label ends at the first colon that is left; when what stands
before that colon is no name, the colon belongs to the text. -/
inductive Labelled : (body : List Char) → (labels : List String) → (text : List Char) → Prop where
  | plain {body text : List Char} (free : ':' ∉ body) (trimmed : Trimmed body text) :
      Labelled body [] text
  | other {before after text name : List Char} (free : ':' ∉ before)
      (named : Trimmed before name) (bad : ¬IsName name)
      (trimmed : Trimmed (before ++ ':' :: after) text) :
      Labelled (before ++ ':' :: after) [] text
  | label {before after text name : List Char} {labels : List String} (free : ':' ∉ before)
      (named : Trimmed before name) (good : IsName name) (later : Labelled after labels text) :
      Labelled (before ++ ':' :: after) (String.ofList name :: labels) text

theorem joinColons_cons {piece : List Char} {others : List (List Char)} (more : others ≠ []) :
    joinColons (piece :: others) = piece ++ ':' :: joinColons others := by
  obtain ⟨next, rest, rfl⟩ := List.exists_cons_of_ne_nil more
  rfl

theorem joinColons_of_cut {found : List (List Char)} (cut : Cut (· == ':') body found) :
    joinColons found = body := by
  induction cut with
  | last free => rfl
  | cons free marks later ih =>
      obtain rfl := eq_of_beq marks
      rw [joinColons_cons later.ne_nil, ih]

/-- What the first colon decides. -/
theorem peelLabels_cons {piece : List Char} {others : List (List Char)} (more : others ≠ []) :
    peelLabels (piece :: others) =
      if isLabel (trim piece) then
        (String.ofList (trim piece) :: (peelLabels others).1, (peelLabels others).2)
      else ([], trim (joinColons (piece :: others))) := by
  obtain ⟨next, rest, rfl⟩ := List.exists_cons_of_ne_nil more
  rfl

theorem labelled_of_cut {found : List (List Char)} (cut : Cut (· == ':') body found) :
    Labelled body (peelLabels found).1 (peelLabels found).2 := by
  induction cut with
  | @last piece free =>
      exact .plain (free_iff.mp free) (trimmed_trim piece)
  | @cons piece rest mark others free marks later ih =>
      have joined := joinColons_of_cut (.cons free marks later)
      obtain rfl : mark = ':' := eq_of_beq marks
      have free : ':' ∉ piece := free_iff.mp free
      rw [peelLabels_cons later.ne_nil, joined]
      split
      next good => exact .label free (trimmed_trim piece) (isLabel_iff.mp good) ih
      next bad =>
        exact .other free (trimmed_trim piece) (fun good => bad (isLabel_iff.mpr good))
          (trimmed_trim _)

theorem Labelled.peelLabels_eq (labelled : Labelled body labels text) :
    peelLabels (pieces (· == ':') body) = (labels, text) := by
  induction labelled with
  | plain free trimmed =>
      rw [pieces_of_free (free_iff.mpr free), peelLabels, trim_eq_iff.mpr trimmed]
  | @other before after text name free named bad trimmed =>
      have cut := cut_pieces (· == ':') (before ++ ':' :: after)
      rw [pieces_append_mark (free_iff.mpr free) rfl] at cut ⊢
      rw [peelLabels_cons (cut_pieces _ _).ne_nil, trim_eq_iff.mpr named,
        if_neg (fun good => bad (isLabel_iff.mp good)), joinColons_of_cut cut,
        trim_eq_iff.mpr trimmed]
  | label free named good later ih =>
      rw [pieces_append_mark (free_iff.mpr free) rfl, peelLabels_cons (cut_pieces _ _).ne_nil,
        trim_eq_iff.mpr named, if_pos (isLabel_iff.mpr good), ih]

theorem Labelled.length_le (labelled : Labelled body labels text) : text.length ≤ body.length := by
  induction labelled with
  | plain free trimmed => exact trimmed.length_le
  | other free named bad trimmed => exact trimmed.length_le
  | label free named good later ih =>
      rw [List.length_append, List.length_cons]
      omega

/-- The labels of a line and the text behind them. -/
inductive Split (line : List Char) (labels : List String) (text : List Char) : Prop where
  | intro {body core : List Char} (within : Body line body) (trimmed : Trimmed body core)
      (labelled : Labelled core labels text)

/-- **A line is split in one way**: the comment goes, labels end at their colons, and the rest
stays as it is written. -/
theorem splitLine_eq_iff : splitLine line = (labels, text) ↔ Split line labels text := by
  constructor
  · intro same
    have labelled := labelled_of_cut (cut_pieces (· == ':') (trim (line.takeWhile (· != ';'))))
    rw [← splitLine, same] at labelled
    exact .intro (takeWhile_eq_iff.mp rfl) (trimmed_trim _) labelled
  · rintro ⟨within, trimmed, labelled⟩
    rw [splitLine, takeWhile_eq_iff.mpr within, trim_eq_iff.mpr trimmed, labelled.peelLabels_eq]

theorem split_splitLine (line : List Char) : Split line (splitLine line).1 (splitLine line).2 :=
  splitLine_eq_iff.mp rfl

/-- What is left of a line without labels and comment is no longer than the line. -/
theorem Split.length_le (split : Split line labels text) : text.length ≤ line.length := by
  obtain ⟨within, trimmed, labelled⟩ := split
  exact Nat.le_trans labelled.length_le (Nat.le_trans trimmed.length_le within.length_le)

/-! ## Words -/

/-- Words stand between blanks and commas. -/
def isSeparator (c : Char) : Bool := isBlank c || c == ','

/-- **The tokens of a text are its words**, the longest stretches between separators. -/
theorem tokens_eq_iff {found : List String} :
    tokens text = found ↔ Worded isSeparator text (found.map String.toList) := by
  rw [← words_eq_iff]
  change (words isSeparator text).map String.ofList = found ↔ _
  constructor
  · rintro rfl
    simp [Function.comp_def]
  · intro same
    simp [same, Function.comp_def]

/-- Every operand takes a separator and a character. -/
theorem length_tokens_le {word : String} {operands : List String}
    (found : tokens text = word :: operands) : word.length + 2 * operands.length ≤ text.length := by
  have worded := tokens_eq_iff.mp found
  rw [List.map_cons] at worded
  cases worded with
  | cons marks some_ free ends later =>
      have fits := later.two_mul_length_le.2 ends
      rw [List.length_map] at fits
      simp only [List.length_append, String.length_toList]
      omega

/-! ## Items -/

/-- A line spells its labels and, unless only separators are left, a statement. -/
inductive Spells (line : List Char) : List Item → Prop where
  | labels {labels : List String} {text : List Char} (split : Split line labels text)
      (blank : Worded isSeparator text []) : Spells line (labels.map .label)
  | statement {labels : List String} {text : List Char} {word : String} {operands : List String}
      (split : Split line labels text)
      (worded : Worded isSeparator text ((word :: operands).map String.toList)) :
      Spells line (labels.map .label ++ [.instruction ⟨word, operands⟩])

theorem lineItems_eq_iff {found : List Item} : lineItems line = found ↔ Spells line found := by
  constructor
  · rintro rfl
    have split := split_splitLine line
    unfold lineItems
    cases words : tokens (splitLine line).2 with
    | nil =>
        rw [List.append_nil]
        exact .labels split (tokens_eq_iff.mp words)
    | cons word operands => exact .statement split (tokens_eq_iff.mp words)
  · rintro (⟨split, blank⟩ | ⟨split, worded⟩)
    · have none_ : tokens _ = [] := tokens_eq_iff.mpr blank
      rw [lineItems, splitLine_eq_iff.mpr split, none_, List.append_nil]
    · rw [lineItems, splitLine_eq_iff.mpr split, tokens_eq_iff.mpr worded]

example : lineItems "top: again : walk-actor 1, -2 30 ; to the door".toList =
    [.label "top", .label "again", .instruction ⟨"walk-actor", ["1", "-2", "30"]⟩] := by
  decide

theorem map_lineItems_eq_iff {lines : List (List Char)} {spelled : List (List Item)} :
    lines.map lineItems = spelled ↔ List.Forall₂ Spells lines spelled := by
  have same : Spells = fun line found => lineItems line = found := by
    funext line found
    exact propext lineItems_eq_iff.symm
  rw [same, ← List.forall₂_map_left_iff, List.forall₂_eq_eq_eq]

/-- **What stands in a text**: the items that its lines spell, line after line. -/
theorem items_eq_iff {source : String} {found : List Item} :
    items source = found ↔ ∃ lines spelled, Lined source.toList lines ∧
      List.Forall₂ Spells lines spelled ∧ found = spelled.flatten := by
  constructor
  · rintro rfl
    exact ⟨_, _, lined_lines _, map_lineItems_eq_iff.mp rfl, by rw [items, List.flatMap_def]⟩
  · rintro ⟨lines, spelled, lined, spells, rfl⟩
    rw [items, lines_eq_iff.mpr lined, List.flatMap_def, map_lineItems_eq_iff.mpr spells]

end Adventure.Assembler
