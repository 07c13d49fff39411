import Adventure.Proofs.Script.Spelling

/-!
# What the assembler does with bad text

Every text is either assembled or refused with an error, and the error names a line of the text
and something in it that is wrong (`Error.Blames`).  The offsets that the assembler adds up stay
below the length of the text, because an instruction is written with more characters than its
code has bytes (`size_le`); so they fit any word that can count the text.  The one computation
that leaves its word is the negation of the least number of 64 bits.
-/

set_option autoImplicit false

namespace Adventure.Assembler

/-! ## What can be wrong in a line -/

/-- The number of operands is wrong. -/
def Cause.Counts (given : Nat) : Cause → Prop
  | tooFew _ count => count = given
  | tooMany _ count => count = given
  | tooManyArguments => 255 < given
  | _ => False

/-- One operand, as it is written, is wrong. -/
def Cause.Blames (token : String) : Cause → Prop
  | badNumber text _ => text = token
  | outOfRange value least greatest =>
    numeral? token.toList = some value ∧ ¬(least ≤ value ∧ value ≤ greatest)
  | unknownLabel name => name = token
  | labelTooFar name => name = token
  | fault _ => NegatesLeast token
  | _ => False

/-- The number of the line that is refused. -/
def Error.line : Error → Nat
  | labelTwice line _ => line
  | unknownMnemonic line _ => line
  | inLine line _ => line

/-- The error says of a line what is wrong with it: one of its labels, its mnemonic, or the
number or one of its operands. -/
def Error.Blames (line : List Char) : Error → Prop
  | labelTwice _ label => label ∈ (splitLine line).1
  | unknownMnemonic _ word => ∃ operands, tokens (splitLine line).2 = word :: operands ∧
      Operation.ofMnemonic? word = none
  | inLine _ cause => ∃ word operands, tokens (splitLine line).2 = word :: operands ∧
      (Operation.ofMnemonic? word).isSome ∧
      (cause.Counts operands.length ∨ ∃ token ∈ operands, cause.Blames token)

theorem bind_eq_error {ε α β : Type} {first : Except ε α} {next : α → Except ε β} {cause : ε}
    (ended : first >>= next = .error cause) :
    first = .error cause ∨ ∃ value, first = .ok value ∧ next value = .error cause := by
  cases first with
  | error found =>
      cases ended
      exact .inl rfl
  | ok value => exact .inr ⟨value, rfl, ended⟩

theorem map_eq_error {ε α β : Type} {change : α → β} {result : Except ε α} {cause : ε}
    (ended : result.map change = .error cause) : result = .error cause := by
  cases result with
  | error found =>
      cases ended
      rfl
  | ok value => cases ended

/-- A fold that fails does so at one of its values, in the state reached before. -/
theorem foldlM_error {ε σ α : Type} {step : σ → α → Except ε σ} {values : List α} {state : σ}
    {cause : ε} (ended : values.foldlM step state = .error cause) :
    ∃ before value after reached, values = before ++ value :: after ∧
      before.foldlM step state = .ok reached ∧ step reached value = .error cause := by
  induction values generalizing state with
  | nil => cases ended
  | cons value rest ih =>
      rw [List.foldlM_cons] at ended
      rcases bind_eq_error ended with here | ⟨next, first, later⟩
      · exact ⟨[], value, rest, state, rfl, rfl, here⟩
      · obtain ⟨before, other, after, reached, rfl, ran, failed⟩ := ih later
        refine ⟨value :: before, other, after, reached, rfl, ?_, failed⟩
        rw [List.foldlM_cons, first]
        exact ran

/-! ## The first reading -/

theorem defineLabels_error {number offset : Nat} {names : List String} {known : Labels}
    {error : Error} (failed : defineLabels number offset names known = .error error) :
    ∃ label ∈ names, error = .labelTwice number label := by
  induction names generalizing known with
  | nil => cases failed
  | cons name rest ih =>
      unfold defineLabels at failed
      split at failed
      next =>
        cases failed
        exact ⟨name, .head _, rfl⟩
      next =>
        obtain ⟨label, member, rfl⟩ := ih failed
        exact ⟨label, .tail _ member, rfl⟩

theorem operandsSize_error {operation : Operation} {given left : Nat} {shape : List Operand}
    {cause : Cause} (within : left ≤ given)
    (failed : operandsSize operation given shape left = .error cause) : cause.Counts given := by
  induction shape generalizing left with
  | nil =>
      cases left with
      | zero => cases failed
      | succ => cases failed; rfl
  | cons operand rest ih =>
      unfold operandsSize at failed
      split at failed
      next =>
        split at failed
        next =>
          cases failed
          rfl
        next fewer => exact ih (by omega) (map_eq_error failed)
      next =>
        split at failed
        next => exact ih (Nat.zero_le _) (map_eq_error failed)
        next many =>
          cases failed
          exact Nat.lt_of_lt_of_le (Nat.lt_of_not_le many) within

theorem addLine_error {layout : Layout} {numbered : List Char × Nat} {error : Error}
    (failed : addLine layout numbered = .error error) :
    error.line = numbered.2 ∧ error.Blames numbered.1 := by
  rcases bind_eq_error failed with twice | ⟨labels, -, rest⟩
  · obtain ⟨label, member, rfl⟩ := defineLabels_error twice
    exact ⟨rfl, member⟩
  · split at rest
    next => cases rest
    next word operands found =>
      split at rest
      next unknown =>
        cases rest
        exact ⟨rfl, operands, found, unknown⟩
      next operation named =>
        split at rest
        next cause refused =>
          cases rest
          exact ⟨rfl, word, operands, found, by rw [named]; rfl,
            .inl (operandsSize_error (Nat.le_refl _) (map_eq_error refused))⟩
        next => cases rest

/-! ## The second reading -/

section Operands

variable {labels : Labels} {offset : Nat} {given : List String} {cause : Cause}

theorem applyMinus_error {negative : Bool} {unsigned : Int}
    (failed : applyMinus negative unsigned = .error cause) : ∃ fault, cause = .fault fault := by
  cases negative with
  | false => cases failed
  | true =>
      rw [applyMinus, if_pos rfl] at failed
      cases negated : Word.int64 (-unsigned) with
      | error fault =>
          rw [negated] at failed
          cases failed
          exact ⟨fault, rfl⟩
      | ok value =>
          rw [negated] at failed
          cases failed

theorem number_error {token : String} (failed : number token = .error cause) :
    cause.Blames token := by
  obtain ⟨negative, digits, -, same⟩ := number_eq token
  have refused := failed
  rw [same] at refused
  split at refused
  next =>
    cases refused
    rfl
  next =>
    obtain ⟨fault, rfl⟩ := applyMinus_error refused
    exact number_faults_iff.mp ⟨fault, failed⟩

theorem numberIn_error {least greatest : Int} {token : String}
    (failed : numberIn least greatest token = .error cause) : cause.Blames token := by
  rcases bind_eq_error failed with refused | ⟨value, read, rest⟩
  · exact number_error refused
  · split at rest
    next => cases rest
    next outside =>
      cases rest
      exact ⟨number_ok read, outside⟩

theorem signedWords_error (failed : given.mapM signedWord = .error cause) :
    ∃ token ∈ given, cause.Blames token := by
  induction given with
  | nil => cases failed
  | cons token rest ih =>
      rw [List.mapM_cons] at failed
      rcases bind_eq_error failed with refused | ⟨value, -, failed⟩
      · exact ⟨token, .head _, numberIn_error refused⟩
      · rcases bind_eq_error failed with refused | ⟨values, -, failed⟩
        · obtain ⟨other, member, blames⟩ := ih refused
          exact ⟨other, .tail _ member, blames⟩
        · cases failed

theorem distance_error {after : Nat} {name : String}
    (failed : distance labels after name = .error cause) : cause.Blames name := by
  unfold distance at failed
  split at failed
  next =>
    cases failed
    rfl
  next =>
    dsimp only at failed
    split at failed
    next => cases failed
    next =>
      cases failed
      rfl

/-- An operand is refused for a token, unless there is none. -/
theorem readOperand_error {operand : Operand}
    (failed : readOperand labels offset operand given = .error cause) :
    (given = [] ∧ operand ≠ .args) ∨ ∃ token ∈ given, cause.Blames token := by
  cases operand with
  | args =>
      rw [readOperand_args_eq] at failed
      rcases bind_eq_error failed with refused | ⟨values, -, ended⟩
      · exact .inr (signedWords_error refused)
      · cases ended
  | _ =>
      cases given with
      | nil => exact .inl ⟨rfl, by decide⟩
      | cons token rest =>
          refine .inr ⟨token, .head _, ?_⟩
          rcases bind_eq_error failed with refused | ⟨value, -, rest⟩
          · first
            | exact numberIn_error refused
            | exact distance_error refused
          · cases rest

/-- **The second reading refuses one of the tokens**; their number was checked before. -/
theorem readOperands_error {operation : Operation} {count width : Nat} {shape : List Operand}
    (sized : operandsSize operation count shape given.length = .ok width)
    (failed : readOperands labels shape offset given = .error cause) :
    ∃ token ∈ given, cause.Blames token := by
  induction shape generalizing offset given width with
  | nil => cases failed
  | cons operand rest ih =>
      unfold operandsSize at sized
      rcases bind_eq_error failed with refused | ⟨⟨value, left⟩, first, later⟩
      · rcases readOperand_error refused with ⟨rfl, fixed⟩ | blames
        · cases operand with
          | args => exact absurd rfl fixed
          | _ => cases sized
        · exact blames
      · obtain ⟨here, rfl, -⟩ := readOperand_denotes first
        rcases bind_eq_error later with refused | ⟨values, -, ended⟩
        · suffices more : ∃ width, operandsSize operation count rest left.length = .ok width by
            obtain ⟨width, sized⟩ := more
            obtain ⟨token, member, blames⟩ := ih sized refused
            exact ⟨token, List.mem_append_right _ member, blames⟩
          split at sized
          next size known =>
            obtain ⟨taken, -, -⟩ := readOperand_sized known first
            rw [← taken] at sized
            obtain ⟨more, expected, -⟩ := map_eq_ok sized
            exact ⟨more, expected⟩
          next unknown =>
            obtain rfl := eq_args_of_size? unknown
            obtain ⟨rfl, -, -⟩ := readOperand_args first
            split at sized
            next =>
              obtain ⟨more, expected, -⟩ := map_eq_ok sized
              exact ⟨more, expected⟩
            next => cases sized
        · cases ended

end Operands

/-- Every line that was kept comes from a line of the text. -/
def Kept (numbered : List (List Char × Nat)) (line : Line) : Prop :=
  ∃ text, (text, line.number) ∈ numbered ∧ ∃ word, tokens (splitLine text).2 = word :: line.tokens ∧
    Operation.ofMnemonic? word = some line.operation

theorem layout_kept {source : String} {found : Layout} (read : layout source = .ok found) :
    ∀ line ∈ found.lines, Kept ((Text.lines source.toList).zipIdx 1) line := by
  have kept := foldlM_kept (fun done layout => ∀ line ∈ layout.lines, Kept done line)
    (fun {done layout next numbered} kept added => by
      have earlier : ∀ line ∈ layout.lines, Kept (numbered :: done) line := by
        intro line member
        obtain ⟨text, here, rest⟩ := kept line member
        exact ⟨text, .tail _ here, rest⟩
      obtain ⟨labels, -, ⟨-, rfl⟩ | ⟨word, operands, operation, width, text, named, -, rfl⟩⟩ :=
        addLine_ok added
      · exact earlier
      · rintro line (_ | ⟨_, member⟩)
        · exact ⟨numbered.1, .head _, word, text, named⟩
        · exact earlier line member)
    (by simp) read
  intro line member
  obtain ⟨text, here, rest⟩ := kept line member
  exact ⟨text, List.mem_reverse.mp here, rest⟩

theorem readLine_error {labels : Labels} {written : Written} {line : Line} {error : Error}
    (sized : Sized line) (failed : readLine labels written line = .error error) :
    ∃ cause : Cause, error = .inLine line.number cause ∧
      ∃ token ∈ line.tokens, cause.Blames token := by
  unfold readLine at failed
  split at failed
  next cause refused =>
    cases failed
    obtain ⟨width, expected, -⟩ := map_eq_ok sized
    exact ⟨cause, rfl, readOperands_error expected refused⟩
  next => cases failed

/-- **A text is assembled, or it is refused for something in one of its lines.** -/
theorem assembled_or_blamed (source : String) :
    (∃ assembled, assemble source = .ok assembled) ∨
      ∃ error line, assemble source = .error error ∧
        (line, error.line) ∈ (Text.lines source.toList).zipIdx 1 ∧ error.Blames line := by
  cases answer : assemble source with
  | ok assembled => exact .inl ⟨assembled, rfl⟩
  | error error =>
      suffices blamed : ∃ line,
          (line, error.line) ∈ (Text.lines source.toList).zipIdx 1 ∧ error.Blames line by
        obtain ⟨line, blamed⟩ := blamed
        exact .inr ⟨error, line, rfl, blamed⟩
      rcases bind_eq_error answer with refused | ⟨_, _, ended⟩
      · rcases bind_eq_error refused with refused | ⟨found, laid, refused⟩
        · obtain ⟨before, numbered, after, reached, whole, -, failed⟩ := foldlM_error refused
          obtain ⟨number, blames⟩ := addLine_error failed
          refine ⟨numbered.1, ?_, blames⟩
          rw [number, whole]
          simp
        · rcases bind_eq_error refused with refused | ⟨_, _, ended⟩
          · obtain ⟨before, line, after, reached, whole, -, failed⟩ := foldlM_error refused
            have member : line ∈ found.lines := by
              rw [← List.mem_reverse, whole]
              simp
            obtain ⟨text, here, word, written, named⟩ := layout_kept laid line member
            obtain ⟨cause, rfl, blames⟩ := readLine_error ((layout_ok laid).sized line member) failed
            exact ⟨text, here, word, line.tokens, written, by rw [named]; rfl, .inr blames⟩
          · cases ended
      · cases ended

/-! ## Offsets -/

open Text

theorem operandsSize_le {operation : Operation} {given left width : Nat} {shape : List Operand}
    (sized : operandsSize operation given shape left = .ok width) :
    width ≤ 2 * left + shape.count .args := by
  induction shape generalizing left width with
  | nil =>
      cases left with
      | zero =>
          cases sized
          exact Nat.zero_le _
      | succ => cases sized
  | cons operand rest ih =>
      unfold operandsSize at sized
      split at sized
      next size known =>
        have small : size ≤ 2 ∧ operand ≠ .args := by
          cases operand <;> cases known <;> decide
        rw [List.count_cons_of_ne small.2]
        split at sized
        next => cases sized
        next fewer =>
          obtain ⟨more, expected, rfl⟩ := map_eq_ok sized
          have later := ih expected
          omega
      next unknown =>
        obtain rfl := eq_args_of_size? unknown
        rw [List.count_cons_self]
        split at sized
        next =>
          obtain ⟨more, expected, rfl⟩ := map_eq_ok sized
          have later := ih expected
          omega
        next => cases sized

/-- **An instruction is written with at least as many characters as its code has bytes**: two
for each operand, and a mnemonic for the rest. -/
theorem size_le {operation : Operation} {given width : Nat}
    (sized : size operation given = .ok width) :
    width ≤ operation.mnemonic.length + 2 * given := by
  obtain ⟨more, expected, rfl⟩ := map_eq_ok sized
  have operands := operandsSize_le expected
  have enough : 1 + operation.shape.count .args ≤ operation.mnemonic.length := by
    cases operation <;> decide
  omega

/-- The characters of some lines. -/
def characters (lines : List (List Char × Nat)) : Nat := (lines.map (·.1.length)).sum

theorem characters_lines_le (source : String) (count : Nat) :
    characters (((Text.lines source.toList).zipIdx 1).take count) ≤ source.length := by
  have fits := (lined_lines source.toList).sum_length_le
  have all : characters ((Text.lines source.toList).zipIdx 1) =
      ((Text.lines source.toList).map List.length).sum := by
    rw [characters, ← List.zipIdx_map_fst 1 (Text.lines source.toList), List.map_map,
      List.zipIdx_map_fst]
    rfl
  have parts := List.take_append_drop count ((Text.lines source.toList).zipIdx 1)
  rw [← parts, characters, List.map_append, List.sum_append, ← characters, ← characters] at all
  rw [← String.length_toList]
  omega

/-- The offsets of the first reading are no more than the characters read so far. -/
structure LaidWithin (limit : Nat) (layout : Layout) : Prop where
  offset : layout.offset ≤ limit
  labels : ∀ label ∈ layout.labels, label.2 ≤ layout.offset

theorem LaidWithin.addLine {limit : Nat} {layout next : Layout} {numbered : List Char × Nat}
    (within : LaidWithin limit layout) (added : Assembler.addLine layout numbered = .ok next) :
    LaidWithin (numbered.1.length + limit) next := by
  obtain ⟨offset, labels⟩ := within
  obtain ⟨known, defined, rest⟩ := addLine_ok added
  have placed : ∀ label ∈ known, label.2 ≤ layout.offset := by
    intro label member
    rcases defineLabels_ok defined label member with before | here
    · exact labels label before
    · exact Nat.le_of_eq here
  rcases rest with ⟨-, rfl⟩ | ⟨word, operands, operation, width, found, named, sized, rfl⟩
  · exact ⟨Nat.le_add_left_of_le offset, placed⟩
  · have characters := Nat.le_trans (length_tokens_le found) (split_splitLine numbered.1).length_le
    have bytes := size_le sized
    rw [Operation.mnemonic_of_ofMnemonic? named] at bytes
    refine ⟨?_, fun label member => Nat.le_add_right_of_le (placed label member)⟩
    dsimp only
    omega

/-- All that is counted while a text is assembled is at most `limit`: its lines, and the offsets
that either reading comes to, the one after the instruction that is being read included. -/
structure CountsWithin (limit : Nat) (source : String) : Prop where
  lines : (Text.lines source.toList).length ≤ limit
  first : ∀ {count reached},
    (((Text.lines source.toList).zipIdx 1).take count).foldlM addLine ⟨[], 0, []⟩ = .ok reached →
    reached.offset ≤ limit ∧ ∀ label ∈ reached.labels, label.2 ≤ limit
  second : ∀ {found before line after reached}, layout source = .ok found →
    found.lines.reverse = before ++ line :: after →
    before.foldlM (readLine found.labels) ⟨0, []⟩ = .ok reached →
    reached.offset + expectedSize line ≤ limit

theorem countsWithin_length (source : String) : CountsWithin source.length source := by
  have first {count : Nat} {reached : Layout}
      (read : (((Text.lines source.toList).zipIdx 1).take count).foldlM addLine ⟨[], 0, []⟩ =
        .ok reached) : LaidWithin source.length reached := by
    have within := foldlM_kept (fun done layout => LaidWithin (characters done) layout)
      (fun within added => within.addLine added) ⟨Nat.zero_le _, by simp⟩ read
    have fits := characters_lines_le source count
    refine ⟨Nat.le_trans within.offset ?_, within.labels⟩
    rw [characters, List.map_reverse, List.sum_reverse, ← characters]
    exact fits
  refine ⟨?_, ?_, ?_⟩
  · rw [← String.length_toList]
    exact (lined_lines _).length_le
  · intro count reached read
    have within := first read
    exact ⟨within.offset, fun label member => Nat.le_trans (within.labels label member)
      within.offset⟩
  · intro found before line after reached laid whole ran
    have sized : ∀ other ∈ before.reverse, Sized other := by
      intro other member
      refine (layout_ok laid).sized other (List.mem_reverse.mp ?_)
      rw [whole]
      exact List.mem_append_left _ (List.mem_reverse.mp member)
    have out : WrittenOut found.labels before.reverse reached :=
      foldlM_kept (WrittenOut found.labels) (fun out read => out.readLine read)
        ⟨rfl, fun _ => rfl, by simp, by simp⟩ ran
    have total : found.offset = (found.lines.reverse.map expectedSize).sum := by
      rw [(layout_ok laid).offset, List.map_reverse, List.sum_reverse]
    have all : LaidWithin source.length found := by
      refine first (?_ : (List.take (Text.lines source.toList).length _).foldlM _ _ = _)
      rw [List.take_of_length_le (by rw [List.length_zipIdx])]
      exact laid
    have fits := all.offset
    rw [total, whole, List.map_append, List.sum_append, List.map_cons, List.sum_cons] at fits
    rw [out.offset, out.sizes sized, List.map_reverse, List.sum_reverse]
    omega

/-- **Bad text is refused, never computed with.**  Every text is assembled, or refused for
something in a line that the error names.  What is counted on the way is at most the length of
the text.  Only a minus in front of the least number of 64 bits leaves its word. -/
theorem assemble_answers (source : String) :
    ((∃ assembled, assemble source = .ok assembled) ∨
      ∃ error line, assemble source = .error error ∧
        (line, error.line) ∈ (Text.lines source.toList).zipIdx 1 ∧ error.Blames line) ∧
    CountsWithin source.length source ∧
    ∀ token, (∃ fault, number token = .error (.fault fault)) ↔ NegatesLeast token :=
  ⟨assembled_or_blamed source, countsWithin_length source, fun _ => number_faults_iff⟩

/-- The operand of this delay has no value. -/
theorem twice_negated_faults :
    assemble "delay --9223372036854775808" = .error (.inLine 1 (.fault .overflow)) := by
  decide +kernel

end Adventure.Assembler
