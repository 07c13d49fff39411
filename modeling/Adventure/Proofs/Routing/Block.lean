import Adventure.Routing.Block

/-!
# Routing and its block

A block of routing rows is read from the front, and what a byte means depends on where the
entries before it end: `0xFF` closes a row where an entry could begin and is a plain number
inside an entry.  Every byte string can be taken apart accordingly, into closed rows, the
entries of a row that is not closed, and bytes that are too few for one more entry
(`exists_laidOut`).  Reading gives the closed rows and the open one and drops the rest
(`decode_laidOut`).

From this follows what survives in either direction.  Rows come back from their block unless
an entry begins with `0xFF`, which no entry that was read does.  A block comes back from its
rows unless it was cut short.
-/

set_option autoImplicit false

namespace Adventure

/-- No entry begins with the byte that closes a row of a block. -/
def Matrix.Storable (rows : List (List RouteEntry)) : Prop :=
  ∀ row ∈ rows, ∀ entry ∈ row, entry.low ≠ RouteBlock.rowEnd

namespace RouteBlock

/-- The bytes of entries, without the end of their row. -/
def encodeEntries (row : List RouteEntry) : Bytes :=
  row.flatMap fun entry => [entry.low, entry.high, entry.hop]

theorem encodeRow_eq (row : List RouteEntry) : encodeRow row = encodeEntries row ++ [rowEnd] := rfl

theorem encodeEntries_concat (row : List RouteEntry) (entry : RouteEntry) :
    encodeEntries (row ++ [entry]) = encodeEntries row ++ [entry.low, entry.high, entry.hop] := by
  simp [encodeEntries]

theorem encode_concat (rows : List (List RouteEntry)) (row : List RouteEntry) :
    encode (rows ++ [row]) = encode rows ++ encodeRow row := by
  simp [encode]

/-! ## Reading -/

theorem read_entries (rows : List (List RouteEntry)) (rest : Bytes) {row : List RouteEntry}
    (plain : ∀ entry ∈ row, entry.low ≠ rowEnd) (current : List RouteEntry) :
    read (encodeEntries row ++ rest) rows current = read rest rows (row.reverse ++ current) := by
  induction row generalizing current with
  | nil => rfl
  | cons entry row ih =>
      obtain ⟨first, later⟩ := List.forall_mem_cons.mp plain
      change read (entry.low :: entry.high :: entry.hop :: (encodeEntries row ++ rest)) rows
        current = _
      rw [read, if_neg first, ih later]
      simp

theorem read_rowEnd (rows : List (List RouteEntry)) (rest : Bytes) (current : List RouteEntry) :
    read (rowEnd :: rest) rows current = read rest (current.reverse :: rows) [] := by
  rw [read.eq_def]
  exact if_pos rfl

theorem read_row (rows : List (List RouteEntry)) (rest : Bytes) {row : List RouteEntry}
    (plain : ∀ entry ∈ row, entry.low ≠ rowEnd) :
    read (encodeRow row ++ rest) rows [] = read rest (row :: rows) [] := by
  rw [encodeRow_eq, List.append_assoc, read_entries rows _ plain, List.singleton_append,
    read_rowEnd]
  simp

theorem read_rows {rows : List (List RouteEntry)} (plain : Matrix.Storable rows) (rest : Bytes)
    (before : List (List RouteEntry)) :
    read (encode rows ++ rest) before [] = read rest (rows.reverse ++ before) [] := by
  induction rows generalizing before with
  | nil => rfl
  | cons row rows ih =>
      obtain ⟨first, later⟩ := List.forall_mem_cons.mp plain
      change read ((encodeRow row ++ encode rows) ++ rest) before [] = _
      rw [List.append_assoc, read_row before _ first, ih later]
      simp

/-- Bytes that are too few for an entry are dropped, and the block counts as cut short. -/
theorem read_rest {rest : Bytes} (short : rest.length < 3) (open_ : rest.head? ≠ some rowEnd)
    (rows : List (List RouteEntry)) (current : List RouteEntry) :
    read rest rows current = close rows current (!rest.isEmpty) := by
  match rest with
  | [] => rw [read]; rfl
  | [first] =>
      have first : first ≠ rowEnd := fun same => open_ (congrArg some same)
      rw [read, if_neg first]
      · rfl
      · simp
  | [first, second] =>
      have first : first ≠ rowEnd := fun same => open_ (congrArg some same)
      rw [read, if_neg first]
      · rfl
      · simp

/-! ## The parts of a block -/

/-- A byte string taken apart: rows that are closed, the entries of a row that is not, and bytes
that are too few for one more entry. -/
structure LaidOut (input : Bytes) (rows : List (List RouteEntry)) (row : List RouteEntry)
    (rest : Bytes) : Prop where
  bytes : input = encode rows ++ (encodeEntries row ++ rest)
  closed : Matrix.Storable rows
  unclosed : ∀ entry ∈ row, entry.low ≠ rowEnd
  few : rest.length < 3
  endless : rest.head? ≠ some rowEnd

/-- Every byte string has such parts.  The induction is that of `read`, and what has been read
stands in front of what is still to be read. -/
theorem laidOut_before (input : Bytes) {rows : List (List RouteEntry)} {current : List RouteEntry}
    (closed : Matrix.Storable rows) (unclosed : ∀ entry ∈ current, entry.low ≠ rowEnd) :
    ∃ all row rest,
      LaidOut (encode rows.reverse ++ (encodeEntries current.reverse ++ input)) all row rest := by
  have reversed : ∀ {rows : List (List RouteEntry)}, Matrix.Storable rows →
      Matrix.Storable rows.reverse := fun closed row member =>
    closed row (List.mem_reverse.mp member)
  have turned : ∀ {row : List RouteEntry}, (∀ entry ∈ row, entry.low ≠ rowEnd) →
      ∀ entry ∈ row.reverse, entry.low ≠ rowEnd := fun plain entry member =>
    plain entry (List.mem_reverse.mp member)
  fun_induction read input rows current with
  | case1 rows current =>
      exact ⟨_, _, [], rfl, reversed closed, turned unclosed, by decide, by decide⟩
  | case2 rows current rest ih =>
      obtain ⟨all, row, left, laid⟩ :=
        ih (List.forall_mem_cons.mpr ⟨turned unclosed, closed⟩) (List.forall_mem_nil _)
      refine ⟨all, row, left, ?_⟩
      rw [List.reverse_cons, encode_concat, encodeRow_eq] at laid
      simpa [encodeEntries] using laid
  | case3 first rows current plain high hop later ih =>
      obtain ⟨all, row, left, laid⟩ := ih closed (List.forall_mem_cons.mpr ⟨plain, unclosed⟩)
      refine ⟨all, row, left, ?_⟩
      rw [List.reverse_cons, encodeEntries_concat] at laid
      simpa using laid
  | case4 first rest rows current plain short =>
      refine ⟨_, _, first :: rest, rfl, reversed closed, turned unclosed, ?_, ?_⟩
      · match rest with
        | [] => simp
        | [_] => simp
        | high :: hop :: later => exact absurd rfl (short high hop later)
      · exact fun same => plain (Option.some.inj same)

theorem exists_laidOut (input : Bytes) : ∃ rows row rest, LaidOut input rows row rest :=
  laidOut_before input (List.forall_mem_nil _) (List.forall_mem_nil _)

/-- What is read from a block: its closed rows and the entries of the open one. -/
theorem decode_laidOut {input : Bytes} {rows : List (List RouteEntry)} {row : List RouteEntry}
    {rest : Bytes} (laid : LaidOut input rows row rest) :
    decode input =
      if row.isEmpty then ⟨rows, !rest.isEmpty⟩ else ⟨rows ++ [row], true⟩ := by
  rw [decode, laid.bytes, read_rows laid.closed, read_entries _ _ laid.unclosed,
    read_rest laid.few laid.endless, List.append_nil, List.append_nil, close]
  simp

/-- The last two bytes are too few for an entry, and the second of them closes nothing. -/
example : decode [0, 2, 1, 0xFF, 1, 0xFF] = ⟨[[⟨0, 2, 1⟩]], true⟩ := by decide

/-- **Routing is read back from its block**, unless an entry begins with the byte that closes a
row. -/
theorem decode_encode {rows : List (List RouteEntry)}
    (plain : ∀ row ∈ rows, ∀ entry ∈ row, entry.low ≠ rowEnd) :
    decode (encode rows) = ⟨rows, false⟩ := by
  have laid : LaidOut (encode rows) rows [] [] :=
    ⟨(List.append_nil _).symm, plain, List.forall_mem_nil _, by decide, by decide⟩
  exact decode_laidOut laid

/-- Routing that is read from a block can be stored. -/
theorem decode_storable (input : Bytes) : Matrix.Storable (decode input).rows := by
  obtain ⟨rows, row, rest, laid⟩ := exists_laidOut input
  rw [decode_laidOut laid]
  split
  · exact laid.closed
  · intro listed member
    rcases List.mem_append.mp member with member | member
    · exact laid.closed listed member
    · rw [List.mem_singleton.mp member]
      exact laid.unclosed

/-- Routing that is read from a block and written again reads the same; only whether the block
was cut short is forgotten. -/
theorem decode_encode_decode (input : Bytes) :
    decode (encode (decode input).rows) = ⟨(decode input).rows, false⟩ :=
  decode_encode (decode_storable input)

/-- A block that was not cut short is written as it was read. -/
theorem encode_decode {input : Bytes} (whole : (decode input).truncated = false) :
    encode (decode input).rows = input := by
  obtain ⟨rows, row, rest, laid⟩ := exists_laidOut input
  rw [decode_laidOut laid] at whole ⊢
  split at whole
  next none =>
    have nothing : rest = [] := by simpa using whole
    rw [if_pos none, laid.bytes, List.isEmpty_iff.mp none, nothing]
    simp [encodeEntries]
  next => cases whole

/-- **What survives as a block.**  Rows come back from their block, which is then not cut short,
exactly if no entry begins with `0xFF`.  A block that is read and written again reads the same,
and it is the same block exactly if it was not cut short.  Routing gives the same answers either
way. -/
theorem blocks_keep_routing (rows : List (List RouteEntry)) (input : Bytes) :
    (decode (encode rows) = ⟨rows, false⟩ ↔ ∀ row ∈ rows, ∀ entry ∈ row, entry.low ≠ 0xFF) ∧
      decode (encode (decode input).rows) = ⟨(decode input).rows, false⟩ ∧
      (encode (decode input).rows = input ↔ (decode input).truncated = false) ∧
      ∀ source target, (decode (encode (decode input).rows)).nextBox source target =
        (decode input).nextBox source target := by
  have again := decode_encode_decode input
  refine ⟨⟨fun back => ?_, decode_encode⟩, again, ⟨fun same => ?_, encode_decode⟩, ?_⟩
  · have storable := decode_storable (encode rows)
    rw [back] at storable
    exact storable
  · rw [same] at again
    rw [again]
  · intro source target
    rw [again]
    cases source <;> cases target <;> rfl

end RouteBlock

end Adventure
