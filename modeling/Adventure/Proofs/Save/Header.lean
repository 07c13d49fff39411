import Adventure.Proofs.Data.Bytes
import Adventure.Save.Header

/-!
# The frame of a save file, both ways

A file is accepted exactly if it is a header of a known version, followed by a payload of the
length that the header tells.  Every other file is refused by the first of its header's parts
that is not as it should be: the start, the version, the kind, the length.

Twelve bytes can always be taken for a start of four bytes and three numbers
(`exists_laidOut`), so a file is one that is accepted or one that is refused for a reason
(`accepted_or_refused`).  Because the length is part of the header, no accepted file begins
with another one.
-/

set_option autoImplicit false

namespace Adventure

namespace SaveKind

@[simp] theorem ofCode?_code (kind : SaveKind) : ofCode? kind.code = some kind := by
  cases kind <;> rfl

theorem code_of_ofCode? {code : UInt16} {kind : SaveKind} (known : ofCode? code = some kind) :
    kind.code = code := by
  unfold ofCode? at known
  split at known
  next session =>
    cases known
    exact session.symm
  next =>
    split at known
    next room =>
      cases known
      exact room.symm
    next => cases known

end SaveKind

namespace SaveHeader

@[simp] theorem length_encode (header : SaveHeader) : header.encode.length = size := by
  simp [encode, magic, size]

/-! ## The parts of a file -/

/-- A file whose first twelve bytes are a start and three numbers. -/
def laidOut (start : Bytes) (version code : UInt16) (length : UInt32) (payload : Bytes) : Bytes :=
  start ++ (Bytes.ofNatHigh 2 version.toNat ++
    (Bytes.ofNatHigh 2 code.toNat ++ (Bytes.ofNatHigh 4 length.toNat ++ payload)))

theorem encode_append (header : SaveHeader) (payload : Bytes) :
    header.encode ++ payload =
      laidOut magic header.version header.kind.code header.length payload := by
  simp only [encode, laidOut, List.append_assoc]

/-- Every number of a header has its high byte first. -/
example : encode ⟨1, .room, 0x01020304⟩ = [0x53, 0x43, 0x56, 0x4D, 0, 1, 0, 2, 1, 2, 3, 4] := by
  decide

/-- Every file that is long enough has such parts. -/
theorem exists_laidOut {bytes : Bytes} (long : size ≤ bytes.length) :
    ∃ start version code length payload, start.length = 4 ∧
      bytes = laidOut start version code length payload := by
  have start : (bytes.take 4).length = 4 := List.length_take_of_le (Nat.le_trans (by decide) long)
  have later : (bytes.drop 4).length = bytes.length - 4 := List.length_drop
  change 12 ≤ bytes.length at long
  obtain ⟨version, afterVersion, smallVersion, same⟩ :=
    Bytes.exists_ofNatHigh (by omega : 2 ≤ (bytes.drop 4).length)
  rw [same, List.length_append, Bytes.length_ofNatHigh] at later
  obtain ⟨code, afterCode, smallCode, rfl⟩ :=
    Bytes.exists_ofNatHigh (by omega : 2 ≤ afterVersion.length)
  rw [List.length_append, Bytes.length_ofNatHigh] at later
  obtain ⟨length, payload, smallLength, rfl⟩ :=
    Bytes.exists_ofNatHigh (by omega : 4 ≤ afterCode.length)
  refine ⟨bytes.take 4, .ofNat version, .ofNat code, .ofNat length, payload, start, ?_⟩
  rw [laidOut, UInt16.toNat_ofNat_of_lt' smallVersion, UInt16.toNat_ofNat_of_lt' smallCode,
    UInt32.toNat_ofNat_of_lt' smallLength, ← same, List.take_append_drop]

/-- The parts of a header are looked at one after the other. -/
theorem decode_laidOut {start : Bytes} (four : start.length = 4) (version code : UInt16)
    (length : UInt32) (payload : Bytes) :
    decode (laidOut start version code length payload) =
      if start ≠ magic then .error .badMagic
      else if newest < version then .error (.unsupportedVersion version)
      else
        match SaveKind.ofCode? code with
        | none => .error (.unknownSaveKind code)
        | some kind => .ok ⟨version, kind, length⟩ := by
  match start, four with
  | [a, b, c, d], _ =>
      have long : ¬(laidOut [a, b, c, d] version code length payload).length < size := by
        simp only [laidOut, List.length_append, Bytes.length_ofNatHigh, List.length_cons,
          List.length_nil, size]
        omega
      have front : (laidOut [a, b, c, d] version code length payload).take 4 = [a, b, c, d] := rfl
      have second : ((laidOut [a, b, c, d] version code length payload).drop 4).take 2 =
          Bytes.ofNatHigh 2 version.toNat := rfl
      have third : ((laidOut [a, b, c, d] version code length payload).drop 6).take 2 =
          Bytes.ofNatHigh 2 code.toNat := rfl
      have fourth : ((laidOut [a, b, c, d] version code length payload).drop 8).take 4 =
          Bytes.ofNatHigh 4 length.toNat := rfl
      unfold decode
      rewrite [if_neg long, front, second, third, fourth, Bytes.natHigh_ofNatHigh version.toNat_lt,
        Bytes.natHigh_ofNatHigh code.toNat_lt, Bytes.natHigh_ofNatHigh length.toNat_lt,
        UInt16.ofNat_toNat, UInt16.ofNat_toNat, UInt32.ofNat_toNat]
      rfl

/-- A header of a known version is read from the start of a file. -/
theorem decode_encode (header : SaveHeader) (known : header.version ≤ newest) (payload : Bytes) :
    decode (header.encode ++ payload) = .ok header := by
  rw [encode_append, decode_laidOut rfl, if_neg (not_not_intro rfl),
    if_neg (UInt16.not_lt.mpr known), SaveKind.ofCode?_code]

theorem drop_encode (header : SaveHeader) (payload : Bytes) :
    (header.encode ++ payload).drop size = payload := by
  rw [← header.length_encode, List.drop_left]

/-- The header is told by the first bytes of a file. -/
theorem encode_append_inj {header other : SaveHeader} {payload rest : Bytes}
    (known : header.version ≤ newest) (knownToo : other.version ≤ newest)
    (same : header.encode ++ payload = other.encode ++ rest) : header = other ∧ payload = rest := by
  have heads : decode (header.encode ++ payload) = .ok other := by
    rw [same, decode_encode other knownToo]
  rw [decode_encode header known] at heads
  cases heads
  exact ⟨rfl, List.append_cancel_left same⟩

end SaveHeader

namespace Save

open SaveHeader (laidOut magic newest size)

/-! ## Accepted and refused files -/

/-- A file with a header of a known version, and as much payload as the header tells. -/
structure Framed (bytes : Bytes) (header : SaveHeader) (payload : Bytes) : Prop where
  bytes : bytes = header.encode ++ payload
  known : header.version ≤ newest
  length : header.length.toNat = payload.length

/-- A file that cannot be accepted, with the first reason for it.  The reasons are looked for in
the order of the header's parts. -/
inductive Refused : Bytes → SaveError → Prop where
  | short {bytes : Bytes} (few : bytes.length < size) : Refused bytes .truncatedHeader
  | start {start payload : Bytes} {version code : UInt16} {length : UInt32}
      (four : start.length = 4) (foreign : start ≠ magic) :
      Refused (laidOut start version code length payload) .badMagic
  | version {payload : Bytes} {version code : UInt16} {length : UInt32}
      (newer : newest < version) :
      Refused (laidOut magic version code length payload) (.unsupportedVersion version)
  | kind {payload : Bytes} {version code : UInt16} {length : UInt32} (known : version ≤ newest)
      (unknown : ∀ kind : SaveKind, kind.code ≠ code) :
      Refused (laidOut magic version code length payload) (.unknownSaveKind code)
  | length {header : SaveHeader} {payload : Bytes} (known : header.version ≤ newest)
      (differs : header.length.toNat ≠ payload.length) :
      Refused (header.encode ++ payload) (.lengthMismatch header.length.toNat payload.length)

theorem accepted_or_refused (bytes : Bytes) :
    (∃ header payload, Framed bytes header payload) ∨ ∃ error, Refused bytes error := by
  by_cases long : size ≤ bytes.length
  · obtain ⟨start, version, code, length, payload, four, rfl⟩ := SaveHeader.exists_laidOut long
    by_cases foreign : start ≠ magic
    · exact .inr ⟨_, .start four foreign⟩
    rw [not_not.mp foreign]
    by_cases newer : newest < version
    · exact .inr ⟨_, .version newer⟩
    have known := UInt16.not_lt.mp newer
    by_cases unknown : ∀ kind : SaveKind, kind.code ≠ code
    · exact .inr ⟨_, .kind known unknown⟩
    obtain ⟨kind, named⟩ := not_forall.mp unknown
    rw [← not_not.mp named]
    have whole := (SaveHeader.encode_append ⟨version, kind, length⟩ payload).symm
    by_cases same : length.toNat = payload.length
    · exact .inl ⟨⟨version, kind, length⟩, payload, whole, known, same⟩
    · rw [whole]
      exact .inr ⟨_, .length known same⟩
  · exact .inr ⟨_, .short (Nat.lt_of_not_le long)⟩

theorem Framed.unframe {bytes payload : Bytes} {header : SaveHeader}
    (framed : Framed bytes header payload) : unframe bytes = .ok (header, payload) := by
  obtain ⟨rfl, known, length⟩ := framed
  rw [Save.unframe, SaveHeader.decode_encode header known]
  dsimp only
  rw [SaveHeader.drop_encode, if_pos length.symm]

theorem Refused.unframe {bytes : Bytes} {error : SaveError} (refused : Refused bytes error) :
    unframe bytes = .error error := by
  cases refused with
  | short few => rw [Save.unframe, SaveHeader.decode, if_pos few]
  | start four foreign => rw [Save.unframe, SaveHeader.decode_laidOut four, if_pos foreign]
  | version newer =>
      rw [Save.unframe, SaveHeader.decode_laidOut rfl, if_neg (not_not_intro rfl), if_pos newer]
  | @kind _ _ code _ known unknown =>
      have none : SaveKind.ofCode? code = none := by
        cases found : SaveKind.ofCode? code with
        | none => rfl
        | some kind => exact absurd (SaveKind.code_of_ofCode? found) (unknown kind)
      rw [Save.unframe, SaveHeader.decode_laidOut rfl, if_neg (not_not_intro rfl),
        if_neg (UInt16.not_lt.mpr known), none]
  | length known differs =>
      rw [Save.unframe, SaveHeader.decode_encode _ known]
      dsimp only
      rw [SaveHeader.drop_encode, if_neg (Ne.symm differs)]

theorem unframe_eq_ok_iff {bytes payload : Bytes} {header : SaveHeader} :
    unframe bytes = .ok (header, payload) ↔ Framed bytes header payload := by
  refine ⟨fun accepted => ?_, Framed.unframe⟩
  rcases accepted_or_refused bytes with ⟨_, _, framed⟩ | ⟨_, refused⟩
  · rw [framed.unframe] at accepted
    cases accepted
    exact framed
  · rw [refused.unframe] at accepted
    cases accepted

theorem unframe_eq_error_iff {bytes : Bytes} {error : SaveError} :
    unframe bytes = .error error ↔ Refused bytes error := by
  refine ⟨fun failed => ?_, Refused.unframe⟩
  rcases accepted_or_refused bytes with ⟨_, _, framed⟩ | ⟨_, refused⟩
  · rw [framed.unframe] at failed
    cases failed
  · rw [refused.unframe] at failed
    cases failed
    exact refused

/-- No accepted file begins with another one. -/
theorem Framed.eq_of_prefix {bytes longer payload payloadToo : Bytes} {header headerToo : SaveHeader}
    (framed : Framed bytes header payload) (framedToo : Framed longer headerToo payloadToo)
    (begins : bytes <+: longer) : bytes = longer := by
  obtain ⟨rfl, known, length⟩ := framed
  obtain ⟨rfl, knownToo, lengthToo⟩ := framedToo
  obtain ⟨rest, whole⟩ := begins
  rw [List.append_assoc] at whole
  obtain ⟨rfl, rfl⟩ := SaveHeader.encode_append_inj known knownToo whole
  rw [List.length_append, ← length] at lengthToo
  have nothing : rest = [] := List.length_eq_zero_iff.mp (Nat.left_eq_add.mp lengthToo)
  rw [nothing, List.append_nil]

/-- **A frame is accepted exactly if it is well formed.**  What is accepted is a header of a known
version and a payload of the length it tells; what is refused is refused for the first part that
is not as it should be.  No accepted file is a proper part of another one from the start, and
every header of a known version comes back from its bytes. -/
theorem unframe_accepts_exactly (bytes : Bytes) :
    (∀ header payload, unframe bytes = .ok (header, payload) ↔
      bytes = header.encode ++ payload ∧ header.version ≤ 1 ∧
        header.length.toNat = payload.length) ∧
      (∀ error, unframe bytes = .error error ↔ Refused bytes error) ∧
      (∀ other, (∃ found, unframe bytes = .ok found) → (∃ found, unframe other = .ok found) →
        bytes <+: other ∨ other <+: bytes → bytes = other) ∧
      ∀ header : SaveHeader, header.version ≤ 1 → SaveHeader.decode header.encode = .ok header := by
  refine ⟨fun header payload => ?_, fun error => unframe_eq_error_iff, ?_, ?_⟩
  · rw [unframe_eq_ok_iff]
    exact ⟨fun framed => ⟨framed.bytes, framed.known, framed.length⟩,
      fun ⟨whole, known, length⟩ => ⟨whole, known, length⟩⟩
  · rintro other ⟨⟨_, _⟩, accepted⟩ ⟨⟨_, _⟩, acceptedToo⟩ nested
    have framed := unframe_eq_ok_iff.mp accepted
    have framedToo := unframe_eq_ok_iff.mp acceptedToo
    rcases nested with begins | begins
    · exact framed.eq_of_prefix framedToo begins
    · exact (framedToo.eq_of_prefix framed begins).symm
  · intro header known
    have read := SaveHeader.decode_encode header known []
    rwa [List.append_nil] at read

/-- The file of a room with a payload of three bytes, of the version before the newest one. -/
def roomFile : Bytes := [0x53, 0x43, 0x56, 0x4D, 0, 0, 0, 2, 0, 0, 0, 3, 7, 8, 9]

theorem unframe_accepts_exactly_roomFile :
    unframe roomFile = .ok (⟨0, .room, 3⟩, [7, 8, 9]) ∧
      (∀ found, unframe (roomFile ++ [1]) ≠ .ok found) ∧
      unframe (0x58 :: roomFile.tail) = .error .badMagic := by
  obtain ⟨accepts, _, apart, _⟩ := unframe_accepts_exactly roomFile
  have accepted := (accepts ⟨0, .room, 3⟩ [7, 8, 9]).mpr ⟨by decide, by decide, by decide⟩
  refine ⟨accepted, fun found longer => ?_, ?_⟩
  · have same := apart (roomFile ++ [1]) ⟨_, accepted⟩ ⟨found, longer⟩ (.inl ⟨[1], rfl⟩)
    exact absurd same (by decide)
  · have foreign : Refused (laidOut [0x58, 0x43, 0x56, 0x4D] 0 2 3 [7, 8, 9]) .badMagic :=
      .start (by decide) (by decide)
    exact ((unframe_accepts_exactly _).2.1 _).mpr foreign

end Save

end Adventure
