import Adventure.Data.Digits

/-!
# The frame of a save file

A save file is a header of twelve bytes and a payload.  The header names the format,
its version, the kind of payload and the payload's length, all numbers high byte first.
A file is accepted when its payload is exactly as long as the header says.
-/

set_option autoImplicit false

namespace Adventure

/-- What a save file holds. -/
inductive SaveKind where
  /-- A whole game. -/
  | session
  /-- What scripts have changed in one room. -/
  | room
  deriving DecidableEq, Repr, Inhabited

namespace SaveKind

/-- The number of a kind in the header. -/
def code : SaveKind → UInt16
  | session => 1
  | room => 2

/-- The kind with a number. -/
def ofCode? (code : UInt16) : Option SaveKind :=
  if code = 1 then some session else if code = 2 then some room else none

/-- The name used in messages. -/
def title : SaveKind → String
  | session => "Session"
  | room => "Room"

end SaveKind

/-- Why a file cannot be read or written. -/
inductive FileError where
  /-- There is no file with that name, or no directory for it. -/
  | missing
  /-- A file is used as a directory. -/
  | notDirectory
  /-- A directory is used as a file. -/
  | isDirectory
  /-- A name, or a path as a whole, is longer than names and paths can be. -/
  | nameTooLong
  /-- A file that has to be a text is none. -/
  | notText
  /-- A name holds a zero character, which no file name can. -/
  | zeroInName
  /-- Any other reason. -/
  | other (reason : String)
  deriving DecidableEq, Repr

namespace FileError

/-- The wording of each cause. -/
def message : FileError → String
  | missing => "No such file or directory (os error 2)"
  | notDirectory => "Not a directory (os error 20)"
  | isDirectory => "Is a directory (os error 21)"
  | nameTooLong => "File name too long (os error 36)"
  | notText => "stream did not contain valid UTF-8"
  | zeroInName => "file name contained an unexpected NUL byte"
  | other reason => reason

end FileError

/-- Why a save file is refused. -/
inductive SaveError where
  | truncatedHeader
  | badMagic
  | unsupportedVersion (version : UInt16)
  | unknownSaveKind (code : UInt16)
  | kindMismatch (expected actual : SaveKind)
  | lengthMismatch (expected actual : Nat)
  /-- The payload is not what it should be. -/
  | payloadDecode
  | io (cause : FileError)
  deriving DecidableEq, Repr

/-- The length of the header. -/
def SaveHeader.size : Nat := 12

/-- The newest version that can be read, which is the one that is written. -/
def SaveHeader.newest : UInt16 := 1

namespace SaveError

/-- The name of each cause. -/
def name : SaveError → String
  | truncatedHeader => "TruncatedHeader"
  | badMagic => "BadMagic"
  | unsupportedVersion _ => "UnsupportedVersion"
  | unknownSaveKind _ => "UnknownSaveKind"
  | kindMismatch .. => "KindMismatch"
  | lengthMismatch .. => "LengthMismatch"
  | payloadDecode => "PayloadDecode"
  | io _ => "Io"

/-- The wording of each cause. -/
def message : SaveError → String
  | truncatedHeader => s!"header smaller than {SaveHeader.size} bytes"
  | badMagic => "header magic mismatch"
  | unsupportedVersion version =>
    let shown := Digits.hexWithMark 6 version.toNat
    s!"save format version {shown} is newer than this build understands"
  | unknownSaveKind code =>
    let shown := Digits.hexWithMark 6 code.toNat
    s!"save kind {shown} is unknown"
  | kindMismatch expected actual =>
    s!"expected a {expected.title} save but found {actual.title}"
  | lengthMismatch expected actual =>
    s!"payload length mismatch: header declared {expected} bytes but read {actual}"
  | payloadDecode => "payload decode error"
  | io cause => s!"save file i/o failed: {cause.message}"

/-- The wording of a cause and of what is behind it. -/
def trail (error : SaveError) : List String :=
  match error with
  | io cause => [error.message, cause.message]
  | _ => [error.message]

end SaveError

/-- The header of a save file. -/
structure SaveHeader where
  version : UInt16
  kind : SaveKind
  length : UInt32
  deriving DecidableEq, Repr

namespace SaveHeader

/-- The four bytes that every save file starts with. -/
def magic : Bytes := [0x53, 0x43, 0x56, 0x4D]

/-- The bytes of a header. -/
def encode (header : SaveHeader) : Bytes :=
  magic ++ (Bytes.ofNatHigh 2 header.version.toNat ++
    (Bytes.ofNatHigh 2 header.kind.code.toNat ++ Bytes.ofNatHigh 4 header.length.toNat))

/-- Reads a header from the start of a file.  The checks are made in the order of the
header's fields. -/
def decode (bytes : Bytes) : Except SaveError SaveHeader :=
  if bytes.length < size then .error .truncatedHeader
  else if bytes.take 4 ≠ magic then .error .badMagic
  else
    let version := UInt16.ofNat (Bytes.natHigh ((bytes.drop 4).take 2))
    let code := UInt16.ofNat (Bytes.natHigh ((bytes.drop 6).take 2))
    let length := UInt32.ofNat (Bytes.natHigh ((bytes.drop 8).take 4))
    if newest < version then .error (.unsupportedVersion version)
    else
      match SaveKind.ofCode? code with
      | none => .error (.unknownSaveKind code)
      | some kind => .ok ⟨version, kind, length⟩

end SaveHeader

namespace Save

/-- Puts a header of the newest version in front of a payload. -/
def frame (kind : SaveKind) (payload : Bytes) : Except SaveError Bytes :=
  if payload.length < 4294967296 then
    .ok (SaveHeader.encode ⟨SaveHeader.newest, kind, UInt32.ofNat payload.length⟩ ++ payload)
  else .error (.lengthMismatch 4294967295 payload.length)

/-- Takes a file apart into its header and its payload. -/
def unframe (bytes : Bytes) : Except SaveError (SaveHeader × Bytes) :=
  match SaveHeader.decode bytes with
  | .error error => .error error
  | .ok header =>
    let payload := bytes.drop SaveHeader.size
    if payload.length = header.length.toNat then .ok (header, payload)
    else .error (.lengthMismatch header.length.toNat payload.length)

end Save

end Adventure
