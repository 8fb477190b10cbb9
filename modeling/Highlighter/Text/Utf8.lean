import Highlighter.Text.Quoted

/-!
# UTF-8

A text is stored as bytes in UTF-8.  Decoding refuses bytes that no text is stored as,
at the first sequence that is cut short or cannot be continued.  The fault names the
bytes of that sequence that could still have been the start of a character.

Decoding can also go on after such a sequence, with one replacement character in its
place.
-/

namespace Highlighter.Utf8

/-- Stored text. -/
abbrev Bytes := List UInt8

/-- The bytes of a text. -/
def encode (text : Text) : Bytes :=
  text.flatMap String.utf8EncodeChar

/-- Why bytes are not a text. -/
inductive Reason where
  | startByte
  | continuationByte
  | endOfData
  deriving DecidableEq, Repr

/-- The sequence of bytes at which decoding stopped. -/
structure Fault where
  position : Nat
  /-- The first byte of the sequence. -/
  first : UInt8
  /-- How many bytes of the sequence were good, at least one. -/
  count : Nat
  reason : Reason
  deriving DecidableEq, Repr

/-- What the first byte of a sequence says: the bits it holds, the bounds of the second
byte, and how many bytes follow that one. -/
structure Lead where
  bits : Nat
  low : Nat
  high : Nat
  further : Nat
  deriving DecidableEq, Repr

/-- The lead of a sequence of two to four bytes.  The bounds of the second byte keep out
characters that have a shorter form, surrogates, and numbers beyond the last code
point. -/
def lead? (byte : Nat) : Option Lead :=
  if byte < 0xC2 then none
  else if byte < 0xE0 then some ⟨byte - 0xC0, 0x80, 0xBF, 0⟩
  else if byte = 0xE0 then some ⟨0, 0xA0, 0xBF, 1⟩
  else if byte = 0xED then some ⟨0xD, 0x80, 0x9F, 1⟩
  else if byte < 0xF0 then some ⟨byte - 0xE0, 0x80, 0xBF, 1⟩
  else if byte = 0xF0 then some ⟨0, 0x90, 0xBF, 2⟩
  else if byte < 0xF4 then some ⟨byte - 0xF0, 0x80, 0xBF, 2⟩
  else if byte = 0xF4 then some ⟨4, 0x80, 0x8F, 2⟩
  else none

/-- A sequence of which some bytes are still to come. -/
structure Pending where
  /-- Where the sequence starts. -/
  position : Nat
  /-- Its first byte. -/
  first : UInt8
  /-- How many of its bytes are read. -/
  count : Nat
  /-- The code point as far as it is read. -/
  bits : Nat
  low : Nat
  high : Nat
  /-- How many bytes follow the next one. -/
  further : Nat
  deriving DecidableEq, Repr

/-- The fault of a sequence that is not completed. -/
def Pending.fault (pending : Pending) (reason : Reason) : Fault :=
  ⟨pending.position, pending.first, pending.count, reason⟩

/-- Decode bytes from a position on, inside the sequence that is given, if any. -/
def decodeFrom (position : Nat) : Option Pending → Bytes → Except Fault Text
  | none, [] => .ok []
  | some pending, [] => .error (pending.fault .endOfData)
  | none, byte :: rest =>
      if byte.toNat < 0x80 then
        (decodeFrom (position + 1) none rest).map (Char.ofNat byte.toNat :: ·)
      else
        match lead? byte.toNat with
        | none => .error ⟨position, byte, 1, .startByte⟩
        | some lead =>
            decodeFrom (position + 1)
              (some ⟨position, byte, 1, lead.bits, lead.low, lead.high, lead.further⟩) rest
  | some pending, byte :: rest =>
      if pending.low ≤ byte.toNat ∧ byte.toNat ≤ pending.high then
        let bits := pending.bits * 0x40 + (byte.toNat - 0x80)
        match pending.further with
        | 0 => (decodeFrom (position + 1) none rest).map (Char.ofNat bits :: ·)
        | further + 1 =>
            decodeFrom (position + 1)
              (some ⟨pending.position, pending.first, pending.count + 1, bits, 0x80, 0xBF,
                further⟩) rest
      else .error (pending.fault .continuationByte)

/-- The text that bytes store. -/
def decode (bytes : Bytes) : Except Fault Text :=
  decodeFrom 0 none bytes

/-- The character in place of bytes that are no text. -/
def replacement : Char :=
  '\uFFFD'

/-- What the first byte of a sequence comes to: text, or a sequence of which bytes are
still to come. -/
def opening (byte : UInt8) : Text × Option Pending :=
  if byte.toNat < 0x80 then ([Char.ofNat byte.toNat], none)
  else
    match lead? byte.toNat with
    | none => ([replacement], none)
    | some lead => ([], some ⟨0, byte, 1, lead.bits, lead.low, lead.high, lead.further⟩)

/-- Decode bytes inside the sequence that is given, if any, with replacements. -/
def decodeReplacingFrom : Option Pending → Bytes → Text
  | none, [] => []
  | some _, [] => [replacement]
  | none, byte :: rest =>
      let (now, next) := opening byte
      now ++ decodeReplacingFrom next rest
  | some pending, byte :: rest =>
      if pending.low ≤ byte.toNat ∧ byte.toNat ≤ pending.high then
        let bits := pending.bits * 0x40 + (byte.toNat - 0x80)
        match pending.further with
        | 0 => Char.ofNat bits :: decodeReplacingFrom none rest
        | further + 1 =>
            decodeReplacingFrom
              (some { pending with
                count := pending.count + 1
                bits := bits
                low := 0x80
                high := 0xBF
                further := further }) rest
      else
        let (now, next) := opening byte
        replacement :: now ++ decodeReplacingFrom next rest

/-- The text that bytes store, with replacements for those that store none. -/
def decodeReplacing (bytes : Bytes) : Text :=
  decodeReplacingFrom none bytes

/-- The message of a reason. -/
def Reason.message : Reason → Text
  | startByte => "invalid start byte".toList
  | continuationByte => "invalid continuation byte".toList
  | endOfData => "unexpected end of data".toList

/-- The message of a fault: the one byte at fault, or the places of several. -/
def Fault.message (fault : Fault) : Text :=
  let place :=
    if fault.count = 1 then
      "byte 0x".toList ++ Text.hexadecimal 2 fault.first.toNat ++ " in position ".toList ++
        Text.decimal fault.position
    else
      "bytes in position ".toList ++ Text.decimal fault.position ++ '-' ::
        Text.decimal (fault.position + fault.count - 1)
  "'utf-8' codec can't decode ".toList ++ place ++ [':', ' '] ++ fault.reason.message

end Highlighter.Utf8
