/-
  Strict UTF-8 decoding with located errors.

  A sequence is refused at its first byte that cannot continue it.  The error names the bytes that
  were acceptable so far, so a refused sequence of several bytes is reported as a range.
-/
import SchemaAssist.Text.Quoted

namespace SchemaAssist.Text

inductive Utf8Reason where
  | invalidStart
  | invalidContinuation
  | unexpectedEnd
  deriving DecidableEq, Repr

def Utf8Reason.message : Utf8Reason → String
  | .invalidStart => "invalid start byte"
  | .invalidContinuation => "invalid continuation byte"
  | .unexpectedEnd => "unexpected end of data"

/-- A refused sequence: its first byte, where it starts, how many bytes it has. -/
structure Utf8Error where
  byte : UInt8
  start : Nat
  size : Nat
  reason : Utf8Reason
  deriving DecidableEq, Repr

def Utf8Error.message (e : Utf8Error) : String :=
  let site :=
    if e.size ≤ 1 then
      "byte 0x" ++ String.ofList (hexDigits 2 e.byte.toNat) ++ s!" in position {e.start}"
    else s!"bytes in position {e.start}-{e.start + e.size - 1}"
  "'utf-8' codec can't decode " ++ site ++ ": " ++ e.reason.message

/-- What a first byte announces: the number of continuation bytes, the bounds of the first of them,
and the bits it contributes. -/
def leadByte (b : Nat) : Option (Nat × Nat × Nat × Nat) :=
  if b < 0x80 then some (0, 0x80, 0xBF, b)
  else if b < 0xC2 then none
  else if b < 0xE0 then some (1, 0x80, 0xBF, b - 0xC0)
  else if b = 0xE0 then some (2, 0xA0, 0xBF, 0)
  else if b = 0xED then some (2, 0x80, 0x9F, 0xD)
  else if b < 0xF0 then some (2, 0x80, 0xBF, b - 0xE0)
  else if b = 0xF0 then some (3, 0x90, 0xBF, 0)
  else if b < 0xF4 then some (3, 0x80, 0xBF, b - 0xF0)
  else if b = 0xF4 then some (3, 0x80, 0x8F, 4)
  else none

/-- Reads `count` continuation bytes, the first within the given bounds.  A failure carries how
many bytes were accepted and why the next was not. -/
def continuation : Nat → Nat → Nat → Nat → Nat → List UInt8 → Except (Nat × Utf8Reason) Nat
  | 0, _, _, acc, _, _ => .ok acc
  | _ + 1, _, _, _, seen, [] => .error (seen, .unexpectedEnd)
  | count + 1, lo, hi, acc, seen, b :: rest =>
    if lo ≤ b.toNat ∧ b.toNat ≤ hi then
      continuation count 0x80 0xBF (acc * 64 + (b.toNat - 0x80)) (seen + 1) rest
    else .error (seen, .invalidContinuation)

/-- Decodes bytes; `skip` counts the bytes that belong to a character already decoded. -/
def decodeFrom : Nat → Nat → List UInt8 → Except Utf8Error (List Char)
  | _, _, [] => .ok []
  | offset, skip + 1, _ :: rest => decodeFrom (offset + 1) skip rest
  | offset, 0, b :: rest =>
    match leadByte b.toNat with
    | none => .error ⟨b, offset, 1, .invalidStart⟩
    | some (count, lo, hi, bits) =>
      match continuation count lo hi bits 1 rest with
      | .error (seen, reason) => .error ⟨b, offset, seen, reason⟩
      | .ok code => (decodeFrom (offset + 1) count rest).map (Char.ofNat code :: ·)

def decodeUtf8 (bytes : List UInt8) : Except Utf8Error (List Char) := decodeFrom 0 0 bytes

/-! ### Texts that arrive in pieces -/

/-- How many bytes arrive at once. -/
def pieceSize : Nat := 8192

/-- Decodes a piece of a text: its characters, and the bytes at its end that the next piece may
complete. -/
def decodePiece (bytes : List UInt8) : Except Utf8Error (List Char × List UInt8) :=
  match decodeUtf8 bytes with
  | .ok chars => .ok (chars, [])
  | .error e =>
    if e.reason = .unexpectedEnd then
      (decodeUtf8 (bytes.take e.start)).map fun chars => (chars, bytes.drop e.start)
    else .error e

/-- The characters of all pieces before the first that cannot be decoded, and what is wrong with
that one; its position counts from where the piece starts. -/
def decodePieces : Nat → List UInt8 → List UInt8 → List Char × Option Utf8Error
  | 0, _, _ => ([], none)
  | _ + 1, [], [] => ([], none)
  | _ + 1, b :: rest, [] => ([], some ⟨b, 0, rest.length + 1, .unexpectedEnd⟩)
  | fuel + 1, pending, b :: rest =>
    match decodePiece (pending ++ (b :: rest).take pieceSize) with
    | .error e => ([], some e)
    | .ok (chars, pending) =>
      let (more, failure) := decodePieces fuel pending ((b :: rest).drop pieceSize)
      (chars ++ more, failure)

def decodeStream (bytes : List UInt8) : List Char × Option Utf8Error :=
  decodePieces (bytes.length + 1) [] bytes

/-- Every line ending becomes a line feed. -/
def universalNewlines : List Char → List Char
  | '\r' :: '\n' :: rest => '\n' :: universalNewlines rest
  | '\r' :: rest => '\n' :: universalNewlines rest
  | c :: rest => c :: universalNewlines rest
  | [] => []

end SchemaAssist.Text
