/-
Module: RecordMapping.Text.Utf8
Purpose: Characters as UTF-8 bytes, and bytes read back with exact faults.
Main exports: Utf8.encode, Utf8.Fault, Utf8.decode
-/

namespace RecordMapping.Text.Utf8

/-!
A byte string is well-formed when it is the encoding of some characters: no
overlong form, no surrogate, nothing above U+10FFFF.  A reader that stops
reports the index of the first byte of the sequence it could not read, and
either how many bytes of it cannot be continued to a character or that the
input ended inside it.
-/

/-- The UTF-8 bytes of a text. -/
def encode (text : String) : List UInt8 :=
  text.toList.flatMap String.utf8EncodeChar

/-- Why and where bytes are not the encoding of a text. -/
inductive Fault where
  /-- The `length` bytes from `index` begin no character. -/
  | invalid (length : Nat) (index : Nat)
  /-- The bytes from `index` to the end begin a character but do not finish it. -/
  | incomplete (index : Nat)
deriving Repr, DecidableEq

/-- The wording of a fault. -/
def Fault.message : Fault → String
  | .invalid length index =>
      s!"invalid utf-8 sequence of {length} bytes from index {index}"
  | .incomplete index =>
      s!"incomplete utf-8 byte sequence from index {index}"

/-- How many bytes a character takes whose first byte is `lead`; nothing for
a byte that begins no character. -/
def sequenceLength (lead : Nat) : Option Nat :=
  if lead < 0x80 then some 1
  else if 0xC2 ≤ lead ∧ lead ≤ 0xDF then some 2
  else if 0xE0 ≤ lead ∧ lead ≤ 0xEF then some 3
  else if 0xF0 ≤ lead ∧ lead ≤ 0xF4 then some 4
  else none

/-- The second bytes that may follow `lead`: a narrower range than for other
continuations where a wider one would admit an overlong form, a surrogate or
a number above U+10FFFF. -/
def mayFollow (lead second : Nat) : Bool :=
  if lead = 0xE0 then 0xA0 ≤ second && second ≤ 0xBF
  else if lead = 0xED then 0x80 ≤ second && second ≤ 0x9F
  else if lead = 0xF0 then 0x90 ≤ second && second ≤ 0xBF
  else if lead = 0xF4 then 0x80 ≤ second && second ≤ 0x8F
  else 0x80 ≤ second && second ≤ 0xBF

/-- A third or fourth byte of a sequence. -/
def isContinuation (byte : Nat) : Bool :=
  0x80 ≤ byte && byte ≤ 0xBF

/-- The bits a continuation byte contributes. -/
def payload (byte : Nat) : Nat := byte % 0x40

/-- One character from the front of non-empty bytes that begin at `index`,
with the number of bytes it took. -/
def decodeOne (index : Nat) (lead : Nat) (rest : List UInt8) :
    Except Fault (Char × Nat) :=
  match sequenceLength lead, rest.map UInt8.toNat with
  | none, _ => .error (.invalid 1 index)
  | some 1, _ => .ok (Char.ofNat lead, 1)
  | some _, [] => .error (.incomplete index)
  | some width, second :: later =>
      if !mayFollow lead second then .error (.invalid 1 index)
      else if width = 2 then
        .ok (Char.ofNat (lead % 0x20 * 0x40 + payload second), 2)
      else match later with
        | [] => .error (.incomplete index)
        | third :: last =>
            if !isContinuation third then .error (.invalid 2 index)
            else if width = 3 then
              .ok (Char.ofNat
                ((lead % 0x10 * 0x40 + payload second) * 0x40 + payload third), 3)
            else match last with
              | [] => .error (.incomplete index)
              | fourth :: _ =>
                  if !isContinuation fourth then .error (.invalid 3 index)
                  else
                    .ok (Char.ofNat
                      (((lead % 0x08 * 0x40 + payload second) * 0x40 + payload third)
                        * 0x40 + payload fourth), 4)

/-- Characters from bytes of which the first has the given index. -/
def decodeFrom (index : Nat) : List UInt8 → Except Fault (List Char)
  | [] => .ok []
  | lead :: rest =>
      match decodeOne index lead.toNat rest with
      | .error fault => .error fault
      | .ok (character, width) =>
          match decodeFrom (index + width) (rest.drop (width - 1)) with
          | .error fault => .error fault
          | .ok characters => .ok (character :: characters)
termination_by bytes => bytes.length
decreasing_by simp only [List.length_drop, List.length_cons]; omega

/-- The text that the bytes encode, or the first fault in them. -/
def decode (bytes : List UInt8) : Except Fault String :=
  (decodeFrom 0 bytes).map String.ofList

end RecordMapping.Text.Utf8
