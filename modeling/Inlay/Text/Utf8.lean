import Inlay.Text.Quoted

/-!
# Text from bytes

Characters are coded in one to four bytes. The first byte says how many follow;
codes that are longer than they need to be, surrogates and numbers beyond the
last character are refused at the second byte.
-/

namespace Inlay.Text.Utf8

/-- What is wrong with bytes. -/
inductive Reason where
  | badStart
  | badContinuation
  | cutShort
  deriving DecidableEq, Repr

/-- Bytes that are no character: where they start, where the next one could
start, and the first of them. -/
structure Fault where
  start : Nat
  stop : Nat
  byte : UInt8
  reason : Reason
  deriving DecidableEq, Repr

def Reason.text : Reason → String
  | badStart => "invalid start byte"
  | badContinuation => "invalid continuation byte"
  | cutShort => "unexpected end of data"

def Fault.text (f : Fault) : String :=
  let place :=
    if f.stop = f.start + 1 then
      "byte 0x" ++ String.ofList (hexDigits 2 f.byte.toNat) ++ " in position " ++
        toString f.start
    else "bytes in position " ++ toString f.start ++ "-" ++ toString (f.stop - 1)
  "'utf-8' codec can't decode " ++ place ++ ": " ++ f.reason.text

/-- A fault as it is seen by a reader that has passed on everything before it:
bytes cut short at the end are counted from the first of them. -/
def Fault.local (f : Fault) : Fault :=
  match f.reason with
  | .cutShort => { f with start := 0, stop := f.stop - f.start }
  | _ => f

/-- The bounds of the second byte of a character with the given first byte, and
the number of bytes after the first; none if no character starts so. -/
def shape? (first : Nat) : Option (Nat × Nat × Nat) :=
  if first < 0x80 then some (0, 0, 0)
  else if first < 0xC2 then none
  else if first < 0xE0 then some (0x80, 0xBF, 1)
  else if first = 0xE0 then some (0xA0, 0xBF, 2)
  else if first = 0xED then some (0x80, 0x9F, 2)
  else if first < 0xF0 then some (0x80, 0xBF, 2)
  else if first = 0xF0 then some (0x90, 0xBF, 3)
  else if first < 0xF4 then some (0x80, 0xBF, 3)
  else if first = 0xF4 then some (0x80, 0x8F, 3)
  else none

/-- The part of a code that a first byte holds, when `more` bytes follow. -/
def leadBits (first more : Nat) : Nat :=
  match more with
  | 0 => first
  | 1 => first % 0x20
  | 2 => first % 0x10
  | _ => first % 8

/-- A character under way: where it started, its first byte, the bits so far,
how many bytes are missing and the bounds of the next one. -/
structure Pending where
  start : Nat
  first : UInt8
  bits : Nat
  missing : Nat
  low : Nat
  high : Nat

/-- Decodes bytes that stand at `place`, after the characters `done` (last one
first). -/
def decodeFrom (place : Nat) (pending : Option Pending) (done : List Char) :
    List UInt8 → Except Fault (List Char)
  | [] =>
    match pending with
    | none => .ok done.reverse
    | some p => .error ⟨p.start, place, p.first, .cutShort⟩
  | b :: rest =>
    match pending with
    | none =>
      match shape? b.toNat with
      | none => .error ⟨place, place + 1, b, .badStart⟩
      | some (_, _, 0) => decodeFrom (place + 1) none (Char.ofNat b.toNat :: done) rest
      | some (low, high, more) =>
        decodeFrom (place + 1) (some ⟨place, b, leadBits b.toNat more, more, low, high⟩) done rest
    | some p =>
      if p.low ≤ b.toNat ∧ b.toNat ≤ p.high then
        let bits := p.bits * 0x40 + b.toNat % 0x40
        if p.missing = 1 then decodeFrom (place + 1) none (Char.ofNat bits :: done) rest
        else
          decodeFrom (place + 1)
            (some { p with bits, missing := p.missing - 1, low := 0x80, high := 0xBF }) done rest
      else .error ⟨p.start, place, p.first, .badContinuation⟩

def decode (bytes : ByteArray) : Except Fault String :=
  (decodeFrom 0 none [] bytes.toList).map String.ofList

end Inlay.Text.Utf8
