/-!
# Bytes from letters

Four letters code three bytes. Characters outside of the alphabet are passed
over; where a group of four is filled up with equals signs the text ends.
-/

namespace Inlay.Text.Base64

/-- The six bits that a letter codes. -/
def sextet? (c : Char) : Option Nat :=
  if 'A' ≤ c ∧ c ≤ 'Z' then some (c.toNat - 'A'.toNat)
  else if 'a' ≤ c ∧ c ≤ 'z' then some (c.toNat - 'a'.toNat + 26)
  else if '0' ≤ c ∧ c ≤ '9' then some (c.toNat - '0'.toNat + 52)
  else if c = '+' then some 62
  else if c = '/' then some 63
  else none

/-- Decodes what follows `filled` letters of a group, of which `bits` are not yet
written, and `signs` equals signs in a row. None if a group is cut short. -/
def decodeFrom (filled bits signs : Nat) : List Char → Option (List UInt8)
  | [] => if filled = 0 then some [] else none
  | c :: rest =>
    if c = '=' then
      if 2 ≤ filled ∧ 4 ≤ filled + signs + 1 then some []
      else decodeFrom filled bits (if 2 ≤ filled then signs + 1 else signs) rest
    else
      match sextet? c with
      | none => decodeFrom filled bits signs rest
      | some n =>
        match filled with
        | 0 => decodeFrom 1 n 0 rest
        | 1 => (decodeFrom 2 (n % 16) 0 rest).map (UInt8.ofNat (bits * 4 + n / 16) :: ·)
        | 2 => (decodeFrom 3 (n % 4) 0 rest).map (UInt8.ofNat (bits * 16 + n / 4) :: ·)
        | _ => (decodeFrom 0 0 0 rest).map (UInt8.ofNat (bits * 64 + n) :: ·)

def decode? (text : String) : Option (List UInt8) := decodeFrom 0 0 0 text.toList

end Inlay.Text.Base64
