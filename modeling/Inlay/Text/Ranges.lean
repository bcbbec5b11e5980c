/-!
# Sets of characters as ranges

A character class of the standard is a sorted list of disjoint ranges. Tables
are written as rows of words, `first-last` or a single code point, in
hexadecimal, and read once.
-/

namespace Inlay.Text

/-- The value of a hexadecimal digit in either case. -/
def hexDigit? (c : Char) : Option Nat :=
  if '0' ≤ c ∧ c ≤ '9' then some (c.toNat - '0'.toNat)
  else if 'a' ≤ c ∧ c ≤ 'f' then some (c.toNat - 'a'.toNat + 10)
  else if 'A' ≤ c ∧ c ≤ 'F' then some (c.toNat - 'A'.toNat + 10)
  else none

/-- The number that hexadecimal digits spell; other characters count as zero. -/
def hexNumber (cs : List Char) : Nat :=
  cs.foldl (fun n c => 16 * n + (hexDigit? c).getD 0) 0

/-- Cuts a list at each element that `isCut` holds of. -/
def cutAt {α : Type} (isCut : α → Bool) : List α → List (List α)
  | [] => [[]]
  | a :: rest =>
    match cutAt isCut rest with
    | [] => [[a]]
    | first :: more => if isCut a then [] :: first :: more else (a :: first) :: more

/-- The words of a table, separated by single spaces within a row. -/
def tableWords (rows : List String) : List (List Char) :=
  rows.flatMap fun row => cutAt (· == ' ') row.toList

/-- Disjoint ranges of code points in ascending order. -/
structure Ranges where
  bounds : Array (Nat × Nat)

namespace Ranges

def readBounds (word : List Char) : Nat × Nat :=
  match cutAt (· == '-') word with
  | [first, last] => (hexNumber first, hexNumber last)
  | _ => (hexNumber word, hexNumber word)

def ofRows (rows : List String) : Ranges :=
  ⟨((tableWords rows).map readBounds).toArray⟩

/-- Halves the part of the table between `low` and `high` until the code point
is found or nothing is left; thirty-two halvings are enough for any table. -/
def search (bounds : Array (Nat × Nat)) (n : Nat) : Nat → Nat → Nat → Bool
  | 0, _, _ => false
  | steps + 1, low, high =>
    if low < high then
      let middle := (low + high) / 2
      match bounds[middle]? with
      | none => false
      | some (first, last) =>
        if n < first then search bounds n steps low middle
        else if last < n then search bounds n steps (middle + 1) high
        else true
    else false

/-- Whether a character is in one of the ranges. -/
def contains (r : Ranges) (c : Char) : Bool :=
  search r.bounds c.toNat 32 0 r.bounds.size

end Ranges

end Inlay.Text
