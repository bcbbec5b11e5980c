import Mathlib.Data.List.Chain
import Mathlib.Data.List.Induction
import Inlay.Proofs.Places
import Inlay.Proofs.ReaderPairs
import Inlay.Proofs.Trees

/-!
# The same text at another place

A text that is put behind another one keeps its characters and changes its
places: its first line goes on where the other text ended, its later lines move
down (`Location.behind`). Any map of places that is one-to-one and commutes with
moving on (`Shift`) commutes with the lexer. The reader compares places only where a
minus touches its number, so it commutes with every map that tells these minuses from
the others (`Reader.KeepsTouching`). The tokens, the trees and the faults of the text
at the other place are those of the text, with their places moved.
-/

namespace Inlay

/-! ## Places -/

namespace Location

def lastLine (cs : List Char) : List Char := (cs.reverse.takeWhile (· != '\n')).reverse

/-- Where the place `l` of a text is when `cs` is put in front of the text: the
first line goes on from the last line of `cs`, the others move down by the line
feeds of `cs`. -/
def behind (cs : List Char) (l : Location) : Location :=
  ⟨l.line + cs.count '\n', if l.line = 1 then l.column + (lastLine cs).length else l.column⟩

/-- A map of places under which a text as a whole may be moved. -/
structure Shift (f : Location → Location) : Prop where
  injective : Function.Injective f
  next : ∀ l : Location, f l.next = (f l).next
  after : ∀ {l : Location} (c : Char), 1 ≤ l.line → f (l.after c) = (f l).after c

theorem behind_shift (cs : List Char) : Shift (behind cs) where
  injective := by
    rintro ⟨line, column⟩ ⟨line', column'⟩ h
    obtain ⟨hline, hcolumn⟩ := Location.mk.inj h
    obtain rfl : line = line' := Nat.add_right_cancel hline
    obtain rfl : column = column' := by
      split at hcolumn
      · exact Nat.add_right_cancel hcolumn
      · exact hcolumn
    rfl
  next := by
    intro l
    unfold behind next
    dsimp only
    split
    · rw [Nat.add_right_comm]
    · rfl
  after := by
    intro l c hl
    unfold behind after
    by_cases hc : c = '\n'
    · rw [if_pos hc, if_pos hc]
      dsimp only
      rw [if_neg (by omega), Nat.add_right_comm]
    · rw [if_neg hc, if_neg hc]
      dsimp only
      split
      · rw [Nat.add_right_comm]
      · rfl

theorem lastLine_concat (cs : List Char) (c : Char) :
    lastLine (cs ++ [c]) = if c = '\n' then [] else lastLine cs ++ [c] := by
  unfold lastLine
  rw [List.reverse_append, List.reverse_singleton, List.singleton_append, List.takeWhile_cons]
  by_cases hc : c = '\n'
  · simp [hc]
  · simp [hc]

/-- The first place behind a text is the place after it. -/
theorem behind_start (cs : List Char) : start.behind cs = start.advance cs := by
  induction cs using List.reverseRecOn with
  | nil => rfl
  | append_singleton cs c ih =>
      rw [advance_append, ← ih]
      unfold behind advance after
      rw [lastLine_concat, List.count_append, List.foldl_cons, List.foldl_nil]
      by_cases hc : c = '\n'
      · simp [hc, start]
        omega
      · simp [hc, start]
        omega

theorem one_le_line_after {l : Location} (h : 1 ≤ l.line) (c : Char) : 1 ≤ (l.after c).line := by
  unfold after
  split
  · exact Nat.le_add_left 1 _
  · exact h

theorem one_le_line_advance {l : Location} (h : 1 ≤ l.line) (cs : List Char) :
    1 ≤ (l.advance cs).line := by
  induction cs generalizing l with
  | nil => exact h
  | cons c cs ih => exact ih (one_le_line_after h c)

theorem Shift.advance {f : Location → Location} (hf : Shift f) {l : Location} (h : 1 ≤ l.line)
    (cs : List Char) : f (l.advance cs) = (f l).advance cs := by
  induction cs generalizing l with
  | nil => rfl
  | cons c cs ih =>
      have hc := ih (one_le_line_after h c)
      rw [hf.after c h] at hc
      exact hc

end Location

/-! ## Trees -/

namespace Expr

variable {f : Location → Location}

theorem location_relocate (f : Location → Location) (e : Expr) :
    (e.relocate f).location = f e.location := by
  cases e <;> rfl

/-- Trees are one piece of source just if they are at their other places. -/
theorem same_relocate (hf : Function.Injective f) (a b : Expr) :
    (a.relocate f).same (b.relocate f) = a.same b := by
  have hplace : ∀ l m : Location, (f l == f m) = (l == m) := fun l m => by
    rw [Bool.eq_iff_iff, beq_iff_eq, beq_iff_eq, hf.eq_iff]
  induction a using induction generalizing b with
  | string l x =>
      cases b with
      | string m y => rw [relocate, relocate, same, same, hplace]
      | _ => rfl
  | integer l x =>
      cases b with
      | integer m y => rw [relocate, relocate, same, same, hplace]
      | _ => rfl
  | float l x =>
      cases b with
      | float m y => rw [relocate, relocate, same, same, hplace]
      | _ => rfl
  | name l x =>
      cases b with
      | name m y => rw [relocate, relocate, same, same, hplace]
      | _ => rfl
  | member l c w ih =>
      cases b with
      | member m d x => rw [relocate, relocate, same, same, hplace, ih]
      | _ => rfl
  | index l c k ihc ihk =>
      cases b with
      | index m d j => rw [relocate, relocate, same, same, hplace, ihc, ihk]
      | _ => rfl
  | call l g es ihg ihes =>
      cases b with
      | call m h ds =>
          rw [relocate, relocate, same, same, hplace, ihg, relocateAll_eq, relocateAll_eq,
            sameAll_map fun e he d _ => ihes e he d]
      | _ => rfl
  | choice l c d e ihc ihd ihe =>
      cases b with
      | choice m c' d' e' => rw [relocate, relocate, same, same, hplace, ihc, ihd, ihe]
      | _ => rfl
  | list l es ih =>
      cases b with
      | list m ds =>
          rw [relocate, relocate, same, same, hplace, relocateAll_eq, relocateAll_eq,
            sameAll_map fun e he d _ => ih e he d]
      | _ => rfl
  | dictionary l es ih =>
      cases b with
      | dictionary m ds =>
          rw [relocate, relocate, same, same, hplace, relocateEntries_eq, relocateEntries_eq,
            sameEntries_map fun p hp q _ => ⟨(ih p hp).1 q.1, (ih p hp).2 q.2⟩]
      | _ => rfl
  | function l ps c ih =>
      cases b with
      | function m qs d => rw [relocate, relocate, same, same, hplace, ih]
      | _ => rfl

end Expr

/-! ## Tokens -/

def Token.relocate (f : Location → Location) (t : Token) : Token :=
  { t with location := f t.location }

/-- Tokens at other places, with the fault that ended them. -/
def Lexed.relocate (f : Location → Location) (r : Lexed) : Lexed :=
  ⟨r.tokens.map (Token.relocate f), r.fault.map fun (cause, l) => (cause, f l), r.mode⟩

namespace Lexer

/-- A text that starts at another place has its tokens at other places. -/
theorem tokensFrom_relocate {f : Location → Location} (hf : Location.Shift f) (mode : Mode)
    {place : Location} (h : 1 ≤ place.line) (cs : List Char) :
    tokensFrom mode (f place) cs = (tokensFrom mode place cs).relocate f := by
  have hadvance : ∀ (place : Location) (cs : List Char), 1 ≤ place.line →
      (f place).advance cs = f (place.advance cs) := fun _ cs h => (hf.advance h cs).symm
  fun_induction tokensFrom mode place cs with
  | case1 mode place =>
      rw [tokensFrom]
      rfl
  | case2 place c rest plain hempty after ih =>
      rw [tokensFrom, if_pos hempty]
      dsimp only
      rw [hadvance place _ h, ih (Location.one_le_line_advance h openingMark)]
      rfl
  | case3 place c rest plain hempty ih =>
      rw [tokensFrom, if_neg hempty, hadvance place _ h, ih (Location.one_le_line_advance h plain)]
      rfl
  | case4 place c rest hgap ih =>
      rw [tokensFrom, if_pos hgap, ← hf.after c h, ih (Location.one_le_line_after h c)]
  | case5 place c rest hgap cause hfault =>
      rw [tokensFrom, if_neg hgap, hfault]
      rfl
  | case6 place c rest hgap kind more hl source ih =>
      rw [tokensFrom, if_neg hgap, hl]
      dsimp only
      rw [hadvance place _ h, ih (Location.one_le_line_advance h source)]
      rfl

end Lexer

/-! ## Readings -/

/-- A failure with the place it names, if it names one, moved. -/
def ParseFailure.relocate (f : Location → Location) : ParseFailure → ParseFailure
  | .rejected cause l => .rejected cause (f l)
  | .tooDeep l => .tooDeep (f l)
  | .numeralTooLong digits => .numeralTooLong digits

namespace Reader

/-- A stop with the place it names, if it names one, moved. -/
def Stop.relocate (f : Location → Location) : Stop → Stop
  | .failure p => .failure (p.relocate f)
  | .cutShort => .cutShort

theorem Stop.toFailure_relocate (f : Location → Location)
    (fault : Option (LexicalFault × Location)) (stop : Stop) :
    (stop.relocate f).toFailure (fault.map fun (cause, l) => (cause, f l)) =
      (stop.toFailure fault).relocate f := by
  cases stop with
  | failure p => rfl
  | cutShort => cases fault <;> rfl

/-- Two readings at different places stop for the same reason. -/
def movedStops (f : Location → Location) : Stops where
  both stop stop' := stop' = stop.relocate f
  alone _ := False

theorem number_relocate (f : Location → Location) (negative : Bool) (t : Token) (l : Location) :
    Paired (movedStops f) (fun e e' => e' = e.relocate f) (number negative t l)
      (number negative (t.relocate f) (f l)) := by
  obtain ⟨kind, text, place⟩ := t
  unfold number Token.relocate
  dsimp only
  split
  · split
    · split
      · exact .ok rfl
      · exact .both rfl
    · exact .both rfl
  · split
    · split
      · exact .ok rfl
      · exact .both rfl
    · exact .both rfl
    · exact .both rfl

theorem map_relocate_of_forall₂ {f : Location → Location} {es es' : List Expr}
    (h : List.Forall₂ (fun e e' => e' = e.relocate f) es es') :
    es' = es.map (Expr.relocate f) := by
  induction h with
  | nil => rfl
  | cons he _ ih => rw [he, ih, List.map_cons]

/-- Under a map of places the same minuses of some tokens touch their numbers. -/
def KeepsTouching (f : Location → Location) (ts : List Token) : Prop :=
  ts.IsChain fun minus t => minus.kind = .minus → t.kind = .integer ∨ t.kind = .float →
    (f t.location = (f minus.location).next ↔ t.location = minus.location.next)

theorem keepsTouching_of_shift {f : Location → Location} (hf : Location.Shift f)
    (ts : List Token) : KeepsTouching f ts := by
  refine (List.pairwise_of_forall fun minus t _ _ => ?_).isChain
  rw [← hf.next, hf.injective.eq_iff]

/-- Tokens are read in step with the tokens at the other places; the trees are
the same, with their places moved. -/
theorem similar_relocate {f : Location → Location} {all : List Token}
    (hf : KeepsTouching f all) :
    Similar (Token.relocate f) (· <:+ all) (fun e e' => e' = e.relocate f) (movedStops f) where
  kind _ := rfl
  text _ := rfl
  touches h := (hf.suffix h).rel
  move h _ := (List.suffix_cons _ _).trans h
  cutShort _ _ := rfl
  tooDeep _ _ := rfl
  expected _ _ _ _ _ := rfl
  duplicate _ _ _ := rfl
  number {t ts} h _ := (number_relocate f false _ _).imp fun _ _ he =>
    ⟨he, (List.suffix_cons t ts).trans h⟩
  negative {minus t ts} h _ _ _ := (number_relocate f true _ _).imp fun _ _ he =>
    ⟨he, (List.suffix_append [minus, t] ts).trans h⟩
  string _ _ := rfl
  name _ _ := rfl
  member _ _ _ _ _ he := by rw [he]; rfl
  index _ _ _ _ _ he hk := by rw [he, hk]; rfl
  call _ _ _ _ _ he hes := by
    rw [he, map_relocate_of_forall₂ hes, ← Expr.relocateAll_eq]
    rfl
  choice _ _ _ _ _ _ _ hc ha hb := by rw [hc, ha, hb]; rfl
  list _ _ _ hes := by
    rw [map_relocate_of_forall₂ hes, ← Expr.relocateAll_eq]
    rfl
  dictionary _ es es' hes := by
    have hmap : es' = es.map fun p => (p.1.relocate f, p.2.relocate f) := by
      induction hes with
      | nil => rfl
      | cons hp _ ih => rw [List.map_cons, ← ih, ← hp.1, ← hp.2]
    rw [hmap, ← Expr.relocateEntries_eq]
    rfl
  function _ _ _ _ he := by rw [he]; rfl

/-- The children that are read at the other places are the ones that are read
here, at the other places. -/
theorem children_relocate {f : Location → Location} {ts : List Token} (hf : KeepsTouching f ts)
    (stack : Stack) :
    Paired (movedStops f) (fun es es' => es' = es.map (Expr.relocate f))
      (stack.children ts) (stack.children (ts.map (Token.relocate f))) :=
  have sim := similar_relocate hf
  (children_paired sim (within_paired sim stack.between stack.room) List.suffix_rfl).imp
    fun _ _ h => map_relocate_of_forall₂ h.1

end Reader

end Inlay
