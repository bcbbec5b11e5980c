import Inlay.Proofs.Parsing
import Inlay.Proofs.Places
import Inlay.Proofs.Trees

/-!
# The places of a tree

Every node of a tree that is read takes its place from a token of its own, so
no two nodes of a template stand at one place (`parse_places`). The count goes
through derivations: a place occurs among the nodes of a phrase at most as
often as among its tokens. Sameness of source, which compares places, is then
identity of nodes.
-/

namespace Inlay

namespace Expr

def places (e : Expr) : List Location := e.nodes.map location

def placesAll (es : List Expr) : List Location := (nodesAll es).map location

def placesEntries (es : List (Expr × Expr)) : List Location := (nodesEntries es).map location

theorem placesAll_cons (e : Expr) (es : List Expr) :
    placesAll (e :: es) = e.places ++ placesAll es := List.map_append ..

theorem placesEntries_cons (k v : Expr) (es : List (Expr × Expr)) :
    placesEntries ((k, v) :: es) = k.places ++ (v.places ++ placesEntries es) := by
  refine List.map_append.trans ?_
  exact congrArg (k.places ++ ·) List.map_append

theorem placesAll_eq (es : List Expr) : placesAll es = es.flatMap places := by
  rw [placesAll, nodesAll_eq, List.map_flatMap]
  rfl

theorem placesEntries_eq (es : List (Expr × Expr)) :
    placesEntries es = es.flatMap fun p => p.1.places ++ p.2.places := by
  rw [placesEntries, nodesEntries_eq, List.map_flatMap]
  simp only [List.map_append]
  rfl

section

variable {l : Location}

theorem places_string {v : String} : (string l v).places = [l] := rfl

theorem places_member {b : Expr} {w : String} : (member l b w).places = l :: b.places := rfl

theorem places_index {b k : Expr} : (index l b k).places = l :: (b.places ++ k.places) :=
  congrArg (l :: ·) List.map_append

theorem places_call {f : Expr} {es : List Expr} :
    (call l f es).places = l :: (f.places ++ placesAll es) :=
  congrArg (l :: ·) List.map_append

theorem places_choice {c a b : Expr} :
    (choice l c a b).places = l :: (c.places ++ (a.places ++ b.places)) := by
  refine congrArg (l :: ·) (List.map_append.trans ?_)
  exact congrArg (c.places ++ ·) List.map_append

theorem places_list {es : List Expr} : (list l es).places = l :: placesAll es := rfl

theorem places_dictionary {es : List (Expr × Expr)} :
    (dictionary l es).places = l :: placesEntries es := rfl

theorem places_function {ps : List String} {b : Expr} :
    (function l ps b).places = l :: b.places := rfl

end

end Expr

namespace Grammar

/-- A place occurs among the nodes of a phrase at most as often as among its
tokens; what suffixes are put to brings its own. -/
def Phrase.Spends (l : Location) (ts : List Token) : Phrase → Prop
  | .expression e => e.places.count l ≤ (ts.map Token.location).count l
  | .primary e => e.places.count l ≤ (ts.map Token.location).count l
  | .suffixes base e => e.places.count l ≤ base.places.count l + (ts.map Token.location).count l
  | .expressions es => (Expr.placesAll es).count l ≤ (ts.map Token.location).count l
  | .moreExpressions es => (Expr.placesAll es).count l ≤ (ts.map Token.location).count l
  | .entries es => (Expr.placesEntries es).count l ≤ (ts.map Token.location).count l
  | .moreEntries es => (Expr.placesEntries es).count l ≤ (ts.map Token.location).count l
  | .block es => (Expr.placesAll es).count l ≤ (ts.map Token.location).count l

theorem Literal.places_eq {negative : Bool} {t : Token} {place : Location} {e : Expr}
    (h : Literal negative t place e) : e.places = [place] := by
  cases h <;> rfl

theorem Derives.spends {n : Nat} {p : Phrase} {ts : List Token} (h : Nests n p ts)
    (l : Location) : p.Spends l ts := by
  induction h with
  | function hk ho hp hd hc ha hb ih =>
      simp only [Phrase.Spends, Expr.places_function, List.map_cons, List.map_append,
        List.count_cons, List.count_append] at ih ⊢
      omega
  | chain hb hs ihb ihs =>
      simp only [Phrase.Spends, List.map_append, List.count_append] at ihb ihs ⊢
      omega
  | group ho he hc ih =>
      simp only [Phrase.Spends, List.map_cons, List.map_append, List.count_cons,
        List.count_append] at ih ⊢
      omega
  | choice hk ho hc h1 ha h2 hb hr ihc iha ihb =>
      simp only [Phrase.Spends, Expr.places_choice, List.map_cons, List.map_append,
        List.count_cons, List.count_append] at ihc iha ihb ⊢
      omega
  | name hk => exact Nat.le_refl _
  | string hk => exact Nat.le_refl _
  | number hl => exact Nat.le_of_eq (congrArg _ hl.places_eq)
  | negative hk hat hl =>
      simp only [Phrase.Spends, hl.places_eq, List.map_cons, List.map_nil, List.count_cons]
      omega
  | list ho he hc ih =>
      simp only [Phrase.Spends, Expr.places_list, List.map_cons, List.map_append,
        List.count_cons, List.count_append] at ih ⊢
      omega
  | dictionary ho he hc ih =>
      simp only [Phrase.Spends, Expr.places_dictionary, List.map_cons, List.map_append,
        List.count_cons, List.count_append] at ih ⊢
      omega
  | noSuffix => exact Nat.le_refl _
  | member hd hk hs ih =>
      simp only [Phrase.Spends, Expr.places_member, List.map_cons, List.count_cons] at ih ⊢
      omega
  | index ho hi hc hs ihi ihs =>
      simp only [Phrase.Spends, Expr.places_index, List.map_cons, List.map_append,
        List.count_cons, List.count_append] at ihi ihs ⊢
      omega
  | call ho ha hc hs iha ihs =>
      simp only [Phrase.Spends, Expr.places_call, List.map_cons, List.map_append,
        List.count_cons, List.count_append] at iha ihs ⊢
      omega
  | noExpressions => exact Nat.le_refl _
  | someExpressions he hs ihe ihs =>
      simp only [Phrase.Spends, Expr.placesAll_cons, List.map_append, List.count_append]
        at ihe ihs ⊢
      omega
  | noMoreExpressions => exact Nat.le_refl _
  | moreExpressions hc he hs ihe ihs =>
      simp only [Phrase.Spends, Expr.placesAll_cons, List.map_cons, List.map_append,
        List.count_cons, List.count_append] at ihe ihs ⊢
      omega
  | noEntries => exact Nat.le_refl _
  | someEntries hk hc hv hs ihk ihv ihs =>
      simp only [Phrase.Spends, Expr.placesEntries_cons, List.map_cons, List.map_append,
        List.count_cons, List.count_append] at ihk ihv ihs ⊢
      omega
  | noMoreEntries => exact Nat.le_refl _
  | moreEntries h1 hk hc hv hs ihk ihv ihs =>
      simp only [Phrase.Spends, Expr.placesEntries_cons, List.map_cons, List.map_append,
        List.count_cons, List.count_append] at ihk ihv ihs ⊢
      omega
  | noChildren => exact Nat.le_refl _
  | textChild hk hs ih =>
      simp only [Phrase.Spends, Expr.placesAll_cons, Expr.places_string, List.map_cons,
        List.count_cons, List.count_append, List.count_nil] at ih ⊢
      omega
  | expressionChild ho he hc hs ihe ihs =>
      simp only [Phrase.Spends, Expr.placesAll_cons, List.map_cons, List.map_append,
        List.count_cons, List.count_append] at ihe ihs ⊢
      omega

end Grammar

/-- No two nodes of a template that is read stand at one place. -/
theorem parse_places {stack : Reader.Stack} {text : String} {t : Template}
    (h : Template.parse stack text = .ok t) :
    (Expr.placesAll t.children).Nodup := by
  obtain ⟨n, body, last, htokens, _, hbody⟩ := (parse_sound h).2
  have hnodup := nodup_places text
  rw [htokens, List.map_append] at hnodup
  refine List.nodup_iff_count.mpr fun l => Nat.le_trans (hbody.spends l) ?_
  exact List.nodup_iff_count.mp (List.nodup_append.mp hnodup).1 l

end Inlay
