import Inlay.Expr.Description
import Inlay.Proofs.NodePlaces
import Inlay.Proofs.Offsets
import Inlay.Proofs.ParseOutcome

/-!
# All places are true

Every place that reading a text gives out is that of an offset of the text: of a
token, of the fault that ended the tokens, of a rejection, of the token that the
reader gave up at and of each node of the tree (`PlacesTrue`). All but the lexer's
own have their places from tokens, so only the lexer's have to be tied to the text.
-/

namespace Inlay

open Grammar

theorem Token.StandsAt.le {text : List Char} {t : Token} {o : Nat} (h : t.StandsAt text o) :
    o ≤ text.length := by
  obtain ⟨before, rest, htext, rfl⟩ := h.source
  rw [htext, List.length_append, List.length_append, Nat.add_assoc]
  exact Nat.le_add_right ..

theorem Lexed.StandsAt.of_mem {text : List Char} {start : Nat} {r : Lexed} {os : List Nat}
    (h : r.StandsAt text start os) {t : Token} (ht : t ∈ r.tokens) : ∃ o, t.StandsAt text o := by
  obtain ⟨i, hi, rfl⟩ := List.getElem_of_mem ht
  exact ⟨_, (List.forall₂_iff_get.mp h.tokens).2 i hi (h.tokens.length_eq ▸ hi)⟩

/-- A token stands at the end of what leads to its place. -/
theorem Token.standsAt_of_place {text : String} {t : Token} (ht : t ∈ (tokenize text).tokens)
    {front : List Char} (hfront : front <+: text.toList)
    (hplace : t.location = Location.start.advance front) : t.StandsAt text.toList front.length := by
  obtain ⟨os, hos⟩ :=
    Lexer.run_standsAt (Lexer.tokensFrom_run .plain .start text.toList) [] rfl rfl
  change (tokenize text).StandsAt text.toList 0 os at hos
  obtain ⟨o, ho⟩ := hos.of_mem ht
  have htake : front = text.toList.take o := by
    refine Location.eq_of_advance hfront (List.take_prefix o _) ?_
    rw [← hplace, ho.place, Location.advance_take]
  rwa [htake, List.length_take_of_le ho.le]

/-- The places that come of reading a text on a stack, given the offsets of its
tokens. -/
structure PlacesTrue (stack : Reader.Stack) (text : String) (os : List Nat) : Prop where
  /-- Tokens stand at increasing offsets, each where its source begins, the
  ending token at the end; a lexical fault stands where its character does. -/
  tokens : (tokenize text).StandsAt text.toList 0 os
  /-- A rejection is at a token or at the lexical fault. -/
  rejections : ∀ cause l, Template.parse stack text = .error (.rejected cause l) →
    ∃ o ≤ text.toList.length, l = .ofOffset text.toList o ∧
      ((∃ t ∈ (tokenize text).tokens, t.StandsAt text.toList o) ∨
        ∃ fault, cause = .lexical fault ∧ (tokenize text).fault = some (fault, l))
  /-- Where the stack is too small, reading is given up at a token. -/
  givenUp : ∀ l, Template.parse stack text = .error (.tooDeep l) →
    ∃ o, l = .ofOffset text.toList o ∧
      ∃ t ∈ (tokenize text).tokens, t.StandsAt text.toList o
  root : ∀ t, Template.parse stack text = .ok t → t.location = .ofOffset text.toList 0
  /-- A node stands where the token does that it is anchored at. -/
  nodes : ∀ t, Template.parse stack text = .ok t → ∀ e ∈ Expr.nodesAll t.children,
    ∃ before a after o, before ++ a :: after <:+: (tokenize text).tokens ∧
      Anchored before a after e ∧ a.StandsAt text.toList o ∧ e.location = .ofOffset text.toList o
  /-- The block that a function's body is shown as has the place of the body. -/
  bodies : ∀ t, Template.parse stack text = .ok t →
    ∀ l ps b, .function l ps b ∈ Expr.nodesAll t.children →
      ∃ o, b.location = .ofOffset text.toList o ∧
        (Expr.function l ps b).description = nodeText "FunctionLiteral"
          [("location", l.description), ("parameters", tupleText (ps.map Text.quoted)),
            ("body", Expr.blockText (.ofOffset text.toList o) b.description)]

section

variable {stack : Reader.Stack} {text : String} {os : List Nat}
  (hos : (tokenize text).StandsAt text.toList 0 os)
include hos

theorem rejection_stands {cause : ParseCause} {l : Location}
    (h : Template.parse stack text = .error (.rejected cause l)) :
    ∃ o ≤ text.toList.length, l = .ofOffset text.toList o ∧
      ((∃ t ∈ (tokenize text).tokens, t.StandsAt text.toList o) ∨
        ∃ fault, cause = .lexical fault ∧ (tokenize text).fault = some (fault, l)) := by
  rcases (parse_accounted h).place with ⟨t, ht, rfl⟩ | ⟨fault, hcause, hfault⟩
  · obtain ⟨o, ho⟩ := hos.of_mem ht
    exact ⟨o, ho.le, ho.place, .inl ⟨t, ht, ho⟩⟩
  · obtain ⟨o, hat, hfaultAt⟩ := hos.stopped _ _ hfault
    obtain ⟨c, hc, -⟩ := hfaultAt.character
    have hlt : o < text.toList.length := (List.getElem?_eq_some_iff.mp hc).1
    exact ⟨o, hlt.le, hat, .inr ⟨fault, hcause, hfault⟩⟩

theorem depth_stands {l : Location} (h : Template.parse stack text = .error (.tooDeep l)) :
    ∃ o, l = .ofOffset text.toList o ∧ ∃ t ∈ (tokenize text).tokens, t.StandsAt text.toList o := by
  obtain ⟨t, ht, rfl⟩ := (parse_accounted h).depth
  obtain ⟨o, ho⟩ := hos.of_mem ht
  exact ⟨o, ho.place, t, ht, ho⟩

theorem node_stands {t : Template} (h : Template.parse stack text = .ok t) {e : Expr}
    (he : e ∈ Expr.nodesAll t.children) :
    ∃ before a after o, before ++ a :: after <:+: (tokenize text).tokens ∧
      Anchored before a after e ∧ a.StandsAt text.toList o ∧
      e.location = .ofOffset text.toList o := by
  obtain ⟨-, n, body, last, htokens, -, hbody⟩ := parse_sound h
  obtain ⟨before, a, after, hin, ha⟩ := hbody.anchored e he
  have hin' : before ++ a :: after <:+: (tokenize text).tokens := by
    rw [htokens]
    exact hin.trans (List.prefix_append ..).isInfix
  have hmem : a ∈ (tokenize text).tokens := hin'.subset (by simp)
  obtain ⟨o, ho⟩ := hos.of_mem hmem
  exact ⟨before, a, after, o, hin', ha, ho, ha.location_eq.trans ho.place⟩

end

/-- The body of a function is a node of its own. -/
theorem Expr.body_mem_nodesAll {es : List Expr} {l : Location} {ps : List String} {b : Expr}
    (h : .function l ps b ∈ nodesAll es) : b ∈ nodesAll es :=
  nodes_subset_nodesAll h (List.mem_cons_of_mem _ b.self_mem_nodes)

theorem places_true (stack : Reader.Stack) (text : String) :
    ∃ os, PlacesTrue stack text os := by
  obtain ⟨os, hos⟩ :=
    Lexer.run_standsAt (Lexer.tokensFrom_run .plain .start text.toList) [] rfl rfl
  change (tokenize text).StandsAt text.toList 0 os at hos
  refine ⟨os, hos, fun _ _ => rejection_stands hos, fun _ => depth_stands hos, fun _ _ => rfl,
    fun _ h _ => node_stands hos h, fun t h l ps b hf => ?_⟩
  obtain ⟨-, -, -, o, -, -, -, hplace⟩ := node_stands hos h (Expr.body_mem_nodesAll hf)
  refine ⟨o, hplace, ?_⟩
  rw [Expr.description, hplace]

end Inlay
