import Inlay.Proofs.Runs
import Inlay.Proofs.Trees

/-!
# More of a stack

A template that renders on a stack renders alike on one that has more of it
(`renderOn_of_atMost`). A stack without end has more than any other: so what a template
renders as without end is what it renders as on every stack that it does not come to
the end of (`renderOn_eq_render`).

The two runs are the same but for their stacks, so values are related to themselves
alone, and all that evaluation does with values agrees with itself
(`AgreeFrom.refl`).
-/

namespace Inlay

/-- Whether rendering a template comes to the end of the stack. -/
def Template.Exhausts (t : Template) (stack : Evaluation.Stack) (context : Context)
    (scope : Scope) (record : Record) : Prop :=
  (Evaluation.renderAllOn stack context scope t.children record).1 = .error .stackExhausted

namespace Evaluation

/-- A value beside itself. -/
abbrev Itself (v w : Value) : Prop := v = w ∧ True

theorem likeness_itself : Likeness Itself :=
  Value.Hereditary.likeness (S := fun _ => True)
    ⟨fun _ => trivial, fun _ => trivial, fun _ => trivial, fun _ => trivial, by simp, by simp⟩

theorem AgreeFrom.refl {alone : Prop} {α : Type} {P : α → α → Prop} (hP : ∀ a, P a a)
    (m : Evaluated α) : AgreeFrom ⟨Eq, alone⟩ Eq P m m := by
  rintro r _ rfl
  refine .inr ⟨?_, rfl⟩
  generalize (m r).1 = x
  match x with
  | .ok a => exact .value (hP a)
  | .error (.error e) => exact .error rfl
  | .error .stackExhausted => exact .stackExhausted

variable {context : Context} {alone : Prop}

/-- An expression agrees with itself where calls do. -/
theorem agreeOn_itself {call call' : Stack → Caller}
    (hcall : ∀ {k k' : Stack}, Course.Fit ⟨Eq, alone⟩ k k' → ∀ l v vs,
      AgreeFrom ⟨Eq, alone⟩ Eq Itself (call k l v vs) (call' k' l v vs))
    (scope : Scope) (e : Expr) :
    AgreeOn ⟨Eq, alone⟩ Eq Itself (evalOn · context call scope e)
      (evalOn · context call' scope e) := by
  have hl (l : Location) : Placed Itself Eq l l := ⟨fun _ => rfl, fun ⟨h, _⟩ => h ▸ rfl⟩
  have hitself (v : Value) : Itself v v := ⟨rfl, trivial⟩
  induction e using Expr.induction with
  | string l s => exact agree_string likeness_itself s
  | integer l n => exact agree_integer likeness_itself n
  | float l x => exact agree_float (hitself _)
  | name l w => exact agree_nameOf (.refl hitself _)
  | member l b w ih => exact agree_memberOf likeness_itself (hl l) ih w
  | index l b k ihb ihk => exact agree_indexOf likeness_itself (hl l) ihb ihk
  | call l f es ihf ihes =>
      refine agree_callOf ihf (fun hk hv hvs => ?_) (List.forall₂_same.mpr ihes)
      obtain ⟨rfl, -⟩ := hv
      obtain ⟨rfl, -⟩ := forall₂_self_iff.mp hvs
      exact hcall hk _ _ _
  | choice l c a b ihc iha ihb => exact agree_choice likeness_itself (hl l) ihc iha ihb
  | list l es ih => exact agree_list likeness_itself (List.forall₂_same.mpr ih)
  | dictionary l es ih =>
      exact agree_dictionary likeness_itself (List.forall₂_same.mpr fun p hp =>
        ⟨hl _, (ih p hp).1, (ih p hp).2⟩)
  | function l ps b => exact agree_function (hitself _)

/-- A call agrees with itself. -/
theorem agree_callItself (budget : Nat) {k k' : Stack}
    (hk : Course.Fit ⟨Eq, alone⟩ k k') (l : Location) (v : Value) (vs : List Value) :
    AgreeFrom ⟨Eq, alone⟩ Eq Itself (callOn context budget k l v vs)
      (callOn context budget k' l v vs) := by
  induction budget using Nat.strongRecOn generalizing k k' l v vs with
  | ind budget ih =>
      have hitself (v : Value) : Itself v v := ⟨rfl, trivial⟩
      have hl : Placed Itself Eq l l := ⟨fun _ => rfl, fun ⟨h, _⟩ => h ▸ rfl⟩
      refine agree_callOn likeness_itself hl rfl hk ?_ ?_ (hitself v)
        (List.forall₂_same.mpr fun v _ => hitself v)
      · rintro f vs ws - hvs
        obtain ⟨rfl, -⟩ := forall₂_self_iff.mp hvs
        exact .refl hitself _
      · rintro left ps a b fr gr us us' d d' rfl ⟨heq, -⟩ hus - hd
        obtain ⟨rfl, -⟩ := forall₂_self_iff.mp hus
        cases heq
        exact agreeOn_itself (ih left (Nat.lt_succ_self left)) _ a hd

end Evaluation

namespace Template

open Evaluation

/-- The end of the stack is reported at the start of the template, as calls that nest too
deep. -/
theorem Exhausts.renderOn {t : Template} {k : Stack} {context : Context} {scope : Scope}
    {record : Record} (h : t.Exhausts k context scope record) :
    (t.renderOn k context scope record).1 =
      .error ⟨.callDepthExceeded context.limit, t.location⟩ :=
  settle_eq_error.mpr (.inr ⟨h, rfl⟩)

/-- A template renders alike on a stack and on one that has more of it, unless it comes
to the end of the first. -/
theorem renderOn_of_atMost {k k' : Stack} (h : k.AtMost k') (t : Template) (context : Context)
    (scope : Scope) (record : Record) :
    t.Exhausts k context scope record ∨
      t.renderOn k context scope record = t.renderOn k' context scope record := by
  have hagree : AgreeFrom ⟨Eq, True⟩ Eq Eq (renderAllOn k context scope t.children)
      (renderAllOn k' context scope t.children) :=
    agree_renderAll likeness_itself (List.forall₂_same.mpr fun e _ =>
      agreeOn_itself (agree_callItself _) scope e) ⟨h, .inl trivial⟩
  have hsettled := settle_mapError (g := id) (rfl : context.limit = context.limit) t.location hagree
    record
  refine hsettled.imp And.right fun ⟨hresult, hrecord⟩ => Prod.ext ?_ hrecord
  have hid (x : Except RenderError String) : x.mapError id = x := by cases x <;> rfl
  rwa [hid, hid] at hresult

/-- On a stack that it does not come to the end of, a template renders as it does
without end. -/
theorem renderOn_eq_render {k : Stack} {t : Template} {context : Context} {scope : Scope}
    {record : Record} (h : ¬ t.Exhausts k context scope record) :
    t.renderOn k context scope record = t.render context scope record :=
  (t.renderOn_of_atMost (.endless k) context scope record).resolve_left h

end Template

end Inlay
