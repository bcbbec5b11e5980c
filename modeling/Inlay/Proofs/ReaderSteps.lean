import Inlay.Expr.Reader

/-!
# The steps of a reading

The rules of the reader with a record of what they do at the current token: look at
it, take it or reject it. Each leaves a note of what the reader is in the middle of,
text or an expression, and of the tokens from the current one on. The rules are put
together from these steps alone, so no token is touched without a note; and what they
come to is the same with the notes and without (`Traced.result_children`), as the
result of steps in a row is that of their results in a row (`Traced.result_bind`).
-/

namespace Inlay

namespace Reader

/-- What a reader does at the current token. -/
inductive Act where
  | look
  | take
  | reject (what : Expectation)
  deriving DecidableEq, Repr

/-- A step of a reader: what it is in the middle of, what it does, and the tokens
from the current one on. -/
structure Step where
  mode : Mode
  act : Act
  tokens : List Token
  deriving DecidableEq, Repr

/-- The tokens that are taken in some steps, in order. -/
def taken (steps : List Step) : List Token :=
  steps.flatMap fun s =>
    match s.act with
    | .take => s.tokens.take 1
    | _ => []

/-- A result with the steps that led to it. -/
structure Traced (α : Type) where
  steps : List Step
  result : Except Stop α

/-- Steps in a row end with the first that stops. -/
instance : Monad Traced where
  pure a := ⟨[], .ok a⟩
  bind x f :=
    match x.result with
    | .ok a => ⟨x.steps ++ (f a).steps, (f a).result⟩
    | .error stop => ⟨x.steps, .error stop⟩

instance : Steps Traced where
  look mode ts := ⟨[⟨mode, .look, ts⟩], look mode ts⟩
  take mode ts := ⟨[⟨mode, .take, ts⟩], take mode ts⟩
  reject mode what ts := ⟨[⟨mode, .reject what, ts⟩], reject mode what ts⟩
  made x := ⟨[], x⟩

namespace Traced

section

variable {α β : Type}

@[simp]
theorem result_bind (x : Traced α) (f : α → Traced β) :
    (x >>= f).result = x.result >>= fun a => (f a).result := by
  change (match x.result with
    | .ok a => (⟨x.steps ++ (f a).steps, (f a).result⟩ : Traced β)
    | .error stop => ⟨x.steps, .error stop⟩).result = _
  cases x.result <;> rfl

@[simp]
theorem result_pure (a : α) : (pure a : Traced α).result = pure a := rfl

@[simp]
theorem result_look (mode : Mode) (ts : List Token) :
    (look mode ts : Traced TokenKind).result = look mode ts := rfl

@[simp]
theorem result_take (mode : Mode) (ts : List Token) :
    (take mode ts : Traced (Parsed Token ts)).result = take mode ts := rfl

@[simp]
theorem result_reject (mode : Mode) (what : Expectation) (ts : List Token) :
    (reject mode what ts : Traced α).result = reject mode what ts := rfl

@[simp]
theorem result_made (x : Except Stop α) : (made x : Traced α).result = made x := rfl

@[simp]
theorem result_ite (p : Prop) [Decidable p] (x y : Traced α) :
    (if p then x else y).result = if p then x.result else y.result :=
  apply_ite result p x y

end

/-- A reader without the record. -/
abbrev untraced {α : Type} (one : ReaderIn Traced α) : ReaderIn (Except Stop) α :=
  fun ts => (one ts).result

/-! ## The same results -/

@[simp]
theorem result_expect (mode : Mode) (wanted : TokenKind) (what : Expectation)
    (ts : List Token) :
    (expect mode wanted what ts : Traced (Parsed Token ts)).result =
      expect mode wanted what ts := by
  simp [expect]

@[simp]
theorem result_negativeNumber (ts : List Token) :
    (negativeNumber ts : Traced (Parsed Expr ts)).result = negativeNumber ts := by
  simp [negativeNumber]

section

variable {α σ : Type} (item : σ → ReaderIn Traced α) (next : σ → α → σ)

theorem result_moreItems (s : σ) (ts : List Token) :
    (moreItems item next s ts).result = moreItems (fun s => untraced (item s)) next s ts := by
  induction s, ts using moreItems.induct next with
  | case1 s ts ih =>
      rw [moreItems, moreItems]
      simp [ih]

theorem result_items (s : σ) (closer : TokenKind) (what : Expectation) (ts : List Token) :
    (items item next s closer what ts).result =
      items (fun s => untraced (item s)) next s closer what ts := by
  simp [items, result_moreItems]

end

theorem result_parameters (ts : List Token) :
    (parameters ts : Traced (Parsed (List String) ts)).result = parameters ts := by
  have hone (before : List String) :
      untraced (parameter before) = (parameter before : ReaderIn (Except Stop) String) := by
    funext ts
    simp [untraced, parameter]
  simp [parameters, result_items, hone]

section

variable (one : ReaderIn Traced Expr)

theorem result_expressions (closer : TokenKind) (what : Expectation) (ts : List Token) :
    (expressions one closer what ts).result = expressions (untraced one) closer what ts :=
  result_items ..

theorem result_entries (ts : List Token) :
    (entries one ts).result = entries (untraced one) ts := by
  have hone : untraced (entry one) = entry (untraced one) := by
    funext ts
    simp [untraced, entry]
  simp [entries, result_items, hone]

theorem result_function (ts : List Token) :
    (function one ts).result = function (untraced one) ts := by
  simp [function, result_parameters]

theorem result_choice (ts : List Token) :
    (choice one ts).result = choice (untraced one) ts := by
  simp [choice]

end

section

variable (one : Construct → ReaderIn Traced Expr)

theorem result_primary (ts : List Token) :
    (primary one ts).result = primary (fun c => untraced (one c)) ts := by
  rw [primary, primary, result_bind, result_look]
  refine bind_congr fun k => ?_
  cases k <;> simp [result_choice, result_expressions, result_entries]

theorem result_suffix? (base : Expr) (ts : List Token) :
    (suffix? one base ts).result = suffix? (fun c => untraced (one c)) base ts := by
  rw [suffix?, suffix?, result_bind, result_look]
  refine bind_congr fun k => ?_
  cases k <;> simp [result_expressions]

theorem result_suffixes (base : Expr) (ts : List Token) :
    (suffixes one base ts).result = suffixes (fun c => untraced (one c)) base ts := by
  induction base, ts using suffixes.induct with
  | case1 base ts ih =>
      rw [suffixes, suffixes, result_bind, result_suffix?]
      refine bind_congr fun r => ?_
      cases r <;> simp [ih]

end

theorem result_expression (between : Construct → Nat) (room above : Nat) (ts : List Token) :
    (expression between room above ts : Traced (Parsed Expr ts)).result =
      expression between room above ts := by
  induction room generalizing above ts with
  | zero => simp [expression]
  | succ room ih =>
      cases above with
      | zero =>
          have hone (above : Nat) :
              untraced (expression between room above) = expression between room above :=
            funext fun ts => ih above ts
          rw [expression, expression, result_bind, result_look]
          refine bind_congr fun k => ?_
          simp [result_function, result_primary, result_suffixes, hone]
      | succ above => exact ih above ts

/-- What is read of a template is the same with the steps and without. -/
theorem result_children (stack : Stack) (ts : List Token) :
    (children stack.expression ts : Traced (List Expr)).result = stack.children ts := by
  have hone (ts : List Token) :
      (stack.expression ts : Traced (Parsed Expr ts)).result = stack.expression ts :=
    result_expression ..
  rw [Stack.children]
  induction ts using children.induct with
  | case1 ts ihtext ihexpression =>
      rw [children, children, result_bind, result_look]
      refine bind_congr fun k => ?_
      cases k <;> simp [hone, ihtext, ihexpression]

end Traced

end Reader

end Inlay
