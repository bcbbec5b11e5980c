import Inlay.Expr.Reader
import Inlay.Proofs.Results

/-!
# The rules of the reader

What each step and each loop comes to when nothing but the result is kept. A loop
over items stops before a token that is no comma, or goes on behind one
(`moreItems_ok`); up to a closing token there is nothing, or an item and more of
them (`items_ok`). So what holds of the items is all that a proof about elements,
entries or parameters has to bring.

`within between n` reads one expression where `n` frames are free.
-/

namespace Inlay

namespace Reader

/-! ## Single steps -/

section

variable {mode : Mode} {wanted : TokenKind} {what : Expectation} {ts rest : List Token} {t : Token}

theorem look_bind {α : Type} (mode : Mode) (ts : List Token) (f : TokenKind → Except Stop α) :
    (look mode ts >>= f) = f (kind ts) := rfl

theorem made_eq {α : Type} (x : Except Stop α) : (made x : Except Stop α) = x := rfl

theorem kind_cons (t : Token) (ts : List Token) : kind (t :: ts) = t.kind := rfl

theorem take_cons (mode : Mode) (h : rest ≠ []) :
    (take mode (t :: rest) : Reads Token (t :: rest)) = .ok ⟨t, rest, Nat.lt_succ_self _⟩ := by
  cases rest with
  | nil => exact absurd rfl h
  | cons u rest => rfl

theorem take_ok {hlt : rest.length < ts.length} {k : TokenKind}
    (h : (take mode ts : Reads Token ts) = .ok ⟨t, rest, hlt⟩) (hk : kind ts = k) :
    ts = t :: rest ∧ t.kind = k := by
  match ts with
  | [] => cases h
  | [_] => cases h
  | _ :: _ :: _ =>
      obtain ⟨rfl, rfl⟩ := Parsed.mk.inj (Except.ok.inj h)
      exact ⟨rfl, hk⟩

theorem reject_ne_ok {α : Type} {a : α} :
    (reject mode what ts : Except Stop α) ≠ .ok a := by
  cases ts <;> nofun

/-- A token of the kind that is wanted is taken, and any other rejected. -/
theorem expect_eq (mode : Mode) (wanted : TokenKind) (what : Expectation) (ts : List Token) :
    (expect mode wanted what ts : Reads Token ts) =
      if kind ts = wanted then take mode ts else reject mode what ts := rfl

theorem expect_cons (mode : Mode) (what : Expectation) (hk : t.kind = wanted) (h : rest ≠ []) :
    (expect mode wanted what (t :: rest) : Reads Token (t :: rest)) =
      .ok ⟨t, rest, Nat.lt_succ_self _⟩ := by
  rw [expect_eq, kind_cons, if_pos hk, take_cons mode h]

theorem expect_ok {hlt : rest.length < ts.length}
    (h : (expect mode wanted what ts : Reads Token ts) = .ok ⟨t, rest, hlt⟩) :
    ts = t :: rest ∧ t.kind = wanted := by
  rw [expect_eq] at h
  split at h
  · rename_i hk
    exact take_ok h hk
  · exact absurd h reject_ne_ok

end

/-! ## Items -/

section

variable {α σ : Type} {item : σ → ReaderIn (Except Stop) α} {next : σ → α → σ} {s : σ}
  {ts : List Token}

theorem moreItems_stop (h : kind ts ≠ .comma) :
    moreItems item next s ts = .ok ⟨([], ts), Nat.le_refl _⟩ := by
  rw [moreItems, look_bind, if_neg h]
  rfl

/-- Further items are none, or stand behind a comma. -/
theorem moreItems_ok {as : List α} {rest : List Token} {hle : rest.length ≤ ts.length}
    (h : moreItems item next s ts = .ok ⟨(as, rest), hle⟩) :
    (as = [] ∧ ts = rest) ∨
      ∃ comma r1 a r2 hlt as' hle', ts = comma :: r1 ∧ comma.kind = .comma ∧
        item s r1 = .ok ⟨a, r2, hlt⟩ ∧
        moreItems item next (next s a) r2 = .ok ⟨(as', rest), hle'⟩ ∧ as = a :: as' := by
  rw [moreItems, look_bind] at h
  split at h
  · rename_i hk
    obtain ⟨⟨comma, r1, hlt1⟩, hcomma, h⟩ := bind_ok.mp h
    obtain ⟨⟨a, r2, hlt2⟩, hitem, h⟩ := bind_ok.mp h
    obtain ⟨⟨⟨as', rest'⟩, hle'⟩, hmore, h⟩ := bind_ok.mp h
    obtain ⟨rfl, rfl⟩ := Prod.mk.inj (Subtype.mk.inj (pure_ok.mp h))
    obtain ⟨rfl, hkind⟩ := take_ok hcomma hk
    exact .inr ⟨comma, r1, a, r2, hlt2, as', hle', rfl, hkind, hitem, hmore, rfl⟩
  · obtain ⟨rfl, rfl⟩ := Prod.mk.inj (Subtype.mk.inj (pure_ok.mp h))
    exact .inl ⟨rfl, rfl⟩

/-- What is read up to a closing token is nothing, or an item and more of them. -/
theorem items_ok {closer : TokenKind} {what : Expectation} {rest : List Token} {as : List α}
    {hlt : rest.length < ts.length} (h : items item next s closer what ts = .ok ⟨as, rest, hlt⟩) :
    ∃ close, close.kind = closer ∧ ((ts = close :: rest ∧ as = []) ∨
      ∃ a r1 hlt1 as' hle, item s ts = .ok ⟨a, r1, hlt1⟩ ∧
        moreItems item next (next s a) r1 = .ok ⟨(as', close :: rest), hle⟩ ∧ as = a :: as') := by
  rw [items, look_bind] at h
  split at h
  · rename_i hk
    obtain ⟨⟨close, r1, hlt1⟩, hclose, h⟩ := bind_ok.mp h
    obtain ⟨rfl, rfl⟩ := Parsed.mk.inj (pure_ok.mp h)
    obtain ⟨rfl, hkind⟩ := take_ok hclose hk
    exact ⟨close, hkind, .inl ⟨rfl, rfl⟩⟩
  · obtain ⟨⟨a, r1, hlt1⟩, hitem, h⟩ := bind_ok.mp h
    obtain ⟨⟨⟨as', r2⟩, hle⟩, hmore, h⟩ := bind_ok.mp h
    obtain ⟨⟨close, r3, hlt3⟩, hclose, h⟩ := bind_ok.mp h
    obtain ⟨rfl, rfl⟩ := Parsed.mk.inj (pure_ok.mp h)
    obtain ⟨rfl, hkind⟩ := expect_ok hclose
    exact ⟨close, hkind, .inr ⟨a, r1, hlt1, as', hle, hitem, hmore, rfl⟩⟩

end

/-! ## Suffixes -/

/-- There is no suffix, or one and more of them. -/
theorem suffixes_ok {one : Construct → ExprReader} {base e : Expr} {ts rest : List Token}
    {hle : rest.length ≤ ts.length} (h : suffixes one base ts = .ok ⟨(e, rest), hle⟩) :
    (e = base ∧ ts = rest) ∨
      ∃ e' r1 hlt hle', suffix? one base ts = .ok (some ⟨e', r1, hlt⟩) ∧
        suffixes one e' r1 = .ok ⟨(e, rest), hle'⟩ := by
  rw [suffixes] at h
  obtain ⟨found, hfound, h⟩ := bind_ok.mp h
  cases found with
  | none =>
      obtain ⟨rfl, rfl⟩ := Prod.mk.inj (Subtype.mk.inj (pure_ok.mp h))
      exact .inl ⟨rfl, rfl⟩
  | some p =>
      obtain ⟨⟨⟨e, rest⟩, hle'⟩, hmore, h⟩ := bind_ok.mp h
      obtain ⟨rfl, rfl⟩ := Prod.mk.inj (Subtype.mk.inj (pure_ok.mp h))
      exact .inr ⟨p.value, p.rest, p.shorter, hle', hfound, hmore⟩

/-! ## Frames -/

/-- Reads an expression where so many frames are free. -/
def within (between : Construct → Nat) (free : Nat) : ExprReader := expression between free 0

variable {between : Construct → Nat}

/-- Frames that are taken before an expression are not free for it. -/
theorem expression_eq_within (between : Construct → Nat) (room above : Nat) :
    expression between room above = within between (room - above) := by
  induction room generalizing above with
  | zero => rw [Nat.zero_sub]; cases above <;> rfl
  | succ room ih =>
      cases above with
      | zero => rfl
      | succ above =>
          rw [Nat.add_sub_add_right, ← ih]
          rfl

theorem giveUp_ne_ok {α : Type} {ts : List Token} {a : α} :
    (giveUp ts : Except Stop α) ≠ .ok a := by
  cases ts <;> nofun

def parts (between : Construct → Nat) (free : Nat) (c : Construct) : ExprReader :=
  within between (free - between c)

theorem within_succ (between : Construct → Nat) (free : Nat) (ts : List Token) :
    within between (free + 1) ts =
      if kind ts = .fnWord then function (parts between free .function) ts
      else do
        let base ← primary (parts between free) ts
        let r ← suffixes (parts between free) base.value base.rest
        return ⟨r.1.1, r.1.2, Nat.lt_of_le_of_lt r.2 base.shorter⟩ := by
  have hparts : (fun c => expression between free (between c)) = parts between free :=
    funext fun c => expression_eq_within between free (between c)
  rw [within, expression, look_bind, expression_eq_within between free (between .function), hparts]
  rfl

theorem Stack.children_eq (stack : Stack) (ts : List Token) :
    stack.children ts = Reader.children (within stack.between stack.room) ts := rfl

end Reader

end Inlay
