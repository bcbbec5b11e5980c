import Inlay.Proofs.Lossless
import Inlay.Proofs.ReaderComplete

/-!
# Parsing is derivability

A text is read as a template exactly when the lexer finds no fault in it and
the grammar derives the template from its tokens (`parse_iff_derivable`), and
the grammar derives no second one. Two limits of the reader stand outside of
the grammar: the length of an integer's numeral and the depth of nesting.

The uniqueness of trees holds for all tokens, also those that no reader
accepts: numerals are first replaced by short ones of the same value, which
changes no derivation (`Derives.shortened`) and leaves tokens that are read.
-/

namespace Inlay

/-! ## The tokens of a text -/

namespace Lexer

theorem Lexeme.integer_digits {s : List Char} (h : Lexeme .integer s) : IsDigits s := by
  generalize hk : TokenKind.integer = kind at h
  cases h with
  | integer hd => exact hd
  | word hc hm => rcases wordKind_cases _ with h | h | h <;> rw [h] at hk <;> cases hk
  | sign hc =>
      subst hk
      unfold signKind? at hc
      split at hc <;> cases hc
  | _ => cases hk

/-- Integer tokens are digits. -/
theorem run_formed {mode : Mode} {place : Location} {cs : List Char} {r : Lexed}
    (h : Run mode place cs r) : Reader.Formed r.tokens := by
  induction h with
  | done mode place => simp [Reader.Formed]
  | opening hr ih => exact List.forall_mem_cons.mpr ⟨by simp, ih⟩
  | text hne hmark hstop hr ih => exact List.forall_mem_cons.mpr ⟨by simp, ih⟩
  | gap hc hr ih => exact ih
  | lexeme hl hr ih =>
      refine List.forall_mem_cons.mpr ⟨fun hk => ?_, ih⟩
      dsimp only at hk
      subst hk
      rw [show tokenText .integer _ = String.ofList _ from rfl, String.toList_ofList]
      exact hl.integer_digits
  | fault hf => simp [Reader.Formed]

end Lexer

namespace Grammar

variable {between : Reader.Construct → Nat}

/-! ## Short numerals -/

/-- A token with its numeral, if it is an integer, replaced by a short one. The
value is the same as long as it has a place among the integers. -/
def shortened (t : Token) : Token :=
  if t.kind = .integer then
    let value := min (Nat.ofDigitChars 10 t.text.toList 0) 0x8000000000000001
    { t with text := String.ofList (Decimal.digitsOf value) }
  else t

theorem shortened_kind (t : Token) : (shortened t).kind = t.kind := by
  unfold shortened
  split <;> rfl

theorem shortened_location (t : Token) : (shortened t).location = t.location := by
  unfold shortened
  split <;> rfl

theorem shortened_eq {t : Token} (h : t.kind ≠ .integer) : shortened t = t := if_neg h

theorem shortened_readable (ts : List Token) : Reader.Readable (ts.map shortened) := by
  intro u hu hk
  obtain ⟨t, -, rfl⟩ := List.mem_map.mp hu
  rw [shortened_kind] at hk
  rw [shortened, if_pos hk, String.toList_ofList]
  exact ⟨Decimal.isDigits_digitsOf _, Decimal.length_digitsOf_le (by omega)⟩

theorem Literal.shortened {negative : Bool} {t : Token} {place : Location} {e : Expr}
    (h : Literal negative t place e) : Literal negative (shortened t) place e := by
  cases h with
  | integer hk hr =>
      have hvalue : signedValue negative (Grammar.shortened t).text =
          signedValue negative t.text := by
        have hsmall : Nat.ofDigitChars 10 t.text.toList 0 ≤ 0x8000000000000000 := by
          unfold FitsInt64 signedValue at hr
          split at hr <;> omega
        rw [Grammar.shortened, if_pos hk]
        simp only [signedValue, String.toList_ofList, Decimal.ofDigitChars_digitsOf]
        rw [Nat.min_eq_left (by omega)]
      rw [← hvalue] at hr ⊢
      exact .integer ((shortened_kind t).trans hk) hr
  | float hk hx hf =>
      rw [shortened_eq (by simp [hk])]
      exact .float hk hx hf

theorem Names.shortened {ps : List String} {ts : List Token} (h : Names ps ts) :
    Names ps (ts.map shortened) := by
  induction h with
  | one hk =>
      rw [List.map_singleton, shortened_eq (by simp [hk])]
      exact .one hk
  | more hk hc hs ih =>
      rw [List.map_cons, List.map_cons, shortened_eq (by simp [hk]), shortened_eq (by simp [hc])]
      exact .more hk hc ih

theorem Parameters.shortened {ps : List String} {ts : List Token} (h : Parameters ps ts) :
    Parameters ps (ts.map shortened) := by
  cases h with
  | none => exact .none
  | some hs => exact .some hs.shortened

/-- Shortening numerals changes no derivation. -/
theorem Derives.shortened {n : Nat} {p : Phrase} {ts : List Token}
    (h : Derives between n p ts) : Derives between n p (ts.map shortened) := by
  have hkeep : ∀ {t : Token} {k : TokenKind}, t.kind = k → k ≠ .integer →
      Grammar.shortened t = t := fun hk hne => shortened_eq (hk ▸ hne)
  induction h with
  | function hk ho hp hd hc ha hb ih =>
      simpa [hkeep hk, hkeep ho, hkeep hc, hkeep ha] using
        Derives.function hk ho hp.shortened hd hc ha ih
  | chain hb hs ihb ihs => simpa using Derives.chain ihb ihs
  | group ho he hc ih => simpa [hkeep ho, hkeep hc] using Derives.group ho ih hc
  | choice hk ho hc h1 ha h2 hb hr ihc iha ihb =>
      simpa [hkeep hk, hkeep ho, hkeep h1, hkeep h2, hkeep hr] using
        Derives.choice hk ho ihc h1 iha h2 ihb hr
  | name hk => simpa [hkeep hk] using Derives.name hk
  | string hk => simpa [hkeep hk] using Derives.string hk
  | @number _ t e hl =>
      rw [List.map_singleton]
      have hl' := hl.shortened
      rw [← shortened_location t] at hl'
      exact .number hl'
  | @negative _ minus t e hk hat hl =>
      rw [List.map_cons, List.map_singleton, hkeep hk (by decide)]
      exact .negative hk ((shortened_location t).trans hat) hl.shortened
  | list ho he hc ih => simpa [hkeep ho, hkeep hc] using Derives.list ho ih hc
  | dictionary ho he hc ih => simpa [hkeep ho, hkeep hc] using Derives.dictionary ho ih hc
  | noSuffix => exact .noSuffix
  | member hd hk hs ih => simpa [hkeep hd, hkeep hk] using Derives.member hd hk ih
  | index ho hi hc hs ihi ihs => simpa [hkeep ho, hkeep hc] using Derives.index ho ihi hc ihs
  | call ho ha hc hs iha ihs => simpa [hkeep ho, hkeep hc] using Derives.call ho iha hc ihs
  | noExpressions => exact .noExpressions
  | someExpressions he hs ihe ihs => simpa using Derives.someExpressions ihe ihs
  | noMoreExpressions => exact .noMoreExpressions
  | moreExpressions hc he hs ihe ihs =>
      simpa [hkeep hc] using Derives.moreExpressions hc ihe ihs
  | noEntries => exact .noEntries
  | someEntries hk hc hv hs ihk ihv ihs =>
      simpa [hkeep hc] using Derives.someEntries ihk hc ihv ihs
  | noMoreEntries => exact .noMoreEntries
  | moreEntries h1 hk hc hv hs ihk ihv ihs =>
      simpa [hkeep h1, hkeep hc] using Derives.moreEntries h1 ihk hc ihv ihs
  | noChildren => exact .noChildren
  | textChild hk hs ih => simpa [hkeep hk] using Derives.textChild hk ih
  | expressionChild ho he hc hs ihe ih =>
      simpa [hkeep ho, hkeep hc] using Derives.expressionChild ho ihe hc ih

/-! ## One tree at most -/

/-- Two expressions at the head of the same tokens are the same, if nothing
behind either could lengthen it. -/
theorem expression_unique {n n' : Nat} {e e' : Expr} {ts ts' rest rest' : List Token}
    (h : Derives between n (.expression e) ts) (h' : Derives between n' (.expression e') ts')
    (heq : ts ++ rest = ts' ++ rest') (hread : Reader.Readable (ts ++ rest))
    (hrest : Reader.Closed rest) (hrest' : Reader.Closed rest') : e = e' ∧ rest = rest' := by
  have hone := Reader.derives_complete h hread.left (max n n') rest hrest
  have hone' := Reader.derives_complete h' (heq ▸ hread).left (max n n') rest' hrest'
  rw [← heq] at hone'
  cases hx : Reader.within between (max n n') (ts ++ rest) with
  | error stop =>
      rw [hx] at hone
      have := hone.2
      omega
  | ok p =>
      obtain ⟨v, r, hlt⟩ := p
      obtain ⟨rfl, rfl⟩ := hone.of_ok hx
      exact hone'.of_ok hx

/-- How a block is derived. -/
theorem block_cases {n : Nat} {es : List Expr} {ts : List Token}
    (h : Derives between n (.block es) ts) :
    (ts = [] ∧ es = []) ∨
    (∃ t us es', ts = t :: us ∧ es = .string t.location t.text :: es' ∧ t.kind = .text ∧
      Derives between n (.block es') us) ∨
    ∃ opener us closer vs e es', ts = opener :: (us ++ closer :: vs) ∧ es = e :: es' ∧
      opener.kind = .opening ∧ closer.kind = .closing ∧
      Derives between n (.expression e) us ∧ Derives between n (.block es') vs := by
  cases h with
  | noChildren => exact .inl ⟨rfl, rfl⟩
  | textChild hk hs => exact .inr (.inl ⟨_, _, _, rfl, rfl, hk, hs⟩)
  | expressionChild ho he hc hs => exact .inr (.inr ⟨_, _, _, _, _, _, rfl, rfl, ho, hc, he, hs⟩)

theorem block_unique {n n' : Nat} {es es' : List Expr} {ts : List Token}
    (h : Derives between n (.block es) ts) (h' : Derives between n' (.block es') ts)
    (hread : Reader.Readable ts) : es = es' := by
  generalize hp : Phrase.block es = p at h
  induction h generalizing es es' with
  | noChildren =>
      cases hp
      rcases block_cases h' with ⟨-, rfl⟩ | ⟨t, us, es', hts, -⟩ | ⟨o, us, c, vs, e, es', hts, -⟩
      · rfl
      · cases hts
      · cases hts
  | textChild hk hs ih =>
      cases hp
      rcases block_cases h' with ⟨hts, -⟩ | ⟨t, us, es', hts, rfl, -, hs'⟩ |
        ⟨o, us, c, vs, e, es', hts, -, ho, -⟩
      · cases hts
      · obtain ⟨rfl, rfl⟩ := List.cons.inj hts
        rw [ih hs' hread.tail rfl]
      · obtain ⟨rfl, -⟩ := List.cons.inj hts
        rw [hk] at ho
        cases ho
  | expressionChild ho he hc hs ihe ih =>
      cases hp
      rcases block_cases h' with ⟨hts, -⟩ | ⟨t, us, es', hts, -, hk, -⟩ |
        ⟨o, us, c, vs, e, es', hts, rfl, -, hc', he', hs'⟩
      · cases hts
      · obtain ⟨rfl, -⟩ := List.cons.inj hts
        rw [ho] at hk
        cases hk
      · obtain ⟨rfl, heq⟩ := List.cons.inj hts
        obtain ⟨rfl, hrest⟩ := expression_unique he he' heq hread.tail
          (.of_kind hc (by decide)) (.of_kind hc' (by decide))
        obtain ⟨rfl, rfl⟩ := List.cons.inj hrest
        rw [ih hs' hread.tail.right.tail rfl]
  | _ => cases hp

end Grammar

/-- The grammar derives at most one template from tokens. -/
theorem Template.Derivable.unique {ts : List Token} {t t' : Template} (h : t.Derivable ts)
    (h' : t'.Derivable ts) : t = t' := by
  obtain ⟨n, body, last, rfl, -, hd⟩ := h
  obtain ⟨n', body', last', heq, -, hd'⟩ := h'
  obtain rfl : body = body' := (List.append_inj' heq rfl).1
  have := Grammar.block_unique hd.shortened hd'.shortened (Grammar.shortened_readable body)
  cases t
  cases t'
  simpa using this

/-! ## The result -/

section

variable {stack : Reader.Stack} {text : String} {t : Template}

theorem parse_eq_ok_iff :
    Template.parse stack text = .ok t ↔
      stack.children (tokenize text).tokens = .ok t.children := by
  unfold Template.parse
  dsimp only
  split
  · rename_i es hes
    rw [hes]
    exact ⟨fun h => Except.ok.inj h ▸ rfl, fun h => Except.ok.inj h ▸ rfl⟩
  · rename_i stop hstop
    rw [hstop]
    exact ⟨(fun h => nomatch h), (fun h => nomatch h)⟩

/-- The tokens of a text that is read, up to the one that ends it, derive the
template. -/
theorem parse_block (h : Template.parse stack text = .ok t) :
    (tokenize text).fault = none ∧ ∃ (body : List Token) (last : Token),
      (tokenize text).tokens = body ++ [last] ∧ last.kind = .ending ∧
        Grammar.Derives stack.between stack.room (.block t.children) body ∧
          Reader.Readable body := by
  have hrun := Lexer.tokensFrom_run .plain .start text.toList
  have hformed : Reader.Formed (tokenize text).tokens := Lexer.run_formed hrun
  obtain ⟨body, last, more, heq, hlast, hd, hread⟩ :=
    Reader.children_sound (Reader.within_sound stack.room) hformed (parse_eq_ok_iff.mp h)
  have hmem : last ∈ (tokenize text).tokens := by simp [heq]
  have hnone : (tokenize text).fault = none := by
    by_contra hsome
    exact Lexer.run_no_ending hrun hsome last hmem hlast
  refine ⟨hnone, body, last, ?_, hlast, hd, hread⟩
  -- no token before the last one ends the text
  obtain ⟨before, final, hall, -, hbefore⟩ := Lexer.run_ending hrun hnone
  have hall' : body ++ last :: more = before ++ [final] := heq.symm.trans hall
  rcases List.eq_nil_or_concat more with rfl | ⟨init, u, rfl⟩
  · exact heq
  · exfalso
    have hinit : body ++ last :: init = before := by
      have h : (body ++ last :: init) ++ [u] = before ++ [final] := by
        rw [← hall', List.concat_eq_append, List.append_assoc, List.cons_append]
      exact (List.append_inj' h rfl).1
    exact hbefore last (hinit ▸ by simp) hlast

/-- What is read is derived from the tokens, and these are all of the text's. -/
theorem parse_sound (h : Template.parse stack text = .ok t) :
    (tokenize text).fault = none ∧ t.Derivable (tokenize text).tokens := by
  obtain ⟨hnone, body, last, heq, hlast, hd, -⟩ := parse_block h
  obtain ⟨n, hn⟩ := hd.nests
  exact ⟨hnone, n, body, last, heq, hlast, hn⟩

/-- A template that the grammar derives from the tokens of a text is read from
it, or given up because the derivation takes more frames than the stack has. -/
theorem parse_complete {n : Nat} {body : List Token} {last : Token}
    (hshort : ∀ tok ∈ (tokenize text).tokens, tok.kind = .integer →
      tok.text.length ≤ Numeral.digitLimit)
    (heq : (tokenize text).tokens = body ++ [last]) (hlast : last.kind = .ending)
    (hd : Grammar.Derives stack.between n (.block t.children) body) :
    Template.parse stack text = .ok t ∨
      (∃ l, Template.parse stack text = .error (.tooDeep l)) ∧ stack.room < n := by
  have hformed : Reader.Formed (tokenize text).tokens :=
    Lexer.run_formed (Lexer.tokensFrom_run .plain .start text.toList)
  have hread : Reader.Readable (body ++ [last]) := heq ▸ fun tok htok hk =>
    ⟨hformed tok htok hk, hshort tok htok hk⟩
  have hends : Reader.Ends (stack.room < n) (· = t.children) (stack.children (body ++ [last])) :=
    Reader.children_complete hd hread.left hlast []
  rw [← heq] at hends
  cases hx : stack.children (tokenize text).tokens with
  | ok es =>
      obtain rfl := hends.of_ok hx
      exact .inl (parse_eq_ok_iff.mpr hx)
  | error stop =>
      rw [hx] at hends
      obtain ⟨⟨l, rfl⟩, hdeep⟩ := hends
      refine .inr ⟨⟨l, ?_⟩, hdeep⟩
      unfold Template.parse
      dsimp only
      rw [hx]
      rfl

/-- What is read on one stack is read on any other, unless that is too small. -/
theorem parse_or_tooDeep (h : Template.parse stack text = .ok t) (stack' : Reader.Stack) :
    Template.parse stack' text = .ok t ∨
      ∃ l, Template.parse stack' text = .error (.tooDeep l) := by
  obtain ⟨-, body, last, heq, hlast, hd, hread⟩ := parse_block h
  obtain ⟨n, hn⟩ := hd.recount stack'.between
  have hshort : ∀ tok ∈ (tokenize text).tokens, tok.kind = .integer →
      tok.text.length ≤ Numeral.digitLimit := by
    rw [heq]
    refine List.forall_mem_append.mpr ⟨fun tok htok hk => (hread tok htok hk).2, ?_⟩
    simp [hlast]
  exact (parse_complete hshort heq hlast (hn n (Nat.le_refl n))).imp_right And.left

end

/-- A text is read as the template that the grammar derives from its tokens,
and as nothing else: the grammar derives at most one template from any tokens.
The premises name the two limits that are the reader's own. -/
theorem parse_iff_derivable (stack : Reader.Stack) (text : String) (t : Template)
    (hshort : ∀ tok ∈ (tokenize text).tokens, tok.kind = .integer →
      tok.text.length ≤ Numeral.digitLimit)
    (hdeep : ∀ l, Template.parse stack text ≠ .error (.tooDeep l)) :
    (Template.parse stack text = .ok t ↔
      (tokenize text).fault = none ∧ t.Derivable (tokenize text).tokens) ∧
    ∀ (ts : List Token) (t₁ t₂ : Template), t₁.Derivable ts → t₂.Derivable ts → t₁ = t₂ := by
  refine ⟨⟨parse_sound, fun ⟨_, h⟩ => ?_⟩, fun ts t₁ t₂ h₁ h₂ => h₁.unique h₂⟩
  obtain ⟨n, body, last, heq, hlast, hd⟩ := h
  obtain ⟨m, hm⟩ := hd.recount stack.between
  rcases parse_complete hshort heq hlast (hm m (Nat.le_refl m)) with hok | ⟨⟨l, herror⟩, -⟩
  · exact hok
  · exact absurd herror (hdeep l)

/-- A call on a negative number, its member: both limits are far off, and the
tree that is read is derived. -/
theorem parse_iff_derivable_member :
    (tokenize "<%= f(-1).a %>").fault = none ∧
      Template.Derivable (tokenize "<%= f(-1).a %>").tokens
        ⟨[.member ⟨1, 10⟩ (.call ⟨1, 6⟩ (.name ⟨1, 5⟩ "f") [.integer ⟨1, 7⟩ (-1)]) "a"]⟩ := by
  have hread : Template.parse .usual "<%= f(-1).a %>" =
      .ok ⟨[.member ⟨1, 10⟩ (.call ⟨1, 6⟩ (.name ⟨1, 5⟩ "f") [.integer ⟨1, 7⟩ (-1)]) "a"]⟩ := by
    with_unfolding_all rfl
  have hshort : (tokenize "<%= f(-1).a %>").tokens.all (fun tok =>
      decide (tok.kind = .integer → tok.text.length ≤ Numeral.digitLimit)) = true := by
    with_unfolding_all rfl
  exact (parse_iff_derivable .usual _ _ (fun tok htok => of_decide_eq_true
    (List.all_eq_true.mp hshort tok htok)) (by simp [hread])).1.mp hread

end Inlay
