import Inlay.Proofs.ReaderSound

/-!
# What is derivable is read

Tokens that derive a phrase are read as that phrase, whatever follows them that
could not lengthen it. The one thing that can come between is the stack: a reader
with fewer free frames than the derivation takes may give up, and `Ends` carries
this outcome through all rules, so that no rule is proved twice. A reader with as
many cannot give up (`Ends False`).

That two trees are never derived from the same tokens follows from here, since
a reader gives one result.
-/

namespace Inlay

namespace Reader

open Grammar

/-! ## Outcomes -/

/-- A stop for want of frames, at whatever place. -/
def Stop.IsTooDeep (stop : Stop) : Prop := ∃ l, stop = .failure (.tooDeep l)

/-- Reading ends as described, or is given up for want of frames where that may
happen. -/
def Ends {α : Type} (deep : Prop) (P : α → Prop) : Except Stop α → Prop
  | .ok a => P a
  | .error stop => stop.IsTooDeep ∧ deep

theorem Ends.mono {α : Type} {deep deep' : Prop} {P : α → Prop} {x : Except Stop α}
    (h : Ends deep P x) (hd : deep → deep') : Ends deep' P x := by
  cases x with
  | ok a => exact h
  | error stop => exact ⟨h.1, hd h.2⟩

theorem Ends.bind {α β : Type} {deep : Prop} {P : α → Prop} {Q : β → Prop}
    {x : Except Stop α} {f : α → Except Stop β} (hx : Ends deep P x)
    (hf : ∀ a, P a → Ends deep Q (f a)) : Ends deep Q (x >>= f) := by
  cases x with
  | ok a => exact hf a hx
  | error stop => exact hx

theorem Ends.of_ok {α : Type} {deep : Prop} {P : α → Prop} {x : Except Stop α} {a : α}
    (h : Ends deep P x) (hx : x = .ok a) : P a := by
  rw [hx] at h
  exact h

/-- What was read, and the tokens that are left after it. -/
def Parsed.Is {α : Type} {ts : List Token} (v : α) (rest : List Token) : Parsed α ts → Prop
  | ⟨a, r, _⟩ => a = v ∧ r = rest

/-- The same for rules that may take no token at all. -/
def Leaves {α : Type} {n : Nat} (v : α) (rest : List Token) :
    { r : α × List Token // r.2.length ≤ n } → Prop
  | ⟨(a, r), _⟩ => a = v ∧ r = rest

/-! ## Single tokens -/

/-- Tokens that are left and that no suffix starts. -/
def Closed (ts : List Token) : Prop :=
  ts ≠ [] ∧ kind ts ≠ .dot ∧ kind ts ≠ .leftBracket ∧ kind ts ≠ .leftParen

theorem Closed.of_kind {t : Token} {k : TokenKind} (hk : t.kind = k) {rest : List Token}
    (h : k ≠ .dot ∧ k ≠ .leftBracket ∧ k ≠ .leftParen) : Closed (t :: rest) := by
  subst hk
  exact ⟨List.cons_ne_nil t rest, h⟩

theorem take_ends {deep : Prop} {mode : Mode} {t : Token} {rest : List Token} (h : rest ≠ []) :
    Ends deep (Parsed.Is t rest) (take mode (t :: rest) : Reads Token (t :: rest)) := by
  rw [take_cons mode h]
  exact ⟨rfl, rfl⟩

theorem expect_ends {deep : Prop} {mode : Mode} {t : Token} {rest : List Token} {k : TokenKind}
    {what : Expectation} (hk : t.kind = k) (h : rest ≠ []) :
    Ends deep (Parsed.Is t rest) (expect mode k what (t :: rest) : Reads Token (t :: rest)) := by
  rw [expect_cons mode what hk h]
  exact ⟨rfl, rfl⟩

/-! ## Lists with commas -/

section

variable {α σ : Type} {deep : Prop} {item : σ → ReaderIn (Except Stop) α} {next : σ → α → σ} {s : σ}
  {ts us rest : List Token} {a : α} {as : List α}

theorem moreItems_nil (h : kind rest ≠ .comma) :
    Ends deep (Leaves [] rest) (moreItems item next s rest) := by
  rw [moreItems_stop h]
  exact ⟨rfl, rfl⟩

/-- An item after a comma is read, and more behind it, if both are. -/
theorem moreItems_cons {comma : Token} (hc : comma.kind = .comma) (hne : ts ≠ [])
    (hitem : Ends deep (Parsed.Is a us) (item s ts))
    (hmore : Ends deep (Leaves as rest) (moreItems item next (next s a) us)) :
    Ends deep (Leaves (a :: as) rest) (moreItems item next s (comma :: ts)) := by
  rw [moreItems, look_bind, kind_cons, if_pos hc]
  refine (take_ends hne).bind ?_
  rintro ⟨_, _, hlt1⟩ ⟨rfl, rfl⟩
  refine hitem.bind ?_
  rintro ⟨_, _, hlt2⟩ ⟨rfl, rfl⟩
  refine hmore.bind ?_
  rintro ⟨⟨_, _⟩, hle⟩ ⟨rfl, rfl⟩
  exact ⟨rfl, rfl⟩

variable {close : Token} {what : Expectation} (hrest : rest ≠ [])
include hrest

theorem items_nil : Ends deep (Parsed.Is [] rest)
    (items item next s close.kind what (close :: rest)) := by
  rw [items, look_bind, kind_cons, if_pos rfl]
  refine (take_ends hrest).bind fun t ht => ?_
  exact ⟨rfl, ht.2⟩

/-- Items are read up to a closing token if the first one and the others are. -/
theorem items_cons (hk : kind ts ≠ close.kind) (hitem : Ends deep (Parsed.Is a us) (item s ts))
    (hmore : Ends deep (Leaves as (close :: rest)) (moreItems item next (next s a) us)) :
    Ends deep (Parsed.Is (a :: as) rest) (items item next s close.kind what ts) := by
  rw [items, look_bind, if_neg hk]
  refine hitem.bind ?_
  rintro ⟨_, _, hlt1⟩ ⟨rfl, rfl⟩
  refine hmore.bind ?_
  rintro ⟨⟨_, _⟩, hle⟩ ⟨rfl, rfl⟩
  refine (expect_ends rfl hrest).bind ?_
  rintro ⟨_, _, hlt2⟩ ⟨rfl, rfl⟩
  exact ⟨rfl, rfl⟩

end

/-! ## Numbers -/

theorem number_complete {negative : Bool} {t : Token} {l : Location} {e : Expr}
    (ht : t.kind = .integer →
      Lexer.IsDigits t.text.toList ∧ t.text.toList.length ≤ Numeral.digitLimit)
    (h : Literal negative t l e) : number negative t l = .ok e := by
  cases h with
  | integer hk hr =>
      obtain ⟨hd, hlen⟩ := ht hk
      have hread : Numeral.readInteger (signed negative t.text).toList =
          .ok (signedValue negative t.text) := by
        rw [Numeral.readInteger_of_split hd (splitSign_signed hd), if_neg (by omega)]
        rfl
      unfold signed at hread
      simp only [number, hk, hread]
      exact if_pos hr
  | float hk hx hf =>
      unfold signed at hx
      simp only [number, hk, hx, if_pos hf]

/-! ## Phrases -/

/-- The tokens of a phrase are read as it, over readers of one expression that may
give up where `deep` holds: `one` of the expression, or of each of the expressions,
that the phrase is, and `all` of those that stand in it. -/
def Completes (deep : Prop) (one : ExprReader) (all : Construct → ExprReader) (ts : List Token) :
    Phrase → Prop
  | .expression e =>
    ∀ rest, Closed rest → Ends deep (Parsed.Is e rest) (one (ts ++ rest))
  | .primary e =>
    ∀ rest, rest ≠ [] → Ends deep (Parsed.Is e rest) (primary all (ts ++ rest))
  | .suffixes base e =>
    ∀ rest, Closed rest → Ends deep (Leaves e rest) (suffixes all base (ts ++ rest))
  | .expressions es =>
    ∀ (close : Token) (what : Expectation) (rest : List Token), rest ≠ [] →
      ¬ Starts close.kind → Closed (close :: rest) → close.kind ≠ .comma →
      Ends deep (Parsed.Is es rest) (expressions one close.kind what (ts ++ close :: rest))
  | .moreExpressions es =>
    ∀ rest, kind rest ≠ .comma → Closed rest →
      Ends deep (Leaves es rest) (moreItems (fun _ : Unit => one) (fun _ _ => ()) () (ts ++ rest))
  | .entries es =>
    ∀ (close : Token) (rest : List Token), rest ≠ [] → close.kind = .rightBrace →
      Ends deep (Parsed.Is es rest) (entries one (ts ++ close :: rest))
  | .moreEntries es =>
    ∀ rest, kind rest ≠ .comma → Closed rest →
      Ends deep (Leaves es rest)
        (moreItems (fun _ : Unit => entry one) (fun _ _ => ()) () (ts ++ rest))
  | .block _ => True

section

variable {deep : Prop} {one : ExprReader} {all : Construct → ExprReader} {ts us vs : List Token}
  {e k v : Expr}

theorem Completes.mono {deep' : Prop} {p : Phrase} (h : Completes deep one all ts p)
    (hd : deep → deep') : Completes deep' one all ts p := by
  cases p with
  | expression e => exact fun rest hrest => (h rest hrest).mono hd
  | primary e => exact fun rest hrest => (h rest hrest).mono hd
  | suffixes base e => exact fun rest hrest => (h rest hrest).mono hd
  | expressions es =>
      exact fun close what rest h1 h2 h3 h4 => (h close what rest h1 h2 h3 h4).mono hd
  | moreExpressions es => exact fun rest h1 h2 => (h rest h1 h2).mono hd
  | entries es => exact fun close rest h1 h2 => (h close rest h1 h2).mono hd
  | moreEntries es => exact fun rest h1 h2 => (h rest h1 h2).mono hd
  | block es => trivial

/-! ## Elements and entries -/

theorem noExpressions_complete : Completes deep one all [] (.expressions []) := by
  intro close what rest hrest _ _ _
  exact items_nil hrest

theorem someExpressions_complete {es : List Expr} (hstart : ∃ t ts', ts = t :: ts' ∧ Starts t.kind)
    (hclosed : ∀ rest, Closed rest → Closed (us ++ rest))
    (he : Completes deep one all ts (.expression e))
    (hs : Completes deep one all us (.moreExpressions es)) :
    Completes deep one all (ts ++ us) (.expressions (e :: es)) := by
  intro close what rest hrest hclose hend hcomma
  obtain ⟨t, ts', rfl, ht⟩ := hstart
  have hk : kind (t :: ts' ++ (us ++ close :: rest)) ≠ close.kind := fun h => hclose (h ▸ ht)
  rw [List.append_assoc]
  exact items_cons hrest hk (he _ (hclosed _ hend)) (hs (close :: rest) hcomma hend)

theorem noMoreExpressions_complete : Completes deep one all [] (.moreExpressions []) := by
  intro rest hcomma _
  exact moreItems_nil hcomma

theorem moreExpressions_complete {comma : Token} {es : List Expr} (hc : comma.kind = .comma)
    (hclosed : ∀ rest, Closed rest → Closed (us ++ rest))
    (he : Completes deep one all ts (.expression e))
    (hs : Completes deep one all us (.moreExpressions es)) :
    Completes deep one all (comma :: (ts ++ us)) (.moreExpressions (e :: es)) := by
  intro rest hcomma hend
  have hne : ts ++ (us ++ rest) ≠ [] := by simp [hend.1]
  rw [List.cons_append, List.append_assoc]
  exact moreItems_cons hc hne (he _ (hclosed _ hend)) (hs _ hcomma hend)

theorem entry_complete {colon : Token} (hc : colon.kind = .colon)
    (hk : Completes deep one all ts (.expression k))
    (hv : Completes deep one all us (.expression v)) {rest : List Token} (hrest : Closed rest) :
    Ends deep (Parsed.Is (k, v) rest) (entry one (ts ++ colon :: (us ++ rest))) := by
  have hne : us ++ rest ≠ [] := by simp [hrest.1]
  refine (hk _ (.of_kind hc (by decide))).bind ?_
  rintro ⟨_, _, hlt1⟩ ⟨rfl, rfl⟩
  refine (expect_ends hc hne).bind ?_
  rintro ⟨_, _, hlt2⟩ ⟨rfl, rfl⟩
  refine (hv _ hrest).bind ?_
  rintro ⟨_, _, hlt3⟩ ⟨rfl, rfl⟩
  exact ⟨rfl, rfl⟩

theorem noEntries_complete : Completes deep one all [] (.entries []) := by
  intro close rest hrest hclose
  rw [entries, ← hclose]
  exact items_nil hrest

theorem someEntries_complete {colon : Token} {es : List (Expr × Expr)}
    (hstart : ∃ t ts', ts = t :: ts' ∧ Starts t.kind)
    (hclosed : ∀ rest, Closed rest → Closed (vs ++ rest)) (hc : colon.kind = .colon)
    (hk : Completes deep one all ts (.expression k))
    (hv : Completes deep one all us (.expression v))
    (hs : Completes deep one all vs (.moreEntries es)) :
    Completes deep one all (ts ++ colon :: (us ++ vs)) (.entries ((k, v) :: es)) := by
  intro close rest hrest hclose
  have hend : Closed (close :: rest) := .of_kind hclose (by decide)
  have hcomma : kind (close :: rest) ≠ .comma := by simp [kind_cons, hclose]
  have hfirst := entry_complete hc hk hv (hclosed _ hend)
  have hshape : ts ++ colon :: (us ++ vs) ++ close :: rest =
      ts ++ colon :: (us ++ (vs ++ close :: rest)) := by simp
  obtain ⟨t, ts', rfl, ht⟩ := hstart
  have hne : t.kind ≠ close.kind := by
    intro h
    rw [h, hclose] at ht
    exact ht
  rw [entries, hshape, ← hclose]
  exact items_cons hrest hne hfirst (hs _ hcomma hend)

theorem noMoreEntries_complete : Completes deep one all [] (.moreEntries []) := by
  intro rest hcomma _
  exact moreItems_nil hcomma

theorem moreEntries_complete {comma colon : Token} {es : List (Expr × Expr)}
    (h1 : comma.kind = .comma) (hclosed : ∀ rest, Closed rest → Closed (vs ++ rest))
    (hc : colon.kind = .colon) (hk : Completes deep one all ts (.expression k))
    (hv : Completes deep one all us (.expression v))
    (hs : Completes deep one all vs (.moreEntries es)) :
    Completes deep one all (comma :: (ts ++ colon :: (us ++ vs)))
      (.moreEntries ((k, v) :: es)) := by
  intro rest hcomma hend
  have hshape : comma :: (ts ++ colon :: (us ++ vs)) ++ rest =
      comma :: (ts ++ colon :: (us ++ (vs ++ rest))) := by simp
  rw [hshape]
  exact moreItems_cons h1 (by simp) (entry_complete hc hk hv (hclosed _ hend)) (hs _ hcomma hend)

/-! ## Parameters -/

theorem parameter_complete {before : List String} {t : Token} {rest : List Token}
    (hk : t.kind = .identifier) (hnew : t.text ∉ before) (hrest : rest ≠ []) :
    Ends deep (Parsed.Is t.text rest) (parameter before (t :: rest) : Reads String _) := by
  refine (expect_ends hk hrest).bind ?_
  rintro ⟨_, _, hlt⟩ ⟨rfl, rfl⟩
  rw [if_neg hnew]
  exact ⟨rfl, rfl⟩

/-- After the first of names the others are read, if all differ from each other
and from those before. -/
theorem moreParameters_complete {qs : List String} {ts : List Token} (hn : Names qs ts)
    (before : List String) {rest : List Token} (hd : qs.Nodup) (hnew : ∀ q ∈ qs, q ∉ before)
    (hcomma : kind rest ≠ .comma) (hrest : rest ≠ []) :
    ∃ t names ps, ts = t :: names ∧ qs = t.text :: ps ∧ t.kind = .identifier ∧
      Ends deep (Leaves ps rest) (moreItems parameter (fun before p => before ++ [p])
        (before ++ [t.text]) (names ++ rest) : Except Stop _) := by
  induction hn generalizing before with
  | @one t hk =>
      exact ⟨t, [], [], rfl, rfl, hk, moreItems_nil hcomma⟩
  | @more t comma ps ts hk hc hs ih =>
      obtain ⟨hfresh, hd⟩ := List.nodup_cons.mp hd
      have hnew' : ∀ q ∈ ps, q ∉ before ++ [t.text] := by
        intro q hq hmem
        rcases List.mem_append.mp hmem with hmem | hmem
        · exact hnew q (List.mem_cons_of_mem _ hq) hmem
        · exact hfresh (List.mem_singleton.mp hmem ▸ hq)
      obtain ⟨u, names, ps, rfl, rfl, hu, hmore⟩ := ih _ hd hnew'
      refine ⟨t, comma :: u :: names, u.text :: ps, rfl, rfl, hk, ?_⟩
      have hfirst : Ends deep (Parsed.Is u.text (names ++ rest))
          (parameter (before ++ [t.text]) (u :: (names ++ rest)) : Reads String _) :=
        parameter_complete hu (hnew' _ (List.mem_cons_self ..)) (by simp [hrest])
      rw [List.cons_append, List.cons_append]
      exact moreItems_cons hc (List.cons_ne_nil _ _) hfirst hmore

theorem parameters_complete {ps : List String} {names rest : List Token} {closer : Token}
    (hp : Parameters ps names) (hd : ps.Nodup) (hc : closer.kind = .rightParen)
    (hrest : rest ≠ []) :
    Ends deep (Parsed.Is ps rest)
      (parameters (names ++ closer :: rest) : Reads (List String) _) := by
  cases hp with
  | none =>
      rw [parameters, ← hc]
      exact items_nil hrest
  | some hs =>
      have hcomma : kind (closer :: rest) ≠ .comma := by simp [kind_cons, hc]
      obtain ⟨t, names, ps, rfl, rfl, ht, hmore⟩ :=
        moreParameters_complete hs [] hd (by simp) hcomma (by simp)
      have hk : t.kind ≠ closer.kind := by simp [ht, hc]
      rw [parameters, ← hc]
      exact items_cons hrest hk (parameter_complete ht (by simp) (by simp)) hmore

/-! ## Expressions -/

theorem function_complete {keyword opener closer arrow : Token} {ps : List String}
    {names rest : List Token} {body : Expr} (ho : opener.kind = .leftParen)
    (hp : Parameters ps names) (hd : ps.Nodup) (hc : closer.kind = .rightParen)
    (ha : arrow.kind = .arrow) (hb : Completes deep one all ts (.expression body))
    (hrest : Closed rest) :
    Ends deep (Parsed.Is (.function keyword.location ps body) rest)
      (function one (keyword :: opener :: (names ++ closer :: arrow :: (ts ++ rest)))) := by
  refine (take_ends (by simp)).bind ?_
  rintro ⟨_, _, hlt1⟩ ⟨rfl, rfl⟩
  refine (expect_ends ho (by simp)).bind ?_
  rintro ⟨_, _, hlt2⟩ ⟨rfl, rfl⟩
  refine (parameters_complete hp hd hc (by simp)).bind ?_
  rintro ⟨_, _, hlt3⟩ ⟨rfl, rfl⟩
  refine (expect_ends ha (by simp [hrest.1])).bind ?_
  rintro ⟨_, _, hlt4⟩ ⟨rfl, rfl⟩
  refine (hb _ hrest).bind ?_
  rintro ⟨_, _, hlt5⟩ ⟨rfl, rfl⟩
  exact ⟨rfl, rfl⟩

variable {all' : Construct → ExprReader}

theorem choice_complete {keyword opener comma comma' closer : Token} {c a b : Expr}
    (hk : keyword.kind = .ifWord) (ho : opener.kind = .leftParen)
    (hc : Completes deep (all .choice) all' ts (.expression c)) (h1 : comma.kind = .comma)
    (ha : Completes deep (all .choice) all' us (.expression a)) (h2 : comma'.kind = .comma)
    (hb : Completes deep (all .choice) all' vs (.expression b)) (hr : closer.kind = .rightParen) :
    Completes deep one all
      (keyword :: opener :: (ts ++ comma :: (us ++ comma' :: (vs ++ [closer]))))
      (.primary (.choice keyword.location c a b)) := by
  intro rest hrest
  have hshape : keyword :: opener :: (ts ++ comma :: (us ++ comma' :: (vs ++ [closer]))) ++ rest =
      keyword :: opener :: (ts ++ comma :: (us ++ comma' :: (vs ++ closer :: rest))) := by simp
  rw [hshape, primary, look_bind, kind_cons, hk]
  refine (take_ends (by simp)).bind ?_
  rintro ⟨_, _, hlt1⟩ ⟨rfl, rfl⟩
  refine (expect_ends ho (by simp)).bind ?_
  rintro ⟨_, _, hlt2⟩ ⟨rfl, rfl⟩
  refine (hc _ (.of_kind h1 (by decide))).bind ?_
  rintro ⟨_, _, hlt3⟩ ⟨rfl, rfl⟩
  refine (expect_ends h1 (by simp)).bind ?_
  rintro ⟨_, _, hlt4⟩ ⟨rfl, rfl⟩
  refine (ha _ (.of_kind h2 (by decide))).bind ?_
  rintro ⟨_, _, hlt5⟩ ⟨rfl, rfl⟩
  refine (expect_ends h2 (by simp)).bind ?_
  rintro ⟨_, _, hlt6⟩ ⟨rfl, rfl⟩
  refine (hb _ (.of_kind hr (by decide))).bind ?_
  rintro ⟨_, _, hlt7⟩ ⟨rfl, rfl⟩
  refine (expect_ends hr hrest).bind ?_
  rintro ⟨_, _, hlt8⟩ ⟨rfl, rfl⟩
  exact ⟨rfl, rfl⟩

theorem group_complete {opener closer : Token} (ho : opener.kind = .leftParen)
    (he : Completes deep (all .group) all' ts (.expression e)) (hc : closer.kind = .rightParen) :
    Completes deep one all (opener :: (ts ++ [closer])) (.primary e) := by
  intro rest hrest
  rw [List.cons_append, List.append_assoc]
  rw [primary, look_bind, kind_cons, ho]
  refine (take_ends (by simp)).bind ?_
  rintro ⟨_, _, hlt1⟩ ⟨rfl, rfl⟩
  refine (he (closer :: rest) (.of_kind hc (by decide))).bind ?_
  rintro ⟨_, _, hlt2⟩ ⟨rfl, rfl⟩
  refine (expect_ends hc hrest).bind ?_
  rintro ⟨_, _, hlt3⟩ ⟨rfl, rfl⟩
  exact ⟨rfl, rfl⟩

theorem name_complete {t : Token} (hk : t.kind = .identifier) :
    Completes deep one all [t] (.primary (.name t.location t.text)) := by
  intro rest hrest
  rw [List.singleton_append, primary, look_bind, kind_cons, hk]
  refine (take_ends hrest).bind ?_
  rintro ⟨_, _, hlt⟩ ⟨rfl, rfl⟩
  exact ⟨rfl, rfl⟩

theorem string_complete {t : Token} (hk : t.kind = .string) :
    Completes deep one all [t] (.primary (.string t.location t.text)) := by
  intro rest hrest
  rw [List.singleton_append, primary, look_bind, kind_cons, hk]
  refine (take_ends hrest).bind ?_
  rintro ⟨_, _, hlt⟩ ⟨rfl, rfl⟩
  exact ⟨rfl, rfl⟩

theorem plainNumber_complete {t : Token} (hread : Readable [t])
    (hl : Literal false t t.location e) : Completes deep one all [t] (.primary e) := by
  intro rest hrest
  have hnumber := number_complete (hread t (List.mem_singleton_self t)) hl
  rw [List.singleton_append, primary, look_bind, kind_cons]
  rcases hl.kind_eq with hk | hk <;> rw [hk] <;>
  · refine (take_ends hrest).bind ?_
    rintro ⟨_, _, hlt⟩ ⟨rfl, rfl⟩
    rw [made_eq, hnumber]
    exact ⟨rfl, rfl⟩

theorem negative_complete {minus t : Token} (hread : Readable [t]) (hk : minus.kind = .minus)
    (hat : t.location = minus.location.next) (hl : Literal true t minus.location e) :
    Completes deep one all [minus, t] (.primary e) := by
  intro rest hrest
  have hnumber := number_complete (hread t (List.mem_singleton_self t)) hl
  have hshape : [minus, t] ++ rest = minus :: t :: rest := rfl
  rw [hshape, primary, look_bind, kind_cons, hk]
  refine (take_ends (by simp)).bind ?_
  rintro ⟨_, _, hlt⟩ ⟨rfl, rfl⟩
  rw [look_bind, if_pos ⟨hl.kind_eq, hat⟩]
  refine (take_ends hrest).bind ?_
  rintro ⟨_, _, hlt⟩ ⟨rfl, rfl⟩
  rw [made_eq, hnumber]
  exact ⟨rfl, rfl⟩

theorem list_complete {opener closer : Token} {es : List Expr} (ho : opener.kind = .leftBracket)
    (he : Completes deep (all .list) all' ts (.expressions es)) (hc : closer.kind = .rightBracket) :
    Completes deep one all (opener :: (ts ++ [closer])) (.primary (.list opener.location es)) := by
  intro rest hrest
  rw [List.cons_append, List.append_assoc]
  rw [primary, look_bind, kind_cons, ho]
  refine (take_ends (by simp)).bind ?_
  rintro ⟨_, _, hlt1⟩ ⟨rfl, rfl⟩
  rw [← hc]
  refine (he closer .rightBracket rest hrest (by simp [hc, Starts])
    (.of_kind hc (by decide)) (by simp [hc])).bind ?_
  rintro ⟨_, _, hlt2⟩ ⟨rfl, rfl⟩
  exact ⟨rfl, rfl⟩

theorem dictionary_complete {opener closer : Token} {es : List (Expr × Expr)}
    (ho : opener.kind = .leftBrace) (he : Completes deep (all .dictionary) all' ts (.entries es))
    (hc : closer.kind = .rightBrace) :
    Completes deep one all (opener :: (ts ++ [closer]))
      (.primary (.dictionary opener.location es)) := by
  intro rest hrest
  rw [List.cons_append, List.append_assoc]
  rw [primary, look_bind, kind_cons, ho]
  refine (take_ends (by simp)).bind ?_
  rintro ⟨_, _, hlt1⟩ ⟨rfl, rfl⟩
  refine (he closer rest hrest hc).bind ?_
  rintro ⟨_, _, hlt2⟩ ⟨rfl, rfl⟩
  exact ⟨rfl, rfl⟩

/-! ## Suffixes -/

theorem noSuffix_complete {base : Expr} : Completes deep one all [] (.suffixes base base) := by
  intro rest hrest
  have hnone : suffix? all base rest = .ok none := by
    rw [suffix?, look_bind]
    split
    · rename_i hk
      exact absurd hk hrest.2.1
    · rename_i hk
      exact absurd hk hrest.2.2.1
    · rename_i hk
      exact absurd hk hrest.2.2.2
    · rfl
  rw [List.nil_append, suffixes, hnone]
  exact ⟨rfl, rfl⟩

/-- One suffix, and then the others. -/
theorem suffixes_step {base base' : Expr} {rest rest' : List Token}
    (hone : Ends deep (fun r => ∃ p, r = some p ∧ Parsed.Is base' rest' p) (suffix? all base ts))
    (hmore : Ends deep (Leaves e rest) (suffixes all base' rest')) :
    Ends deep (Leaves e rest) (suffixes all base ts) := by
  rw [suffixes]
  refine hone.bind ?_
  rintro _ ⟨⟨_, _, hlt⟩, rfl, rfl, rfl⟩
  refine hmore.bind ?_
  rintro ⟨⟨_, _⟩, hle⟩ ⟨rfl, rfl⟩
  exact ⟨rfl, rfl⟩

theorem member_complete {dot t : Token} {base : Expr} (hd : dot.kind = .dot)
    (hk : t.kind = .identifier)
    (hs : Completes deep one all ts (.suffixes (.member dot.location base t.text) e)) :
    Completes deep one all (dot :: t :: ts) (.suffixes base e) := by
  intro rest hrest
  have hne : ts ++ rest ≠ [] := by simp [hrest.1]
  refine suffixes_step ?_ (hs rest hrest)
  rw [List.cons_append, suffix?, look_bind, kind_cons, hd]
  refine (take_ends (by simp)).bind ?_
  rintro ⟨_, _, hlt1⟩ ⟨rfl, rfl⟩
  refine (expect_ends hk hne).bind ?_
  rintro ⟨_, _, hlt2⟩ ⟨rfl, rfl⟩
  exact ⟨_, rfl, rfl, rfl⟩

theorem index_complete {opener closer : Token} {base : Expr} (ho : opener.kind = .leftBracket)
    (hi : Completes deep (all .index) all' ts (.expression k)) (hc : closer.kind = .rightBracket)
    (hs : Completes deep one all us (.suffixes (.index opener.location base k) e)) :
    Completes deep one all (opener :: (ts ++ closer :: us)) (.suffixes base e) := by
  intro rest hrest
  have hne : us ++ rest ≠ [] := by simp [hrest.1]
  refine suffixes_step ?_ (hs rest hrest)
  rw [List.cons_append, List.append_assoc]
  rw [suffix?, look_bind, kind_cons, ho]
  refine (take_ends (by simp)).bind ?_
  rintro ⟨_, _, hlt1⟩ ⟨rfl, rfl⟩
  refine (hi (closer :: (us ++ rest)) (.of_kind hc (by decide))).bind ?_
  rintro ⟨_, _, hlt2⟩ ⟨rfl, rfl⟩
  refine (expect_ends hc hne).bind ?_
  rintro ⟨_, _, hlt3⟩ ⟨rfl, rfl⟩
  exact ⟨_, rfl, rfl, rfl⟩

theorem call_complete {opener closer : Token} {base : Expr} {es : List Expr}
    (ho : opener.kind = .leftParen) (ha : Completes deep (all .call) all' ts (.expressions es))
    (hc : closer.kind = .rightParen)
    (hs : Completes deep one all us (.suffixes (.call opener.location base es) e)) :
    Completes deep one all (opener :: (ts ++ closer :: us)) (.suffixes base e) := by
  intro rest hrest
  have hne : us ++ rest ≠ [] := by simp [hrest.1]
  refine suffixes_step ?_ (hs rest hrest)
  rw [List.cons_append, List.append_assoc]
  rw [suffix?, look_bind, kind_cons, ho]
  refine (take_ends (by simp)).bind ?_
  rintro ⟨_, _, hlt1⟩ ⟨rfl, rfl⟩
  rw [← hc]
  refine (ha closer .rightParen (us ++ rest) hne (by simp [hc, Starts])
    (.of_kind hc (by decide)) (by simp [hc])).bind ?_
  rintro ⟨_, _, hlt2⟩ ⟨rfl, rfl⟩
  exact ⟨_, rfl, rfl, rfl⟩

end

/-! ## All phrases -/

/-- What follows further elements or entries closes what stands before them. -/
theorem closed_append {between : Construct → Nat} {n : Nat} {p : Phrase} {us rest : List Token}
    (h : Derives between n p us)
    (hp : (∃ es, p = .moreExpressions es) ∨ ∃ es, p = .moreEntries es) (hrest : Closed rest) :
    Closed (us ++ rest) := by
  cases h with
  | noMoreExpressions | noMoreEntries => exact hrest
  | moreExpressions hc => exact .of_kind hc (by decide)
  | moreEntries hc => exact .of_kind hc (by decide)
  | _ => rcases hp with ⟨_, hp⟩ | ⟨_, hp⟩ <;> cases hp

/-- A primary expression does not start as a function. -/
theorem primary_kind {between : Construct → Nat} {n : Nat} {e : Expr} {ts : List Token}
    (h : Derives between n (.primary e) ts)
    (rest : List Token) : kind (ts ++ rest) ≠ .fnWord := by
  cases h with
  | group ho | list ho | dictionary ho => simp [kind_cons, ho]
  | choice hk | name hk | string hk | negative hk => simp [kind_cons, hk]
  | number hl => rcases hl.kind_eq with hk | hk <;> simp [kind_cons, hk]

theorem lt_of_sub_lt {m n k : Nat} (h : m - k < n - k) : m < n := by omega

/-- Whatever the grammar derives is read, unless the reader has fewer free frames
than the derivation takes. -/
theorem derives_complete {between : Construct → Nat} {n : Nat} {p : Phrase} {ts : List Token}
    (h : Derives between n p ts) (hread : Readable ts) (m : Nat) :
    Completes (m < n) (within between m) (parts between m) ts p := by
  induction h generalizing m with
  | function hk ho hp hd hc ha hb ih =>
      intro rest hrest
      cases m with
      | zero => exact ⟨⟨_, rfl⟩, Nat.succ_pos _⟩
      | succ m =>
          have hbody :=
            (ih hread.tail.tail.right.tail.tail (m - between .function)).mono lt_of_sub_lt
          rw [List.cons_append, List.cons_append, List.append_assoc, List.cons_append,
            List.cons_append, within_succ, kind_cons, if_pos hk]
          exact (function_complete ho hp hd hc ha hbody hrest).mono Nat.succ_lt_succ
  | chain hb hs ihb ihs =>
      intro rest hrest
      cases m with
      | zero =>
          obtain ⟨t, us, rfl, -⟩ := hb.starts trivial
          exact ⟨⟨t.location, rfl⟩, Nat.succ_pos _⟩
      | succ m =>
          rw [List.append_assoc, within_succ, if_neg (primary_kind hb _)]
          refine ((ihb hread.left m _ (by simp [hrest.1])).mono Nat.succ_lt_succ).bind ?_
          rintro ⟨_, _, hlt1⟩ ⟨rfl, rfl⟩
          refine ((ihs hread.right m rest hrest).mono Nat.succ_lt_succ).bind ?_
          rintro ⟨⟨_, _⟩, hle⟩ ⟨rfl, rfl⟩
          exact ⟨rfl, rfl⟩
  | group ho he hc ih =>
      exact group_complete ho ((ih hread.tail.left (m - between .group)).mono lt_of_sub_lt) hc
  | choice hk ho hc h1 ha h2 hb hr ihc iha ihb =>
      have hread1 := hread.tail.tail
      exact choice_complete hk ho ((ihc hread1.left (m - between .choice)).mono lt_of_sub_lt) h1
        ((iha hread1.right.tail.left (m - between .choice)).mono lt_of_sub_lt) h2
        ((ihb hread1.right.tail.right.tail.left (m - between .choice)).mono lt_of_sub_lt) hr
  | name hk => exact name_complete hk
  | string hk => exact string_complete hk
  | number hl => exact plainNumber_complete hread hl
  | negative hk hat hl => exact negative_complete hread.tail hk hat hl
  | list ho he hc ih =>
      exact list_complete ho ((ih hread.tail.left (m - between .list)).mono lt_of_sub_lt) hc
  | dictionary ho he hc ih =>
      exact dictionary_complete ho
        ((ih hread.tail.left (m - between .dictionary)).mono lt_of_sub_lt) hc
  | noSuffix => exact noSuffix_complete
  | member hd hk hs ih => exact member_complete hd hk (ih hread.tail.tail m)
  | index ho hi hc hs ihi ihs =>
      exact index_complete ho ((ihi hread.tail.left (m - between .index)).mono lt_of_sub_lt) hc
        (ihs hread.tail.right.tail m)
  | call ho ha hc hs iha ihs =>
      exact call_complete ho ((iha hread.tail.left (m - between .call)).mono lt_of_sub_lt) hc
        (ihs hread.tail.right.tail m)
  | noExpressions => exact noExpressions_complete
  | someExpressions he hs ihe ihs =>
      exact someExpressions_complete (he.starts trivial)
        (fun _ => closed_append hs (.inl ⟨_, rfl⟩)) (ihe hread.left m) (ihs hread.right m)
  | noMoreExpressions => exact noMoreExpressions_complete
  | moreExpressions hc he hs ihe ihs =>
      exact moreExpressions_complete hc (fun _ => closed_append hs (.inl ⟨_, rfl⟩))
        (ihe hread.tail.left m) (ihs hread.tail.right m)
  | noEntries => exact noEntries_complete
  | someEntries hk hc hv hs ihk ihv ihs =>
      have hread1 := hread.right.tail
      exact someEntries_complete (hk.starts trivial)
        (fun _ => closed_append hs (.inr ⟨_, rfl⟩)) hc (ihk hread.left m) (ihv hread1.left m)
        (ihs hread1.right m)
  | noMoreEntries => exact noMoreEntries_complete
  | moreEntries h1 hk hc hv hs ihk ihv ihs =>
      have hread1 := hread.tail.right.tail
      exact moreEntries_complete h1 (fun _ => closed_append hs (.inr ⟨_, rfl⟩)) hc
        (ihk hread.tail.left m) (ihv hread1.left m) (ihs hread1.right m)
  | noChildren | textChild | expressionChild => trivial

/-! ## Templates -/

section

variable {one : ExprReader} {es : List Expr} {ts rest : List Token}

theorem children_text {t : Token} (hk : t.kind = .text) (h : rest ≠ []) :
    children one (t :: rest) = (children one rest).map (.string t.location t.text :: ·) := by
  rw [children, look_bind, kind_cons, hk]
  dsimp only
  rw [take_cons .plain h]
  dsimp only [bind, Except.bind]
  cases children one rest <;> rfl

theorem children_expression {opener : Token} (ho : opener.kind = .opening) (h : ts ≠ []) :
    children one (opener :: ts) = (do
      let e ← one ts
      let closing ← expect .expression .closing .closingMark e.rest
      let es ← children one closing.rest
      return e.value :: es) := by
  rw [children, look_bind, kind_cons, ho]
  dsimp only
  rw [expect_cons .plain .openingMark ho h]
  rfl

theorem children_ending {last : Token} (hlast : last.kind = .ending) (more : List Token) :
    children one (last :: more) = .ok [] := by
  rw [children, look_bind, kind_cons, hlast]
  rfl

theorem map_append_cons (e : Expr) (x : Except Stop (List Expr)) :
    (x.map (es ++ ·)).map (e :: ·) = x.map (e :: es ++ ·) := by
  cases x <;> rfl

/-- The children that the grammar derives are read, and after them those of the
tokens that follow; or the reader gives up for the frames of the derivation. -/
theorem children_append {between : Construct → Nat} {n free : Nat}
    (h : Derives between n (.block es) ts) (hread : Readable ts) (hrest : rest ≠ []) :
    let one := within between free
    children one (ts ++ rest) = (children one rest).map (es ++ ·) ∨
      (∃ l, children one (ts ++ rest) = .error (.failure (.tooDeep l))) ∧ free < n := by
  intro one
  generalize hp : Phrase.block es = p at h
  induction h generalizing es with
  | noChildren =>
      cases hp
      refine .inl ?_
      rw [List.nil_append]
      cases children one rest <;> rfl
  | @textChild n t es ts hk hs ih =>
      cases hp
      rw [List.cons_append, children_text hk (by simp [hrest])]
      rcases ih hread.tail rfl with heq | ⟨⟨l, heq⟩, hdeep⟩
      · rw [heq, map_append_cons]
        exact .inl rfl
      · rw [heq]
        exact .inr ⟨⟨l, rfl⟩, hdeep⟩
  | @expressionChild n opener closer e es ts us ho he hc hs ihe ih =>
      cases hp
      have hone := derives_complete he hread.tail.left free (closer :: (us ++ rest))
        (.of_kind hc (by decide))
      rw [List.cons_append, List.append_assoc, List.cons_append,
        children_expression ho (by simp)]
      change Ends (free < n) _ (one _) at hone
      cases hx : one (ts ++ closer :: (us ++ rest)) with
      | error stop =>
          rw [hx] at hone
          obtain ⟨⟨l, rfl⟩, hdeep⟩ := hone
          exact .inr ⟨⟨l, rfl⟩, hdeep⟩
      | ok p =>
          obtain ⟨p, r, hlt⟩ := p
          obtain ⟨rfl, rfl⟩ := hone.of_ok hx
          dsimp only [bind, Except.bind]
          rw [expect_cons .expression .closingMark hc (by simp [hrest])]
          dsimp only
          rcases ih hread.tail.right.tail rfl with heq | ⟨⟨l, heq⟩, hdeep⟩
          · refine .inl ?_
            rw [heq]
            cases children one rest <;> rfl
          · rw [heq]
            exact .inr ⟨⟨l, rfl⟩, hdeep⟩
  | _ => cases hp

/-- The children that the grammar derives are read up to the end of the text. -/
theorem children_complete {between : Construct → Nat} {n free : Nat}
    (h : Derives between n (.block es) ts) (hread : Readable ts) {last : Token}
    (hlast : last.kind = .ending) (more : List Token) :
    Ends (free < n) (· = es) (children (within between free) (ts ++ last :: more)) := by
  rcases children_append h hread (List.cons_ne_nil last more) with heq | ⟨⟨l, heq⟩, hdeep⟩
  · rw [heq, children_ending hlast]
    exact List.append_nil es
  · rw [heq]
    exact ⟨⟨l, rfl⟩, hdeep⟩

end

end Reader

end Inlay
