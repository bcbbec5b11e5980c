import Inlay.Proofs.Grammar
import Inlay.Proofs.Numerals
import Inlay.Proofs.ReaderRules

/-!
# What is read is derivable

Whatever the reader makes of tokens, the grammar derives from those it took, and
no numeral among them is longer than is read. Each rule is proved over arbitrary
readers of one expression that are already known to be sound; the frames that are
free are then the only induction. The loops over elements, entries, parameters and
suffixes follow the reader's own recursion on the tokens that are left.
-/

namespace Inlay

namespace Reader

open Grammar

/-! ## Tokens -/

variable {between : Construct → Nat}

/-- Tokens whose integers are digits, as the lexer makes them. -/
def Formed (ts : List Token) : Prop :=
  ∀ t ∈ ts, t.kind = .integer → Lexer.IsDigits t.text.toList

theorem Formed.of_append {used rest : List Token} (h : Formed (used ++ rest)) : Formed rest :=
  fun t ht => h t (List.mem_append_right used ht)

theorem Formed.of_cons {t : Token} {rest : List Token} (h : Formed (t :: rest)) : Formed rest :=
  fun u hu => h u (List.mem_cons_of_mem t hu)

/-- Tokens whose integers are digits, and few enough to be read. -/
def Readable (ts : List Token) : Prop :=
  ∀ t ∈ ts, t.kind = .integer →
    Lexer.IsDigits t.text.toList ∧ t.text.toList.length ≤ Numeral.digitLimit

theorem Readable.left {ts us : List Token} (h : Readable (ts ++ us)) : Readable ts :=
  fun t ht => h t (List.mem_append_left us ht)

theorem Readable.right {ts us : List Token} (h : Readable (ts ++ us)) : Readable us :=
  fun t ht => h t (List.mem_append_right ts ht)

theorem Readable.tail {t : Token} {ts : List Token} (h : Readable (t :: ts)) : Readable ts :=
  fun u hu => h u (List.mem_cons_of_mem t hu)

theorem Readable.nil : Readable [] := fun _ h => nomatch h

theorem Readable.append {ts us : List Token} (h : Readable ts) (h' : Readable us) :
    Readable (ts ++ us) :=
  List.forall_mem_append.mpr ⟨h, h'⟩

theorem Readable.cons {t : Token} {ts : List Token} {k : TokenKind} (hk : t.kind = k)
    (hne : (k == .integer) = false) (h : Readable ts) : Readable (t :: ts) :=
  List.forall_mem_cons.mpr ⟨fun hint => absurd (hk.symm.trans hint) (ne_of_beq_false hne), h⟩

/-- The tokens that were taken for a phrase derive it, and none of their numerals
is too long. -/
def Took (between : Construct → Nat) (n : Nat) (phrase : Phrase) (ts rest : List Token) : Prop :=
  ∃ used, ts = used ++ rest ∧ Derives between n phrase used ∧ Readable used

/-- A reader of one expression that takes only what derives it. -/
def SoundReader (between : Construct → Nat) (n : Nat) (one : ExprReader) : Prop :=
  ∀ ts e rest hlt, Formed ts → one ts = .ok ⟨e, rest, hlt⟩ → Took between n (.expression e) ts rest

/-- Readers that are sound with what each construct leaves of the frames. -/
def SoundParts (between : Construct → Nat) (n : Nat) (one : Construct → ExprReader) : Prop :=
  ∀ c, SoundReader between (n - between c) (one c)

/-! ## Numbers -/

theorem splitSign_signed {negative : Bool} {text : String} (hd : Lexer.IsDigits text.toList) :
    Numeral.splitSign (signed negative text).toList = (negative, text.toList) := by
  cases negative with
  | false => exact Numeral.splitSign_digits hd.2
  | true =>
      rw [signed, if_pos rfl, String.toList_append]
      rfl

theorem readInteger_signed {negative : Bool} {text : String} {n : Int}
    (hd : Lexer.IsDigits text.toList)
    (h : Numeral.readInteger (signed negative text).toList = .ok n) :
    n = signedValue negative text ∧ text.toList.length ≤ Numeral.digitLimit := by
  rw [Numeral.readInteger_of_split hd (splitSign_signed hd)] at h
  split at h
  · cases h
  · rename_i hshort
    exact ⟨(Except.ok.inj h).symm, Nat.not_lt.mp hshort⟩

theorem number_sound {negative : Bool} {t : Token} {l : Location} {e : Expr}
    (hform : t.kind = .integer → Lexer.IsDigits t.text.toList)
    (hk : t.kind = .integer ∨ t.kind = .float) (h : number negative t l = .ok e) :
    Literal negative t l e ∧ Readable [t] := by
  unfold number at h
  rcases hk with hk | hk
  · have hd := hform hk
    simp only [hk] at h
    split at h
    · rename_i n hn
      split at h
      · rename_i hr
        obtain rfl := Except.ok.inj h
        obtain ⟨rfl, hshort⟩ := readInteger_signed hd hn
        exact ⟨.integer hk hr, List.forall_mem_singleton.mpr fun _ => ⟨hd, hshort⟩⟩
      · cases h
    · cases h
    · cases h
  · simp only [hk] at h
    split at h
    · rename_i x hx
      split at h
      · rename_i hf
        obtain rfl := Except.ok.inj h
        exact ⟨.float hk hx hf, .cons hk rfl .nil⟩
      · cases h
    · cases h

/-- The reading of a number token in the place of a primary expression. -/
theorem plainNumber_sound {n : Nat} {ts rest : List Token} {e : Expr}
    {hlt : rest.length < ts.length} (hts : Formed ts) (hk : kind ts = .integer ∨ kind ts = .float)
    (h : (do
      let t ← take .expression ts
      let e ← made (number false t.value t.value.location)
      return t.map fun _ => e : Reads Expr ts) = .ok ⟨e, rest, hlt⟩) :
    Took between n (.primary e) ts rest := by
  obtain ⟨⟨t, r1, hlt1⟩, ht, h⟩ := bind_ok.mp h
  obtain ⟨e', he, h⟩ := bind_ok.mp h
  obtain ⟨rfl, rfl⟩ := Parsed.mk.inj (pure_ok.mp h)
  obtain ⟨rfl, -⟩ := take_ok ht rfl
  obtain ⟨hl, hread⟩ := number_sound (hts t (List.mem_cons_self ..)) hk he
  exact ⟨[t], rfl, .number hl, hread⟩

theorem negativeNumber_sound {n : Nat} {ts rest : List Token} {e : Expr}
    {hlt : rest.length < ts.length} (hts : Formed ts) (hk : kind ts = .minus)
    (h : (negativeNumber ts : Reads Expr ts) = .ok ⟨e, rest, hlt⟩) :
    Took between n (.primary e) ts rest := by
  obtain ⟨⟨minus, r1, hlt1⟩, hminus, h⟩ := bind_ok.mp h
  obtain ⟨rfl, hk1⟩ := take_ok hminus hk
  rw [look_bind] at h
  split at h
  · rename_i hnext
    obtain ⟨⟨t, r2, hlt2⟩, ht, h⟩ := bind_ok.mp h
    obtain ⟨e', he, h⟩ := bind_ok.mp h
    obtain ⟨rfl, rfl⟩ := Parsed.mk.inj (pure_ok.mp h)
    obtain ⟨rfl, -⟩ := take_ok ht rfl
    obtain ⟨hl, hread⟩ := number_sound (hts.of_cons t (List.mem_cons_self ..)) hnext.1 he
    exact ⟨[minus, t], rfl, .negative hk1 hnext.2 hl, .cons hk1 rfl hread⟩
  · exact absurd h reject_ne_ok

section

variable {n : Nat} {one : ExprReader} (hone : SoundReader between n one)
include hone

/-! ## Elements and entries -/

theorem moreExpressions_sound {ts rest : List Token} {es : List Expr}
    {hle : rest.length ≤ ts.length} (hts : Formed ts)
    (h : moreItems (fun _ : Unit => one) (fun _ _ => ()) () ts = .ok ⟨(es, rest), hle⟩) :
    Took between n (.moreExpressions es) ts rest := by
  rcases moreItems_ok h with ⟨rfl, rfl⟩ |
    ⟨comma, r1, e, r2, hlt, es, hle', rfl, hk, he, hmore, rfl⟩
  · exact ⟨[], rfl, .noMoreExpressions, .nil⟩
  · obtain ⟨ts1, rfl, hd1, hr1⟩ := hone _ _ _ _ hts.of_cons he
    have hshort := Nat.lt_of_lt_of_le hlt (Nat.le_succ _)
    obtain ⟨ts2, rfl, hd2, hr2⟩ := moreExpressions_sound hts.of_cons.of_append hmore
    exact ⟨_, by simp, .moreExpressions hk hd1 hd2, .cons hk rfl (hr1.append hr2)⟩
termination_by ts.length

theorem expressions_sound {closer : TokenKind} {what : Expectation} {ts rest : List Token}
    {es : List Expr} {hlt : rest.length < ts.length} (hts : Formed ts)
    (h : expressions one closer what ts = .ok ⟨es, rest, hlt⟩) :
    ∃ used close, ts = used ++ close :: rest ∧ close.kind = closer ∧
      Derives between n (.expressions es) used ∧ Readable used := by
  obtain ⟨close, hkind, ⟨rfl, rfl⟩ | ⟨e, r1, _, es, _, hfirst, hmore, rfl⟩⟩ := items_ok h
  · exact ⟨[], close, rfl, hkind, .noExpressions, .nil⟩
  · obtain ⟨ts1, rfl, hd1, hr1⟩ := hone _ _ _ _ hts hfirst
    obtain ⟨ts2, rfl, hd2, hr2⟩ := moreExpressions_sound hone hts.of_append hmore
    exact ⟨ts1 ++ ts2, close, by simp, hkind, .someExpressions hd1 hd2, hr1.append hr2⟩

theorem entry_sound {ts rest : List Token} {k v : Expr} {hlt : rest.length < ts.length}
    (hts : Formed ts) (h : entry one ts = .ok ⟨(k, v), rest, hlt⟩) :
    ∃ us colon vs, ts = us ++ colon :: (vs ++ rest) ∧ Derives between n (.expression k) us ∧
      colon.kind = .colon ∧ Derives between n (.expression v) vs ∧
      Readable (us ++ colon :: vs) := by
  obtain ⟨⟨key, r1, hlt1⟩, hkey, h⟩ := bind_ok.mp h
  obtain ⟨⟨colon, r2, hlt2⟩, hcolon, h⟩ := bind_ok.mp h
  obtain ⟨⟨value, r3, hlt3⟩, hvalue, h⟩ := bind_ok.mp h
  obtain ⟨hkv, rfl⟩ := Parsed.mk.inj (pure_ok.mp h)
  obtain ⟨rfl, rfl⟩ := Prod.mk.inj hkv
  obtain ⟨us, rfl, hd1, hr1⟩ := hone _ _ _ _ hts hkey
  obtain ⟨rfl, hkind⟩ := expect_ok hcolon
  obtain ⟨vs, rfl, hd2, hr2⟩ := hone _ _ _ _ hts.of_append.of_cons hvalue
  exact ⟨us, colon, vs, rfl, hd1, hkind, hd2, hr1.append (.cons hkind rfl hr2)⟩

omit hone in
theorem Readable.entry {us vs ts : List Token} {colon : Token} (h : Readable (us ++ colon :: vs))
    (hk : colon.kind = .colon) (hts : Readable ts) : Readable (us ++ colon :: (vs ++ ts)) :=
  h.left.append (.cons hk rfl (h.right.tail.append hts))

theorem moreEntries_sound {ts rest : List Token} {es : List (Expr × Expr)}
    {hle : rest.length ≤ ts.length} (hts : Formed ts)
    (h : moreItems (fun _ : Unit => entry one) (fun _ _ => ()) () ts = .ok ⟨(es, rest), hle⟩) :
    Took between n (.moreEntries es) ts rest := by
  rcases moreItems_ok h with ⟨rfl, rfl⟩ |
    ⟨comma, r1, ⟨k, v⟩, r2, hlt, es, hle', rfl, hk, he, hmore, rfl⟩
  · exact ⟨[], rfl, .noMoreEntries, .nil⟩
  · obtain ⟨us, colon, vs, rfl, hd1, hcolon, hd2, hr⟩ := entry_sound hone hts.of_cons he
    have hshort := Nat.lt_of_lt_of_le hlt (Nat.le_succ _)
    obtain ⟨ts3, rfl, hd3, hr3⟩ :=
      moreEntries_sound hts.of_cons.of_append.of_cons.of_append hmore
    exact ⟨comma :: (us ++ colon :: (vs ++ ts3)), by simp,
      .moreEntries hk hd1 hcolon hd2 hd3, .cons hk rfl (hr.entry hcolon hr3)⟩
termination_by ts.length

theorem entries_sound {ts rest : List Token} {es : List (Expr × Expr)}
    {hlt : rest.length < ts.length} (hts : Formed ts)
    (h : entries one ts = .ok ⟨es, rest, hlt⟩) :
    ∃ used close, ts = used ++ close :: rest ∧ close.kind = .rightBrace ∧
      Derives between n (.entries es) used ∧ Readable used := by
  obtain ⟨close, hkind, ⟨rfl, rfl⟩ | ⟨⟨k, v⟩, r1, _, es, _, hfirst, hmore, rfl⟩⟩ := items_ok h
  · exact ⟨[], close, rfl, hkind, .noEntries, .nil⟩
  · obtain ⟨us, colon, vs, rfl, hd1, hcolon, hd2, hr⟩ := entry_sound hone hts hfirst
    obtain ⟨ts3, rfl, hd3, hr3⟩ := moreEntries_sound hone hts.of_append.of_cons.of_append hmore
    exact ⟨us ++ colon :: (vs ++ ts3), close, by simp, hkind,
      .someEntries hd1 hcolon hd2 hd3, hr.entry hcolon hr3⟩

end

/-! ## Parameters -/

theorem parameter_sound {before : List String} {ts rest : List Token} {q : String}
    {hlt : rest.length < ts.length}
    (h : (parameter before ts : Reads String ts) = .ok ⟨q, rest, hlt⟩) :
    ∃ t, ts = t :: rest ∧ t.kind = .identifier ∧ q = t.text ∧ q ∉ before := by
  obtain ⟨⟨t, r1, hlt1⟩, ht, h⟩ := bind_ok.mp h
  obtain ⟨rfl, hkind⟩ := expect_ok ht
  split at h
  · cases h
  · rename_i hnew
    obtain ⟨rfl, rfl⟩ := Parsed.mk.inj (pure_ok.mp h)
    exact ⟨t, rfl, hkind, rfl, hnew⟩

/-- The parameters after one: with it they are names, and none of them has
stood before. -/
theorem moreParameters_sound {before ps : List String} {ts rest : List Token}
    {hle : rest.length ≤ ts.length}
    (h : (moreItems parameter (fun before p => before ++ [p]) before ts : Except Stop _) =
      .ok ⟨(ps, rest), hle⟩)
    {t : Token} (ht : t.kind = .identifier) :
    ∃ used, ts = used ++ rest ∧ Names (t.text :: ps) (t :: used) ∧ Readable used ∧
      ps.Nodup ∧ ∀ q ∈ ps, q ∉ before := by
  rcases moreItems_ok h with ⟨rfl, rfl⟩ | ⟨comma, r1, q, r2, hlt, ps, hle', rfl, hk, hq, hmore, rfl⟩
  · exact ⟨[], rfl, .one ht, .nil, List.nodup_nil, by simp⟩
  · obtain ⟨u, rfl, huk, rfl, hnew⟩ := parameter_sound hq
    have hshort := Nat.lt_of_lt_of_le hlt (Nat.le_succ _)
    obtain ⟨used, rfl, hnames, hread, hnodup, hfresh⟩ := moreParameters_sound hmore huk
    refine ⟨comma :: u :: used, rfl, .more ht hk hnames, .cons hk rfl (.cons huk rfl hread), ?_, ?_⟩
    · exact List.nodup_cons.mpr ⟨fun hmem => hfresh _ hmem (by simp), hnodup⟩
    · intro q hq
      rcases List.mem_cons.mp hq with rfl | hq
      · exact hnew
      · exact fun hmem => hfresh q hq (List.mem_append_left _ hmem)
termination_by ts.length

theorem parameters_sound {ts rest : List Token} {ps : List String}
    {hlt : rest.length < ts.length}
    (h : (parameters ts : Reads (List String) ts) = .ok ⟨ps, rest, hlt⟩) :
    ∃ used close, ts = used ++ close :: rest ∧ close.kind = .rightParen ∧
      Parameters ps used ∧ Readable used ∧ ps.Nodup := by
  obtain ⟨close, hkind, ⟨rfl, rfl⟩ | ⟨q, r1, _, qs, _, hfirst, hmore, rfl⟩⟩ := items_ok h
  · exact ⟨[], close, rfl, hkind, .none, .nil, List.nodup_nil⟩
  · obtain ⟨t, rfl, htk, rfl, -⟩ := parameter_sound hfirst
    obtain ⟨used, rfl, hnames, hread, hnodup, hfresh⟩ := moreParameters_sound hmore htk
    exact ⟨t :: used, close, by simp, hkind, .some hnames, .cons htk rfl hread,
      List.nodup_cons.mpr ⟨fun hmem => hfresh _ hmem (by simp), hnodup⟩⟩

/-! ## Expressions -/

section

variable {n : Nat} {one : ExprReader}

theorem function_sound (hone : SoundReader between (n - between .function) one)
    {ts rest : List Token} {e : Expr} {hlt : rest.length < ts.length} (hts : Formed ts)
    (hk : kind ts = .fnWord) (h : function one ts = .ok ⟨e, rest, hlt⟩) :
    Took between (n + 1) (.expression e) ts rest := by
  obtain ⟨⟨keyword, r1, hlt1⟩, hkeyword, h⟩ := bind_ok.mp h
  obtain ⟨⟨opener, r2, hlt2⟩, hopener, h⟩ := bind_ok.mp h
  obtain ⟨⟨ps, r3, hlt3⟩, hnames, h⟩ := bind_ok.mp h
  obtain ⟨⟨arrow, r4, hlt4⟩, harrow, h⟩ := bind_ok.mp h
  obtain ⟨⟨body, r5, hlt5⟩, hbody, h⟩ := bind_ok.mp h
  obtain ⟨rfl, rfl⟩ := Parsed.mk.inj (pure_ok.mp h)
  obtain ⟨rfl, hk1⟩ := take_ok hkeyword hk
  obtain ⟨rfl, hk2⟩ := expect_ok hopener
  obtain ⟨names, closer, rfl, hk3, hps, hr3, hnodup⟩ := parameters_sound hnames
  obtain ⟨rfl, hk4⟩ := expect_ok harrow
  obtain ⟨ts5, rfl, hd, hr5⟩ :=
    hone _ _ _ _ hts.of_cons.of_cons.of_append.of_cons.of_cons hbody
  exact ⟨_, by simp [Parsed.andThen, Parsed.widen, Parsed.map],
    .function hk1 hk2 hps hnodup hk3 hk4 hd,
    .cons hk1 rfl (.cons hk2 rfl (hr3.append (.cons hk3 rfl (.cons hk4 rfl hr5))))⟩

theorem choice_sound (hone : SoundReader between (n - between .choice) one)
    {ts rest : List Token} {e : Expr} {hlt : rest.length < ts.length} (hts : Formed ts)
    (hk : kind ts = .ifWord) (h : choice one ts = .ok ⟨e, rest, hlt⟩) :
    Took between n (.primary e) ts rest := by
  obtain ⟨⟨keyword, r1, hlt1⟩, hkeyword, h⟩ := bind_ok.mp h
  obtain ⟨⟨opener, r2, hlt2⟩, hopener, h⟩ := bind_ok.mp h
  obtain ⟨⟨c, r3, hlt3⟩, hc, h⟩ := bind_ok.mp h
  obtain ⟨⟨comma, r4, hlt4⟩, hcomma, h⟩ := bind_ok.mp h
  obtain ⟨⟨a, r5, hlt5⟩, ha, h⟩ := bind_ok.mp h
  obtain ⟨⟨comma', r6, hlt6⟩, hcomma', h⟩ := bind_ok.mp h
  obtain ⟨⟨b, r7, hlt7⟩, hb, h⟩ := bind_ok.mp h
  obtain ⟨⟨closer, r8, hlt8⟩, hcloser, h⟩ := bind_ok.mp h
  obtain ⟨rfl, rfl⟩ := Parsed.mk.inj (pure_ok.mp h)
  obtain ⟨rfl, hk1⟩ := take_ok hkeyword hk
  obtain ⟨rfl, hk2⟩ := expect_ok hopener
  have hts1 := hts.of_cons.of_cons
  obtain ⟨ts3, rfl, hd3, hr3⟩ := hone _ _ _ _ hts1 hc
  obtain ⟨rfl, hk4⟩ := expect_ok hcomma
  have hts2 := hts1.of_append.of_cons
  obtain ⟨ts5, rfl, hd5, hr5⟩ := hone _ _ _ _ hts2 ha
  obtain ⟨rfl, hk6⟩ := expect_ok hcomma'
  obtain ⟨ts7, rfl, hd7, hr7⟩ := hone _ _ _ _ hts2.of_append.of_cons hb
  obtain ⟨rfl, hk8⟩ := expect_ok hcloser
  exact ⟨_, by simp [Parsed.andThen, Parsed.widen, Parsed.map],
    .choice hk1 hk2 hd3 hk4 hd5 hk6 hd7 hk8,
    .cons hk1 rfl (.cons hk2 rfl (hr3.append (.cons hk4 rfl (hr5.append (.cons hk6 rfl
      (hr7.append (.cons hk8 rfl .nil)))))))⟩

variable {all : Construct → ExprReader} (hall : SoundParts between n all)
include hall

theorem primary_sound {ts rest : List Token} {e : Expr} {hlt : rest.length < ts.length}
    (hts : Formed ts) (h : primary all ts = .ok ⟨e, rest, hlt⟩) :
    Took between n (.primary e) ts rest := by
  rw [primary, look_bind] at h
  split at h
  · -- parentheses leave nothing behind in the tree
    rename_i hk
    obtain ⟨⟨opener, r1, hlt1⟩, hopener, h⟩ := bind_ok.mp h
    obtain ⟨⟨inner, r2, hlt2⟩, hinner, h⟩ := bind_ok.mp h
    obtain ⟨⟨closer, r3, hlt3⟩, hcloser, h⟩ := bind_ok.mp h
    obtain ⟨rfl, rfl⟩ := Parsed.mk.inj (pure_ok.mp h)
    obtain ⟨rfl, hk1⟩ := take_ok hopener hk
    obtain ⟨ts2, rfl, hd, hr⟩ := hall _ _ _ _ _ hts.of_cons hinner
    obtain ⟨rfl, hk3⟩ := expect_ok hcloser
    exact ⟨_, by simp [Parsed.andThen, Parsed.widen, Parsed.map], .group hk1 hd hk3,
      .cons hk1 rfl (hr.append (.cons hk3 rfl .nil))⟩
  · rename_i hk
    exact choice_sound (hall _) hts hk h
  · rename_i hk
    obtain ⟨⟨t, r1, hlt1⟩, ht, h⟩ := bind_ok.mp h
    obtain ⟨rfl, rfl⟩ := Parsed.mk.inj (pure_ok.mp h)
    obtain ⟨rfl, hk1⟩ := take_ok ht hk
    exact ⟨[t], rfl, .name hk1, .cons hk1 rfl .nil⟩
  · rename_i hk
    obtain ⟨⟨t, r1, hlt1⟩, ht, h⟩ := bind_ok.mp h
    obtain ⟨rfl, rfl⟩ := Parsed.mk.inj (pure_ok.mp h)
    obtain ⟨rfl, hk1⟩ := take_ok ht hk
    exact ⟨[t], rfl, .string hk1, .cons hk1 rfl .nil⟩
  · rename_i hk
    exact plainNumber_sound hts (.inl hk) h
  · rename_i hk
    exact plainNumber_sound hts (.inr hk) h
  · rename_i hk
    exact negativeNumber_sound hts hk h
  · rename_i hk
    obtain ⟨⟨opener, r1, hlt1⟩, hopener, h⟩ := bind_ok.mp h
    obtain ⟨⟨es, r2, hlt2⟩, hes, h⟩ := bind_ok.mp h
    obtain ⟨rfl, rfl⟩ := Parsed.mk.inj (pure_ok.mp h)
    obtain ⟨rfl, hk1⟩ := take_ok hopener hk
    obtain ⟨used, closer, rfl, hk2, hd, hr⟩ := expressions_sound (hall _) hts.of_cons hes
    exact ⟨_, by simp [Parsed.map], .list hk1 hd hk2,
      .cons hk1 rfl (hr.append (.cons hk2 rfl .nil))⟩
  · rename_i hk
    obtain ⟨⟨opener, r1, hlt1⟩, hopener, h⟩ := bind_ok.mp h
    obtain ⟨⟨es, r2, hlt2⟩, hes, h⟩ := bind_ok.mp h
    obtain ⟨rfl, rfl⟩ := Parsed.mk.inj (pure_ok.mp h)
    obtain ⟨rfl, hk1⟩ := take_ok hopener hk
    obtain ⟨used, closer, rfl, hk2, hd, hr⟩ := entries_sound (hall _) hts.of_cons hes
    exact ⟨_, by simp [Parsed.map], .dictionary hk1 hd hk2,
      .cons hk1 rfl (hr.append (.cons hk2 rfl .nil))⟩
  · exact absurd h reject_ne_ok

/-- Where there is one more suffix, what follows it completes the suffixes of
the base that was there before. -/
theorem suffix?_sound {base : Expr} {ts rest : List Token} {e : Expr}
    {hlt : rest.length < ts.length} (hts : Formed ts)
    (h : suffix? all base ts = .ok (some ⟨e, rest, hlt⟩)) :
    ∃ used, ts = used ++ rest ∧ Readable used ∧
      ∀ {e' : Expr} {more : List Token}, Derives between n (.suffixes e e') more →
        Derives between n (.suffixes base e') (used ++ more) := by
  rw [suffix?, look_bind] at h
  split at h
  · rename_i hk
    obtain ⟨⟨dot, r1, hlt1⟩, hdot, h⟩ := bind_ok.mp h
    obtain ⟨⟨t, r2, hlt2⟩, ht, h⟩ := bind_ok.mp h
    obtain ⟨rfl, rfl⟩ := Parsed.mk.inj (Option.some.inj (pure_ok.mp h))
    obtain ⟨rfl, hk1⟩ := take_ok hdot hk
    obtain ⟨rfl, hk2⟩ := expect_ok ht
    exact ⟨[dot, t], rfl, .cons hk1 rfl (.cons hk2 rfl .nil), .member hk1 hk2⟩
  · rename_i hk
    obtain ⟨⟨opener, r1, hlt1⟩, hopener, h⟩ := bind_ok.mp h
    obtain ⟨⟨key, r2, hlt2⟩, hkey, h⟩ := bind_ok.mp h
    obtain ⟨⟨closer, r3, hlt3⟩, hcloser, h⟩ := bind_ok.mp h
    obtain ⟨rfl, rfl⟩ := Parsed.mk.inj (Option.some.inj (pure_ok.mp h))
    obtain ⟨rfl, hk1⟩ := take_ok hopener hk
    obtain ⟨ts2, rfl, hd, hr⟩ := hall _ _ _ _ _ hts.of_cons hkey
    obtain ⟨rfl, hk3⟩ := expect_ok hcloser
    refine ⟨opener :: (ts2 ++ [closer]), by simp [Parsed.andThen, Parsed.widen, Parsed.map],
      .cons hk1 rfl (hr.append (.cons hk3 rfl .nil)), ?_⟩
    intro e' more hmore
    simpa using Derives.index hk1 hd hk3 hmore
  · rename_i hk
    obtain ⟨⟨opener, r1, hlt1⟩, hopener, h⟩ := bind_ok.mp h
    obtain ⟨⟨es, r2, hlt2⟩, hes, h⟩ := bind_ok.mp h
    obtain ⟨rfl, rfl⟩ := Parsed.mk.inj (Option.some.inj (pure_ok.mp h))
    obtain ⟨rfl, hk1⟩ := take_ok hopener hk
    obtain ⟨used, closer, rfl, hk2, hd, hr⟩ := expressions_sound (hall _) hts.of_cons hes
    refine ⟨opener :: (used ++ [closer]), by simp [Parsed.map],
      .cons hk1 rfl (hr.append (.cons hk2 rfl .nil)), ?_⟩
    intro e' more hmore
    simpa using Derives.call hk1 hd hk2 hmore
  · cases pure_ok.mp h

theorem suffixes_sound {base e : Expr} {ts rest : List Token} {hle : rest.length ≤ ts.length}
    (hts : Formed ts) (h : suffixes all base ts = .ok ⟨(e, rest), hle⟩) :
    Took between n (.suffixes base e) ts rest := by
  rcases suffixes_ok h with ⟨rfl, rfl⟩ | ⟨e', r1, hlt, hle', hfound, hmore⟩
  · exact ⟨[], rfl, .noSuffix, .nil⟩
  · obtain ⟨used, rfl, hread, hnext⟩ := suffix?_sound hall hts hfound
    obtain ⟨used', rfl, hd, hread'⟩ := suffixes_sound hts.of_append hmore
    exact ⟨used ++ used', by simp, hnext hd, hread.append hread'⟩
termination_by ts.length

end

/-- An expression is read only where one stands. -/
theorem within_sound (free : Nat) : SoundReader between free (within between free) := by
  induction free using Nat.strongRecOn with
  | ind free ih =>
      intro ts e rest hlt hts h
      cases free with
      | zero => exact absurd h giveUp_ne_ok
      | succ free =>
          have hparts : SoundParts between free (parts between free) := fun c =>
            ih _ (Nat.lt_succ_of_le (Nat.sub_le _ _))
          rw [within_succ] at h
          split at h
          · rename_i hk
            exact function_sound (hparts _) hts hk h
          · obtain ⟨⟨base, r1, hlt1⟩, hbase, h⟩ := bind_ok.mp h
            obtain ⟨⟨⟨e', r2⟩, hle⟩, hmore, h⟩ := bind_ok.mp h
            obtain ⟨rfl, rfl⟩ := Parsed.mk.inj (pure_ok.mp h)
            obtain ⟨used, rfl, hd1, hr1⟩ := primary_sound hparts hts hbase
            obtain ⟨used', heq, hd2, hr2⟩ := suffixes_sound hparts hts.of_append hmore
            obtain rfl : r1 = used' ++ r2 := heq
            exact ⟨used ++ used', by simp, .chain hd1 hd2, hr1.append hr2⟩

/-! ## Templates -/

/-- Whatever is read as the children of a template is derived from the tokens
before the one that ends the text. -/
theorem children_sound {n : Nat} {one : ExprReader} (hone : SoundReader between n one)
    {ts : List Token} {es : List Expr} (hts : Formed ts) (h : children one ts = .ok es) :
    ∃ (body : List Token) (last : Token) (more : List Token), ts = body ++ last :: more ∧
      last.kind = .ending ∧ Derives between n (.block es) body ∧ Readable body := by
  rw [children, look_bind] at h
  split at h
  · rename_i hk
    split at h
    · cases h
    · obtain rfl := pure_ok.mp h
      cases ts with
      | nil => simp_all
      | cons last more => exact ⟨[], last, more, rfl, hk, .noChildren, .nil⟩
  · rename_i hk
    obtain ⟨⟨t, r1, hlt1⟩, htake, h⟩ := bind_ok.mp h
    obtain ⟨es', hes, h⟩ := bind_ok.mp h
    obtain rfl := pure_ok.mp h
    obtain ⟨rfl, hk1⟩ := take_ok htake hk
    obtain ⟨body, last, more, heq, hlast, hd, hr⟩ := children_sound hone hts.of_cons hes
    obtain rfl : r1 = body ++ last :: more := heq
    exact ⟨t :: body, last, more, rfl, hlast, .textChild hk1 hd, .cons hk1 rfl hr⟩
  · obtain ⟨⟨opening, r1, hlt1⟩, hopening, h⟩ := bind_ok.mp h
    obtain ⟨⟨e, r2, hlt2⟩, he, h⟩ := bind_ok.mp h
    obtain ⟨⟨closing, r3, hlt3⟩, hclosing, h⟩ := bind_ok.mp h
    obtain ⟨es', hes, h⟩ := bind_ok.mp h
    obtain rfl := pure_ok.mp h
    obtain ⟨rfl, hk1⟩ := expect_ok hopening
    obtain ⟨used, rfl, hd1, hr1⟩ := hone _ _ _ _ hts.of_cons he
    obtain ⟨rfl, hk2⟩ := expect_ok hclosing
    obtain ⟨body, last, more, heq, hlast, hd2, hr2⟩ :=
      children_sound hone hts.of_cons.of_append.of_cons hes
    obtain rfl : r3 = body ++ last :: more := heq
    exact ⟨opening :: (used ++ closing :: body), last, more, by simp, hlast,
      .expressionChild hk1 hd1 hk2 hd2, .cons hk1 rfl (hr1.append (.cons hk2 rfl hr2))⟩
termination_by ts.length

end Reader

end Inlay
