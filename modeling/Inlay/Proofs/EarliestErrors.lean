import Mathlib.Data.List.Nodup
import Inlay.Proofs.CutTexts
import Inlay.Proofs.Image
import Inlay.Proofs.TruePlaces
import Inlay.Proofs.ViablePrefixes

/-!
# Errors at the earliest token

A text that is rejected where something else was expected is rejected at the
earliest token: up to the end of the token before, its source can be completed to
a template, and no template goes on with the token itself, on any stack.

What the source is completed to may take more frames than were needed to reject
it, one construct more at most; so the completion is read where the stack has
these, and on a smaller one it may be given up for its depth.
-/

namespace Inlay

namespace Reader

open Grammar Spelling

variable {between : Construct → Nat}

/-- The most that one construct takes of a stack, with the expression in it. -/
def Stack.construct (stack : Stack) : Nat :=
  [Construct.group, .choice, .list, .dictionary, .function, .index, .call].foldr
    (fun c n => max (stack.between c) n) 0 + 1

theorem Stack.between_lt (stack : Stack) (c : Construct) : stack.between c < stack.construct := by
  unfold construct
  cases c <;> simp only [List.foldr] <;> omega

/-! ## Blocks -/

/-- Tokens that a closing token makes a block of. -/
def OpenBlock (between : Construct → Nat) (n : Nat) (es : List Expr) (us : List Token) : Prop :=
  ∀ closer : Token, closer.kind = .closing → Derives between n (.block es) (us ++ [closer])

/-- Tokens of a block whose reading is stuck behind them, at `t`. -/
structure StuckAt (between : Construct → Nat) (n : Nat) (one : ExprReader) (used : List Token)
    (t : Token) (what : Expectation) : Prop where
  again : ∀ after, children one (used ++ t :: after) = .error (rejection what t)
  inside : Mode.plain.through used = .expression
  readable : Readable used
  completable : Completable (OpenBlock between n) used

theorem through_unclosed {us : List Token} (h : ∀ t ∈ us, t.kind ≠ .closing) :
    Mode.expression.through us = .expression := by
  induction us with
  | nil => rfl
  | cons t us ih =>
      obtain ⟨ht, hus⟩ := List.forall_mem_cons.mp h
      have hstep : Mode.expression.step t.kind = .expression := by
        unfold Mode.step
        split
        · rfl
        · exact absurd ‹_› ht
        · rfl
      rw [Mode.through, List.foldl_cons, hstep]
      exact ih hus

theorem through_closed (mode : Mode) (us vs : List Token) {closer : Token}
    (hc : closer.kind = .closing) :
    mode.through (us ++ closer :: vs) = Mode.plain.through vs := by
  rw [Mode.through, List.foldl_append, List.foldl_cons, hc]
  rfl

theorem take_error {mode : Mode} {ts : List Token} {stop : Stop}
    (h : (take mode ts : Reads Token ts) = .error stop) : stop = .cutShort := by
  match ts with
  | [] => exact (Except.error.inj h).symm
  | [_] => exact (Except.error.inj h).symm
  | _ :: _ :: _ => cases h

theorem expect_error {mode : Mode} {k : TokenKind} {what : Expectation} {ts : List Token}
    {stop : Stop} (h : (expect mode k what ts : Reads Token ts) = .error stop) :
    stop = .cutShort ∨ ∃ t rest, ts = t :: rest ∧ t.kind ≠ k ∧ stop = rejection what t := by
  rw [expect_eq] at h
  split at h
  · exact .inl (take_error h)
  · rename_i hk
    cases ts with
    | nil => exact .inl (Except.error.inj h).symm
    | cons t rest => exact .inr ⟨t, rest, rfl, hk, (Except.error.inj h).symm⟩

section

variable {n : Nat} {one : ExprReader} {used : List Token} {t : Token} {what : Expectation}

theorem rule_eq_ok {ts rest : List Token} {e : Expr} (h : rule one ts = .ok (e, rest)) :
    ∃ hlt, one ts = .ok ⟨e, rest, hlt⟩ := by
  obtain ⟨⟨e', rest', hlt⟩, hone, heq⟩ := exists_of_map_eq_ok h
  obtain ⟨rfl, rfl⟩ := Prod.mk.inj heq
  exact ⟨hlt, hone⟩

theorem rule_eq_error {ts : List Token} {stop : Stop} :
    rule one ts = .error stop ↔ one ts = .error stop := by
  unfold rule
  cases one ts with
  | error stop' => exact ⟨fun h => congrArg _ (Except.error.inj h), fun h =>
      congrArg _ (Except.error.inj h)⟩
  | ok p => exact ⟨(fun h => nomatch h), (fun h => nomatch h)⟩

theorem StuckAt.text (h : StuckAt between n one used t what) {text : Token}
    (hk : text.kind = .text) : StuckAt between n one (text :: used) t what where
  again after := by
    rw [List.cons_append, children_text hk (by simp), h.again]
    rfl
  inside := by
    rw [Mode.through, List.foldl_cons, hk]
    exact h.inside
  readable := .cons hk rfl h.readable
  completable := h.completable.after [text] fun _ _ hes =>
    ⟨_, fun closer hc => .textChild hk (hes closer hc)⟩

/-- An expression before the one that is stuck. -/
theorem StuckAt.expression (h : StuckAt between n one used t what) {opener closer : Token}
    {ts : List Token} {e : Expr} (ho : opener.kind = .opening) (hc : closer.kind = .closing)
    (he : ∀ rest, rest.head? = some closer → rule one (ts ++ rest) = .ok (e, rest))
    (hd : Derives between n (.expression e) ts) (hread : Readable ts) :
    StuckAt between n one (opener :: (ts ++ closer :: used)) t what where
  again after := by
    obtain ⟨hlt, hone⟩ := rule_eq_ok (he (closer :: (used ++ t :: after)) rfl)
    rw [List.cons_append, List.append_assoc, List.cons_append, children_expression ho (by simp),
      hone]
    dsimp only [bind, Except.bind]
    rw [expect_cons .expression .closingMark hc (by simp)]
    dsimp only
    rw [h.again]
  inside := by
    rw [← List.cons_append, through_closed _ _ _ hc]
    exact h.inside
  readable := .cons ho rfl (hread.append (.cons hc rfl h.readable))
  completable := by
    have hall : Completable (OpenBlock between n) (opener :: (ts ++ [closer]) ++ used) :=
      h.completable.after _ fun es vs hes => ⟨e :: es, fun closer' hc' => by
        simpa using Derives.expressionChild ho hd hc (hes closer' hc')⟩
    simpa using hall

/-- The expression that is stuck. -/
theorem stuckAt_inside {opener : Token} (ho : opener.kind = .opening)
    (h : ∀ after, rule one (used ++ t :: after) = .error (rejection what t)) (hin : Inside used)
    (hc : Completable (Takes between n .expression) used) :
    StuckAt between n one (opener :: used) t what where
  again after := by
    rw [List.cons_append, children_expression ho (by simp), rule_eq_error.mp (h after)]
    rfl
  inside := by
    rw [Mode.through, List.foldl_cons, ho]
    exact through_unclosed hin.unclosed
  readable := .cons ho rfl hin.readable
  completable := hc.after [opener] fun e vs he => ⟨[e], fun closer hclose => by
    simpa using Derives.expressionChild ho he hclose .noChildren⟩

/-- An expression that is read and is not closed. -/
theorem stuckAt_unclosed {opener : Token} {e : Expr} (ho : opener.kind = .opening)
    (he : ∀ rest, rest.head? = some t → rule one (used ++ rest) = .ok (e, rest))
    (hd : Derives between n (.expression e) used) (hin : Inside used) (ht : t.kind ≠ .closing) :
    StuckAt between n one (opener :: used) t .closingMark where
  again after := by
    obtain ⟨hlt, hone⟩ := rule_eq_ok (he (t :: after) rfl)
    rw [List.cons_append, children_expression ho (by simp), hone]
    dsimp only [bind, Except.bind]
    rw [expect_eq, kind_cons, if_neg ht]
    rfl
  inside := by
    rw [Mode.through, List.foldl_cons, ho]
    exact through_unclosed hin.unclosed
  readable := .cons ho rfl hin.readable
  completable := by
    have hblock : OpenBlock between n [e] (opener :: used) := fun closer hclose => by
      simpa using Derives.expressionChild ho hd hclose .noChildren
    have hnone : ∀ place, used ++ wordsTokens place [] = used := fun _ => List.append_nil used
    have hfits : ∀ w ∈ ([] : List Word), w.Fits := by simp
    exact .apart hfits fun place => ⟨[e], by simpa [hnone] using hblock⟩

/-- Tokens that stand in the modes that the marks before them lead to. -/
def Alternates (ts : List Token) : Prop :=
  ∀ before t after, ts = before ++ t :: after → (Mode.plain.through before).Allows t.kind

/-- How reading the children of a template stops where something else was expected: after
plain text, in an expression, behind it or after it. -/
theorem children_error {ts : List Token} (halternates : Alternates ts) {stop : Stop}
    (h : children one ts = .error stop) (hexpects : stop.Expects) :
    (∃ text rest, ts = text :: rest ∧ text.kind = .text ∧ children one rest = .error stop) ∨
    ∃ opening rest, ts = opening :: rest ∧ opening.kind = .opening ∧
      (rule one rest = .error stop ∨ ∃ e t after, rule one rest = .ok (e, t :: after) ∧
        (t.kind ≠ .closing ∧ stop = rejection .closingMark t ∨
          t.kind = .closing ∧ children one after = .error stop)) := by
  have hcut : stop ≠ .cutShort := by
    rintro rfl
    exact cutShort_not_expects hexpects
  rw [children, look_bind] at h
  split at h
  · split at h
    · exact absurd (Except.error.inj h).symm hcut
    · cases h
  · rename_i hk
    rcases bind_error.mp h with htake | ⟨⟨text, rest, hlt⟩, htake, h⟩
    · exact absurd (take_error htake) hcut
    · obtain ⟨rfl, hkind⟩ := take_ok htake hk
      rcases bind_error.mp h with h | ⟨es, -, h⟩
      · exact .inl ⟨text, rest, rfl, hkind, h⟩
      · cases h
  · rename_i hne1 hne2
    rcases bind_error.mp h with hexpect | ⟨⟨opening, rest, hlt⟩, hopening, h⟩
    · rcases expect_error hexpect with hstop | ⟨t, rest, rfl, hne, -⟩
      · exact absurd hstop hcut
      · rcases halternates [] t rest rfl with hk | hk | hk
        · exact absurd hk hne2
        · exact absurd hk hne
        · exact absurd hk hne1
    · obtain ⟨rfl, ho⟩ := expect_ok hopening
      refine .inr ⟨opening, rest, rfl, ho, ?_⟩
      rcases bind_error.mp h with hone | ⟨⟨e, rest', hlt'⟩, hone, h⟩
      · exact .inl (rule_eq_error.mpr hone)
      · have hrule : rule one rest = .ok (e, rest') := by
          rw [rule, hone]
          rfl
        rcases bind_error.mp h with hclosing | ⟨⟨closing, after, hlt''⟩, hclosing, h⟩
        · obtain ⟨t, after, rfl, ht, hstop⟩ := (expect_error hclosing).resolve_left hcut
          exact .inr ⟨e, t, after, hrule, .inl ⟨ht, hstop⟩⟩
        · obtain ⟨rfl, hc⟩ := expect_ok hclosing
          rcases bind_error.mp h with h | ⟨es, -, h⟩
          · exact .inr ⟨e, closing, after, hrule, .inr ⟨hc, h⟩⟩
          · cases h

/-- A reading that stops where something else was expected is stuck there. -/
theorem children_stuck (hone : Foresees (Takes between n .expression) [zeroWord] (rule one))
    {ts : List Token} (hts : Formed ts) (halternates : Alternates ts) {stop : Stop}
    (h : children one ts = .error stop) (hexpects : stop.Expects) :
    ∃ used t after what, ts = used ++ t :: after ∧ stop = rejection what t ∧
      StuckAt between n one used t what := by
  rcases children_error halternates h hexpects with ⟨text, rest, rfl, hk, hmore⟩ |
    ⟨opening, rest, rfl, ho, hstop | ⟨e, t, after, hread, hmore⟩⟩
  · have hrest : Alternates rest := by
      intro before t after heq
      have hallow := halternates (text :: before) t after (congrArg (text :: ·) heq)
      rwa [Mode.through, List.foldl_cons, hk] at hallow
    obtain ⟨used, t, after, what, heq, hstop, hstuck⟩ :=
      children_stuck hone hts.of_cons hrest hmore hexpects
    exact ⟨text :: used, t, after, what, congrArg (text :: ·) heq, hstop, hstuck.text hk⟩
  · cases hone.decided rest hts.of_cons with
    | took used h' hin hd =>
        rw [h' _ rfl] at hstop
        cases hstop
    | stuck used what h' hin hc =>
        rw [h'] at hstop
        exact ⟨opening :: used, _, _, what, rfl, (Except.error.inj hstop).symm,
          stuckAt_inside ho h' hin hc⟩
    | stops h' hs =>
        rw [hstop] at h'
        exact absurd (Except.error.inj h' ▸ hexpects) hs
  · obtain ⟨used, rfl, hin, hd, hagain⟩ := (hone.decided rest hts.of_cons).of_ok hread
    rcases hmore with ⟨ht, hstop⟩ | ⟨hc, hmore⟩
    · exact ⟨opening :: used, t, after, _, rfl, hstop, stuckAt_unclosed ho hagain hd hin ht⟩
    · have hrest : Alternates after := by
        intro before u after' heq
        have hall : opening :: (used ++ t :: after) =
            opening :: used ++ t :: before ++ u :: after' := by simp [heq]
        have hallow := halternates _ u after' hall
        rwa [through_closed _ _ _ hc] at hallow
      obtain ⟨used', u, after', what, heq, hstop, hstuck⟩ :=
        children_stuck hone hts.of_cons.of_append.of_cons hrest hmore hexpects
      obtain rfl : after = used' ++ u :: after' := heq
      exact ⟨opening :: (used ++ t :: used'), u, after', what, by simp, hstop,
        hstuck.expression ho hc hagain hd hin.readable⟩
termination_by ts.length

end

end Reader

/-! ## Texts -/

/-- The text up to the end of a token that stands at an offset. -/
def upTo (text : String) (t : Token) (o : Nat) : String :=
  String.ofList (text.toList.take (o + t.source.length))

/-- A text can be completed to a template, which is read on every stack with so many
frames and given up for its depth, if anything, on others. -/
def HasCompletion (between : Reader.Construct → Nat) (enough : Nat) (text : String) : Prop :=
  ∃ more template, Template.Derivable (tokenize (text ++ more)).tokens template ∧
    (∀ stack, Template.parse stack (text ++ more) = .ok template ∨
      ∃ l, Template.parse stack (text ++ more) = .error (.tooDeep l)) ∧
    ∀ stack : Reader.Stack, stack.between = between → enough ≤ stack.room →
      Template.parse stack (text ++ more) = .ok template

namespace Reader

open Grammar Spelling

theorem rejected_stuck {stack : Stack} {text : String} {what : Expectation} {found : String}
    {l : Location} (h : Template.parse stack text = .error (.rejected (.expected what found) l)) :
    ∃ used t after, (tokenize text).tokens = used ++ t :: after ∧ t.location = l ∧
      t.description = found ∧ StuckAt stack.between (stack.room + stack.construct)
        (within stack.between stack.room) used t what := by
  have hrun := Lexer.tokensFrom_run .plain .start text.toList
  have halternates : Alternates (tokenize text).tokens := fun _ _ _ =>
    Lexer.run_allows hrun
  unfold Template.parse at h
  dsimp only at h
  split at h
  · cases h
  · rename_i stop hstop
    have hfailure := Stop.eq_of_toFailure (Except.error.inj h)
    have hone := within_foresees stack.between_lt
      (Nat.add_pos_left stack.positive stack.construct) (.inr (Nat.le_refl _))
    obtain ⟨used, t, after, what', htokens, heq, hstuck⟩ :=
      children_stuck hone (Lexer.run_formed hrun) halternates hstop ⟨what, found, l, hfailure⟩
    obtain ⟨hcause, rfl⟩ :=
      ParseFailure.rejected.inj (Stop.failure.inj (hfailure.symm.trans heq))
    obtain ⟨rfl, rfl⟩ := ParseCause.expected.inj hcause
    exact ⟨used, t, after, htokens, rfl, rfl, hstuck⟩

/-- The tokens of words and the closing mark behind them. -/
theorem tokensFrom_completion {ws : List Word} (hfits : ∀ w ∈ ws, w.Fits) (place : Location) :
    ∃ closer last : Token, closer.kind = .closing ∧ last.kind = .ending ∧
      (Lexer.tokensFrom .expression place (wordsText ws ++ Lexer.closingMark)).tokens =
        wordsTokens place ws ++ [closer, last] := by
  have hclose := Lexer.tokensFrom_closing (place.advance (wordsText ws)) []
  rw [List.append_nil, Lexer.tokensFrom_nil] at hclose
  rw [tokensFrom_words hfits, hclose]
  exact ⟨_, _, rfl, rfl, rfl⟩

/-- A text whose tokens are those of an open block, and of words that end what
is open in it. -/
theorem parse_completed {text : String} {n : Nat} {es : List Expr} {used : List Token}
    {ws : List Word} {place : Location} {closer last : Token} (hread : Readable used)
    (hfits : ∀ w ∈ ws, w.Fits) (hclosing : closer.kind = .closing) (hlast : last.kind = .ending)
    (htokens : (tokenize text).tokens = used ++ wordsTokens place ws ++ [closer, last])
    (hopen : OpenBlock between n es (used ++ wordsTokens place ws)) :
    Template.Derivable (tokenize text).tokens ⟨es⟩ ∧
      ∀ stack : Stack, stack.between = between → n ≤ stack.room →
        Template.parse stack text = .ok ⟨es⟩ := by
  have hbody : (tokenize text).tokens = used ++ wordsTokens place ws ++ [closer] ++ [last] := by
    rw [htokens]
    simp
  have hshort : ∀ t ∈ (tokenize text).tokens, t.kind = .integer →
      t.text.length ≤ Numeral.digitLimit := by
    rw [htokens]
    refine List.forall_mem_append.mpr ⟨List.forall_mem_append.mpr
      ⟨fun t ht hk => (hread t ht hk).2, wordsTokens_short hfits place⟩, ?_⟩
    exact List.forall_mem_cons.mpr ⟨by simp [hclosing],
      List.forall_mem_singleton.mpr (by simp [hlast])⟩
  have hd := hopen closer hclosing
  obtain ⟨m, hm⟩ := hd.nests
  refine ⟨⟨m, _, last, hbody, hlast, hm⟩, fun stack hbetween hn => ?_⟩
  subst hbetween
  exact (parse_complete hshort hbody hlast hd).resolve_right fun hdeep =>
    absurd hdeep.2 (Nat.not_lt.mpr hn)

theorem completable_meets {n : Nat} {used : List Token}
    (h : Completable (OpenBlock between n) used) : used.IsChain Meets := by
  have hleft : ∀ {us : List Token}, (∃ es, OpenBlock between n es (used ++ us)) →
      used.IsChain Meets := by
    rintro us ⟨_, hes⟩
    obtain ⟨m, hm⟩ := (hes ⟨.closing, "", .start⟩ rfl).nests
    exact hm.meets.left_of_append.left_of_append
  cases h with
  | apart hfits h => exact hleft (h .start)
  | touching init hused hk hfits hdigit h => exact hleft h

section

variable {n : Nat} {one : ExprReader} {text : String} {before after : List Token}
  {last t : Token} {what : Expectation}

/-- A text is completed by words that may come behind the token where it is cut. -/
theorem StuckAt.completes_words (h : StuckAt between n one (before ++ [last]) t what)
    {source rest : List Char} (htext : text.toList = source ++ last.source ++ rest)
    (hcut : Lexer.CutAfter .plain .start text.toList (source ++ last.source) before last)
    {ws : List Word} {place : Location} {more : List Char} (hfits : ∀ w ∈ ws, w.Fits)
    (hresumes : Lexer.Resumes before last more)
    (hmore : Lexer.tokensFrom .expression (Location.start.advance (source ++ last.source)) more =
      Lexer.tokensFrom .expression place (wordsText ws ++ Lexer.closingMark))
    (hopen : ∃ es, OpenBlock between n es (before ++ [last] ++ wordsTokens place ws)) :
    HasCompletion between n (upTo text last source.length) := by
  obtain ⟨es, hes⟩ := hopen
  obtain ⟨closer, final, hclosing, hfinal, hwords⟩ := tokensFrom_completion hfits place
  have hall : (upTo text last source.length ++ String.ofList more).toList =
      source ++ last.source ++ more := by
    rw [upTo, htext, ← List.length_append, List.take_left]
    simp
  have htokens : (tokenize (upTo text last source.length ++ String.ofList more)).tokens =
      before ++ [last] ++ wordsTokens place ws ++ [closer, final] := by
    rw [tokenize, hall, hcut.read more (.inl hresumes), hmore, Lexer.Lexed.prepend, hwords]
    simp
  obtain ⟨hd, hparse⟩ := parse_completed h.readable hfits hclosing hfinal htokens hes
  -- what is read on one stack is read on any other or given up
  have hread := hparse ⟨n + 1, between, Nat.succ_pos n⟩ rfl (Nat.le_succ n)
  exact ⟨String.ofList more, ⟨es⟩, hd, parse_or_tooDeep hread, hparse⟩

/-- The source of tokens that a reading is stuck behind can be completed. -/
theorem StuckAt.completes {used : List Token} (h : StuckAt between n one used t what)
    (htokens : (tokenize text).tokens = used ++ t :: after) :
    ∃ before last o, used = before ++ [last] ∧ last.StandsAt text.toList o ∧
      HasCompletion between n (upTo text last o) := by
  obtain ⟨before, last, rfl⟩ : ∃ before last, used = before ++ [last] := by
    rcases List.eq_nil_or_concat used with rfl | ⟨before, last, heq⟩
    · cases h.inside
    · exact ⟨before, last, heq.trans (List.concat_eq_append ..)⟩
  have htokens' : (tokenize text).tokens = before ++ last :: t :: after := by simpa using htokens
  obtain ⟨front, hcut⟩ := Lexer.exists_cut htokens' h.inside
  obtain ⟨source, rfl, hplace⟩ := hcut.ends
  obtain ⟨rest, hrest⟩ := hcut.text
  have hstands := Token.standsAt_of_place (htokens' ▸ by simp)
    ((List.prefix_append ..).trans hcut.text) hplace
  refine ⟨before, last, source.length, rfl, hstands, ?_⟩
  cases h.completable with
  | apart hfits hopen =>
      exact h.completes_words hrest.symm hcut hfits (.gap rfl _)
        (Lexer.tokensFrom_gap (c := ' ') rfl _ _) (hopen _)
  | @touching init minus ws hused hk hfits hdigit hopen =>
      obtain ⟨-, hlast⟩ := List.append_inj' hused rfl
      obtain rfl := List.singleton_inj.mp hlast
      obtain ⟨c, more, hwords, hc⟩ := hdigit
      have hresumes : Lexer.Resumes before last (wordsText ws ++ Lexer.closingMark) := by
        rw [hwords]
        exact .digit (completable_meets h.completable) hk hc _
      have hminus : last.source = ['-'] := hstands.spelling _ (by rw [hk]; rfl)
      have hnext : Location.start.advance (source ++ last.source) = last.location.next := by
        rw [hminus, Location.advance_append, ← hplace]
        rfl
      exact h.completes_words hrest.symm hcut hfits hresumes (by rw [hnext]) hopen

end

/-- No template has the tokens that a reading is stuck behind, and then the token
that it is stuck at: the same reader would be stuck there too. -/
theorem StuckAt.hopeless {stack : Stack} {n : Nat} {used : List Token} {t : Token}
    {what : Expectation}
    (h : StuckAt stack.between n (within stack.between stack.room) used t what) {other : Stack}
    {text : String} {template : Template} (hother : Template.parse other text = .ok template) :
    ¬ used ++ [t] <+: (tokenize text).tokens := by
  rintro ⟨after, heq⟩
  have hstuck : stack.children (tokenize text).tokens = .error (rejection what t) := by
    rw [← heq, List.append_assoc, List.singleton_append]
    exact h.again after
  rcases parse_or_tooDeep hother stack with hok | ⟨l, hdeep⟩
  · have hchildren := parse_eq_ok_iff.mp hok
    rw [hstuck] at hchildren
    cases hchildren
  · unfold Template.parse at hdeep
    dsimp only at hdeep
    rw [hstuck] at hdeep
    cases hdeep

end Reader

/-- A rejection at the earliest token that can be rejected: `last` is the token
before it, and up to the end of `last` the text can be completed, with the frames of
one construct more than the text was read with, but no text that is read on any stack
has these tokens and then the one that is rejected. -/
structure RejectedAt (stack : Reader.Stack) (text : String) (before : List Token)
    (last t : Token) : Prop where
  completes : ∃ o, last.StandsAt text.toList o ∧
    HasCompletion stack.between (stack.room + stack.construct) (upTo text last o)
  hopeless : ∀ other text' template, Template.parse other text' = .ok template →
    ¬ before ++ [last, t] <+: (tokenize text').tokens

/-- A text that is rejected where something else was expected is rejected at the
earliest token. -/
theorem rejected_earliest {stack : Reader.Stack} {text : String} {what : Expectation}
    {found : String} {l : Location}
    (h : Template.parse stack text = .error (.rejected (.expected what found) l)) :
    ∃ before last t after, (tokenize text).tokens = before ++ last :: t :: after ∧
      t.location = l ∧ t.description = found ∧ RejectedAt stack text before last t := by
  obtain ⟨used, t, after, htokens, hplace, hfound, hstuck⟩ := Reader.rejected_stuck h
  obtain ⟨before, last, o, rfl, hstands, hcompletes⟩ := hstuck.completes htokens
  refine ⟨before, last, t, after, by simpa using htokens, hplace, hfound, ⟨o, hstands, hcompletes⟩,
    fun other text' template hother => ?_⟩
  simpa using hstuck.hopeless hother

/-- A name behind a minus, which a number would have completed. -/
theorem rejected_earliest_minus :
    Template.parse .usual "<%= [-x] %>" =
        .error (.rejected (.expected .adjacentNumber "'x'") ⟨1, 7⟩) ∧
      ∃ before last t after, (tokenize "<%= [-x] %>").tokens = before ++ last :: t :: after ∧
        t.location = ⟨1, 7⟩ ∧ t.description = "'x'" ∧
          RejectedAt .usual "<%= [-x] %>" before last t := by
  have h : Template.parse .usual "<%= [-x] %>" =
      .error (.rejected (.expected .adjacentNumber "'x'") ⟨1, 7⟩) := by
    with_unfolding_all rfl
  exact ⟨h, rejected_earliest h⟩

/-! ## Headers without room for a body -/

namespace Reader

open Grammar

variable {between : Construct → Nat}

theorem expression_pos {n : Nat} {e : Expr} {ts : List Token}
    (h : Derives between n (.expression e) ts) : 0 < n := by
  cases h <;> exact Nat.succ_pos _

/-- Parentheses that are left open, and a function that begins in them. -/
theorem frames_of_open {opened more : List Token} {keyword : Token}
    (hopened : ∀ t ∈ opened, t.kind = .leftParen) (hk : keyword.kind = .fnWord) {n : Nat}
    {e : Expr} {us rest : List Token} (h : Derives between n (.expression e) us)
    (heq : us ++ rest = opened ++ keyword :: more) :
    opened.length * (between .group + 1) + between .function + 1 < n := by
  induction opened generalizing n e us rest with
  | nil =>
      cases h with
      | function hk ho hp hd hc ha hb =>
          have := expression_pos hb
          simp only [List.length_nil]
          omega
      | chain hb hs =>
          rw [List.append_assoc] at heq
          exact absurd (by rw [heq]; exact hk) (primary_kind hb _)
  | cons opener opened ih =>
      obtain ⟨ho, hrest⟩ := List.forall_mem_cons.mp hopened
      have hhead : ∀ {t : Token} {k : TokenKind} {ts us : List Token}, t :: ts = opener :: us →
          t.kind = k → k = .leftParen := fun heq hk => by
        obtain ⟨rfl, -⟩ := List.cons.inj heq
        exact hk.symm.trans ho
      cases h with
      | function hk => cases hhead heq hk
      | chain hb hs =>
          cases hb with
          | group ho' he hc =>
              obtain ⟨rfl, htail⟩ := List.cons.inj heq
              have := ih hrest he (by simpa using htail)
              rw [List.length_cons, Nat.succ_mul]
              omega
          | choice hk | name hk | string hk | negative hk | list hk | dictionary hk =>
              cases hhead heq hk
          | number hl =>
              rcases hl.kind_eq with hk | hk <;> cases hhead heq hk

/-- Stops in parentheses are stops of the whole. -/
theorem within_open {opened ts : List Token} {free : Nat} {stop : Stop}
    (hopened : ∀ t ∈ opened, t.kind = .leftParen) (hne : ts ≠ [])
    (h : within between free ts = .error stop) :
    within between (opened.length * (between .group + 1) + free) (opened ++ ts) = .error stop := by
  induction opened with
  | nil => rwa [List.length_nil, Nat.zero_mul, Nat.zero_add]
  | cons opener opened ih =>
      obtain ⟨ho, hopened⟩ := List.forall_mem_cons.mp hopened
      have hframes : (opened.length + 1) * (between .group + 1) + free =
          opened.length * (between .group + 1) + free + between .group + 1 := by
        rw [Nat.succ_mul]
        omega
      have hfree : opened.length * (between .group + 1) + free + between .group - between .group =
          opened.length * (between .group + 1) + free := Nat.add_sub_cancel ..
      rw [List.length_cons, hframes, within_succ, List.cons_append, kind_cons, ho,
        if_neg (by decide), primary, look_bind, kind_cons, ho]
      dsimp only
      rw [take_cons .expression (by simp [hne])]
      dsimp only [bind, Except.bind]
      rw [parts, hfree, ih hopened]

end Reader

namespace Lexer
/-- Open parentheses. -/
theorem tokensFrom_open (k : Nat) (place : Location) (rest : List Char) :
    ∃ opened, (∀ t ∈ opened, t.kind = .leftParen) ∧ opened.length = k ∧
      (tokensFrom .expression place (List.replicate k '(' ++ rest)).tokens =
        opened ++ (tokensFrom .expression (place.advance (List.replicate k '(')) rest).tokens := by
  induction k generalizing place with
  | zero => exact ⟨[], by simp, rfl, rfl⟩
  | succ k ih =>
      obtain ⟨opened, hopened, hlength, htokens⟩ := ih (place.advance ['('])
      refine ⟨⟨.leftParen, "(", place⟩ :: opened, List.forall_mem_cons.mpr ⟨rfl, hopened⟩,
        congrArg Nat.succ hlength, ?_⟩
      rw [List.replicate_succ, List.cons_append, tokensFrom_sign rfl, Lexed.cons, htokens]
      rfl

/-- The head of a function without parameters, whatever follows. -/
theorem tokensFrom_fn (place : Location) (rest : List Char) :
    ∃ l l', (tokensFrom .expression place (['f', 'n', '(', ')'] ++ rest)).tokens =
      ⟨.fnWord, "fn", place⟩ :: ⟨.leftParen, "(", l⟩ :: ⟨.rightParen, ")", l'⟩ ::
        (tokensFrom .expression (place.advance ['f', 'n', '(', ')']) rest).tokens := by
  have hword : tokensFrom .expression place (['f', 'n', '(', ')'] ++ rest) =
      Lexed.cons ⟨.fnWord, "fn", place⟩
        (tokensFrom .expression (place.advance ['f', 'n']) ('(' :: ')' :: rest)) :=
    @tokensFrom_step 'f' ['n'] ('(' :: ')' :: rest) .fnWord (by decide) rfl place
  rw [hword, tokensFrom_sign rfl, tokensFrom_sign rfl]
  exact ⟨_, _, rfl⟩

end Lexer

/-- A function without parameters, in parentheses that are left open, up to the end
of its header. -/
def openHeader (k : Nat) : String :=
  "<%= " ++ String.ofList (List.replicate k '(') ++ "fn()"

theorem tokenize_openHeader (k : Nat) (more : String) :
    ∃ opened l l' l'', (∀ t ∈ opened, t.kind = .leftParen) ∧ opened.length = k ∧
      (tokenize (openHeader k ++ more)).tokens = ⟨.opening, "<%=", .start⟩ :: (opened ++
        ⟨.fnWord, "fn", l⟩ :: ⟨.leftParen, "(", l'⟩ :: ⟨.rightParen, ")", l''⟩ ::
          (Lexer.tokensFrom .expression (Location.start.advance (openHeader k).toList)
            more.toList).tokens) := by
  have hheader : (openHeader k).toList = Lexer.openingMark ++ ([' '] ++
      (List.replicate k '(' ++ ['f', 'n', '(', ')'])) := by
    simp [openHeader, Lexer.openingMark]
  have htext : (openHeader k ++ more).toList = Lexer.openingMark ++ ' ' ::
      (List.replicate k '(' ++ (['f', 'n', '(', ')'] ++ more.toList)) := by
    rw [String.toList_append, hheader]
    simp
  obtain ⟨opened, hopened, hlength, htokens⟩ := Lexer.tokensFrom_open k
    ((Location.start.advance Lexer.openingMark).after ' ') (['f', 'n', '(', ')'] ++ more.toList)
  generalize hplace : ((Location.start.advance Lexer.openingMark).after ' ').advance
    (List.replicate k '(') = place at htokens
  obtain ⟨l', l'', hword⟩ := Lexer.tokensFrom_fn place more.toList
  refine ⟨opened, place, l', l'', hopened, hlength, ?_⟩
  rw [tokenize, htext, Lexer.tokensFrom_opening, Lexer.tokensFrom_gap rfl, Lexer.Lexed.cons,
    htokens, hword, hheader, Location.advance_append, Location.advance_append,
    Location.advance_append, ← hplace]
  rfl

/-- The header is rejected where its arrow is missing, if there are frames for it. -/
theorem parse_openHeader {stack : Reader.Stack} {k : Nat}
    (hroom : stack.room = k * (stack.between .group + 1) + 2) :
    Template.parse stack (openHeader k ++ " )") = .error (.rejected (.expected .arrow "')'")
      ((Location.start.advance (openHeader k).toList).after ' ')) := by
  obtain ⟨opened, l, l', l'', hopened, hlength, htokens⟩ := tokenize_openHeader k " )"
  generalize Location.start.advance (openHeader k).toList = place at htokens ⊢
  have hrest : (Lexer.tokensFrom .expression place " )".toList).tokens =
      [⟨.rightParen, ")", place.after ' '⟩, ⟨.ending, "", (place.after ' ').advance [')']⟩] := by
    have hlist : " )".toList = [' ', ')'] := rfl
    rw [hlist, Lexer.tokensFrom_gap rfl, Lexer.tokensFrom_sign rfl, Lexer.tokensFrom_nil]
    rfl
  rw [hrest] at htokens
  have hinner : Reader.within stack.between 2 (⟨.fnWord, "fn", l⟩ :: ⟨.leftParen, "(", l'⟩ ::
      ⟨.rightParen, ")", l''⟩ :: [⟨.rightParen, ")", place.after ' '⟩,
        ⟨.ending, "", (place.after ' ').advance [')']⟩]) =
      .error (.failure (.rejected (.expected .arrow "')'") (place.after ' '))) := by
    rfl
  have hwhole := Reader.within_open hopened (by simp) hinner
  rw [hlength, ← hroom] at hwhole
  unfold Template.parse
  dsimp only
  rw [htokens, stack.children_eq, Reader.children_expression rfl (by simp), hwhole]
  rfl

/-- No text that goes on behind the header is read, unless there are frames for a body. -/
theorem parse_openHeader_append {stack : Reader.Stack} {k : Nat}
    (hroom : stack.room ≤ k * (stack.between .group + 1) + stack.between .function + 1)
    (more : String) (t : Template) : Template.parse stack (openHeader k ++ more) ≠ .ok t := by
  intro h
  obtain ⟨opened, l, l', l'', hopened, hlength, htokens⟩ := tokenize_openHeader k more
  obtain ⟨-, body, last, heq, hlast, hd, -⟩ := parse_block h
  have hall := htokens.symm.trans heq
  rcases Grammar.block_cases hd with ⟨rfl, -⟩ | ⟨t, us, es, rfl, -, hk, -⟩ |
    ⟨opener, us, closer, vs, e, es, rfl, -, -, hc, he, -⟩
  · obtain ⟨rfl, -⟩ := List.cons.inj hall
    cases hlast
  · obtain ⟨rfl, -⟩ := List.cons.inj hall
    cases hk
  · simp only [List.cons_append, List.append_assoc, List.cons.injEq] at hall
    obtain ⟨-, htail⟩ := hall
    have hframes := Reader.frames_of_open hopened rfl he htail.symm
    rw [hlength] at hframes
    omega

/-- A text that is rejected behind the header of a function and that nothing completes
on the usual stack: with 495 parentheses around it there is no frame for a body. -/
theorem rejected_without_completion :
    Template.parse .usual (openHeader 495 ++ " )") = .error (.rejected (.expected .arrow "')'")
      ((Location.start.advance (openHeader 495).toList).after ' ')) ∧
    ∀ more t, Template.parse .usual (openHeader 495 ++ more) ≠ .ok t :=
  ⟨parse_openHeader rfl, parse_openHeader_append (by decide)⟩

end Inlay
