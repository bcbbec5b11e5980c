import Inlay.Proofs.Lookahead

/-!
# Prefixes that can be completed

Every rule of the reader is a sequence of steps that look one token ahead, and
so does the same. Over readers of one expression of which this is known, each
rule has one lemma; the frames that are free are then the only induction
(`within_foresees`). What an expression that is stuck needs for its completion
may take more frames than are free: the header of a function or a choice can be
rejected where there is none left for its body. One construct more is all it takes.
-/

namespace Inlay

namespace Reader

open Grammar Spelling

/-! ## What rules take -/

def Takes {α : Type} (between : Construct → Nat) (n : Nat) (phrase : α → Phrase) (a : α)
    (us : List Token) : Prop :=
  Derives between n (phrase a) us

/-- Tokens that derive a phrase, and a closing token behind them. -/
def Encloses {α : Type} (between : Construct → Nat) (n : Nat) (phrase : α → Phrase)
    (closer : TokenKind) (a : α) (us : List Token) : Prop :=
  ∃ vs close, us = vs ++ [close] ∧ close.kind = closer ∧ Derives between n (phrase a) vs

variable {between : Construct → Nat}

/-- The word that can stand for any expression. -/
def zeroWord : Word := .plain .integer ['0']

theorem fits_zero : zeroWord.Fits := by
  have hd : Lexer.IsDigits ['0'] := ⟨by simp, by simp; rfl⟩
  exact ⟨.integer hd, by simp [zeroWord, Word.plain], (fun h => nomatch h),
    fun _ => by simp [zeroWord, Word.plain, Numeral.digitLimit]⟩

theorem zero_literal (negative : Bool) (l m : Location) :
    Literal negative ⟨.integer, "0", l⟩ m (.integer m (signedValue negative "0")) := by
  have hfits : FitsInt64 (signedValue negative "0") := by
    cases negative <;> unfold FitsInt64 <;> decide
  exact .integer rfl hfits

theorem fills_zero (n : Nat) : Fills [zeroWord] (Takes between n .primary) :=
  ⟨List.forall_mem_singleton.mpr fits_zero,
    fun place => ⟨_, .number (zero_literal false place place)⟩⟩

/-! ## Numbers -/

/-- A number is not accepted for a reason of its own. -/
theorem number_stops {negative : Bool} {t : Token} {l : Location} {stop : Stop}
    (h : number negative t l = .error stop) : stop ≠ .cutShort ∧ ¬ stop.Expects := by
  have hown {f : ParseFailure} (heq : (.error (.failure f) : Except Stop Expr) = .error stop)
      (hf : ∀ what found place, f ≠ .rejected (.expected what found) place) :
      stop ≠ .cutShort ∧ ¬ stop.Expects := by
    obtain rfl := Except.error.inj heq
    exact ⟨nofun, failure_not_expects hf⟩
  dsimp only [number] at h
  split at h
  · split at h
    · split at h
      · cases h
      · exact hown h nofun
    · exact hown h nofun
  · split at h
    · split at h
      · cases h
      · exact hown h nofun
    · exact hown h nofun
    · exact hown h nofun

theorem negativeNumber_decided {n : Nat} {ts : List Token} (hts : Formed ts)
    (hk : kind ts = .minus) : Decided (Takes between n .primary) (rule negativeNumber) ts := by
  match ts with
  | [] => cases hk
  | [minus] => exact .stops rfl cutShort_not_expects
  | minus :: t :: rest =>
      have hstep : ∀ after, (negativeNumber (minus :: t :: after) : Reads Expr _) =
          if (t.kind = .integer ∨ t.kind = .float) ∧ t.location = minus.location.next then do
            let u ← take .expression (t :: after)
            let e ← number true u.value minus.location
            return ⟨e, u.rest, Nat.lt_succ_of_lt u.shorter⟩
          else reject .expression .adjacentNumber (t :: after) := fun _ => rfl
      by_cases hnext : (t.kind = .integer ∨ t.kind = .float) ∧ t.location = minus.location.next
      · obtain ⟨hnumber, hat⟩ := id hnext
        cases rest with
        | nil =>
            refine .stops ?_ cutShort_not_expects
            rw [rule, hstep, if_pos hnext]
            rfl
        | cons u rest =>
            have hgo : ∀ rest', rest'.head? = some u → rule negativeNumber (minus :: t :: rest') =
                (number true t minus.location).map fun e => (e, rest') := by
              intro rest' hr
              obtain ⟨more, rfl⟩ := List.head?_eq_some_iff.mp hr
              rw [rule, hstep, if_pos hnext]
              change ((number true t minus.location) >>= _).map _ = _
              cases number true t minus.location <;> rfl
            cases hn : number true t minus.location with
            | ok e =>
                obtain ⟨hl, hread⟩ := number_sound (hts t (by simp)) hnumber hn
                have hin : Inside [t] := by
                  refine ⟨hread, List.forall_mem_singleton.mpr ?_⟩
                  rcases hnumber with h | h <;> simp [h]
                have hminus : Inside [minus] := .one hk (by decide)
                refine .took [minus, t] (fun rest' hr => ?_) (hminus.append hin)
                  (.negative hk hat hl)
                exact (hgo rest' hr).trans (by rw [hn]; rfl)
            | error stop =>
                refine .stops ?_ (number_stops hn).2
                rw [hgo (u :: rest) rfl, hn]
                rfl
      · -- only a number that touches the minus completes it
        refine .stuck [minus] .adjacentNumber (fun after' => ?_) (.one hk (by decide)) ?_
        · change rule negativeNumber (minus :: t :: after') = _
          rw [rule, hstep, if_neg hnext]
          rfl
        · exact .touching [] rfl hk (List.forall_mem_singleton.mpr fits_zero) ⟨'0', [' '], rfl, rfl⟩
            ⟨_, .negative hk rfl (zero_literal true _ _)⟩

/-! ## Parameters -/

/-- A name that is none of these: longer than all of them. -/
def freshName (names : List String) : String :=
  String.ofList ('a' :: List.replicate (names.foldr (fun w n => max w.length n) 0) 'a')

theorem length_lt_freshName {names : List String} {w : String} (h : w ∈ names) :
    w.length < (freshName names).length := by
  rw [freshName, String.length_ofList, List.length_cons, List.length_replicate]
  induction names with
  | nil => cases h
  | cons v names ih =>
      rw [List.foldr_cons]
      rcases List.mem_cons.mp h with rfl | h
      · omega
      · have := ih h
        omega

theorem freshName_notMem (names : List String) : freshName names ∉ names :=
  fun h => Nat.lt_irrefl _ (length_lt_freshName h)

theorem freshName_isName (names : List String) : IsName (freshName names) := by
  refine ⟨⟨'a', _, String.toList_ofList, by decide, fun d hd => ?_⟩, fun h => ?_, fun h => ?_⟩
  · rw [List.eq_of_mem_replicate hd]
    decide
  · have hhead := congrArg (fun w => w.toList.head?) h
    simp [freshName] at hhead
  · have hhead := congrArg (fun w => w.toList.head?) h
    simp [freshName] at hhead

def IsParameter (before : List String) (q : String) (us : List Token) : Prop :=
  ∃ t, us = [t] ∧ t.kind = .identifier ∧ q = t.text ∧ q ∉ before

theorem parameter_foresees (before : List String) :
    Foresees (IsParameter before) [nameWord (freshName before)] (rule (parameter before)) := by
  have hfills : Fills [nameWord (freshName before)] (IsParameter before) := by
    refine ⟨List.forall_mem_singleton.mpr (fits_name (freshName_isName before)), fun place => ?_⟩
    refine ⟨freshName before, ⟨.identifier, freshName before, place⟩, ?_, rfl, rfl,
      freshName_notMem before⟩
    simp [nameWord, wordsTokens, Word.plain, Word.tokens, Lexer.tokenText]
  refine ⟨fun ts hts => ?_, hfills⟩
  have hdecided := token_decided .identifier .parameterName
    (fun t => if t.text ∈ before then
      .error (.failure (.rejected (.duplicateParameter t.text) t.location)) else .ok t.text)
    (IsParameter before) ?_ ?_ hfills.completable hts
  · refine hdecided.switch fun us _ => rule_andThen fun t => ?_
    split <;> rfl
  · intro t q hk _ hq
    split at hq
    · cases hq
    · rename_i hnew
      obtain rfl := Except.ok.inj hq
      exact ⟨.one hk (by decide), t, rfl, hk, rfl, hnew⟩
  · rintro t stop hstop ⟨what, found, l, rfl⟩
    split at hstop <;> cases hstop

/-- Parameters after commas, behind one that is already read. -/
def AreMoreParameters (before : List String) (ps : List String) (us : List Token) : Prop :=
  (∀ {t : Token}, t.kind = .identifier → Names (t.text :: ps) (t :: us)) ∧ ps.Nodup ∧
    ∀ q ∈ ps, q ∉ before

/-- Parameters that differ from each other, and the closing parenthesis. -/
def AreParameters (ps : List String) (us : List Token) : Prop :=
  ∃ vs close, us = vs ++ [close] ∧ close.kind = .rightParen ∧ Parameters ps vs ∧ ps.Nodup

theorem parameters_foresees :
    Foresees AreParameters [.plain .rightParen [')']] (rule parameters) := by
  refine items_foresees parameter_foresees [] .rightParen (by decide) (fits_sign rfl)
    (fun q => moreItems_foresees parameter_foresees AreMoreParameters
      (fun before => ⟨.one, List.nodup_nil, by simp⟩) ?_ [q])
    (fun hc => ⟨[], _, rfl, hc, .none, List.nodup_nil⟩) ?_
  · rintro before comma q ps _ us hc ⟨t, rfl, hk, rfl, hnew⟩ ⟨hnames, hnodup, hfresh⟩
    refine ⟨fun ht => .more ht hc (hnames hk), ?_, ?_⟩
    · exact List.nodup_cons.mpr ⟨fun hmem => hfresh _ hmem (by simp), hnodup⟩
    · intro q hq
      rcases List.mem_cons.mp hq with rfl | hq
      · exact hnew
      · exact fun hmem => hfresh q hq (List.mem_append_left _ hmem)
  · rintro q ps _ us close ⟨t, rfl, hk, rfl, -⟩ ⟨hnames, hnodup, hfresh⟩ hc
    have hnew : t.text ∉ ps := fun hmem => hfresh _ hmem (List.mem_singleton_self _)
    exact ⟨t :: us, close, rfl, hc, .some (hnames hk), List.nodup_cons.mpr ⟨hnew, hnodup⟩⟩

section

variable {n : Nat} {one : ExprReader}
  (hone : Foresees (Takes between n .expression) [zeroWord] (rule one))
include hone

/-! ## Elements and entries -/

/-- Elements up to a closing token. -/
theorem expressions_foresees {closer : TokenKind} (what : Expectation)
    (hne : closer ≠ .integer ∧ closer ≠ .closing) {source : List Char}
    (hfits : (Word.plain closer source).Fits) :
    Foresees (Encloses between n .expressions closer) [.plain closer source]
      (rule (expressions one closer what)) :=
  items_foresees (fun _ => hone) () what hne hfits
    (fun _ => moreItems_foresees (fun _ => hone) (fun _ => Takes between n .moreExpressions)
      (fun _ => .noMoreExpressions) (fun hc he hes => .moreExpressions hc he hes) ())
    (fun hc => ⟨[], _, rfl, hc, .noExpressions⟩)
    fun he hes hc => ⟨_, _, (List.append_assoc ..).symm, hc, .someExpressions he hes⟩

/-- An entry: a key, a colon and a value. -/
def IsEntry (between : Construct → Nat) (n : Nat) (p : Expr × Expr) (us : List Token) : Prop :=
  ∃ vs colon ws, us = vs ++ colon :: ws ∧ Derives between n (.expression p.1) vs ∧
    colon.kind = .colon ∧ Derives between n (.expression p.2) ws

theorem entry_foresees :
    Foresees (IsEntry between n) [zeroWord, .plain .colon [':'], zeroWord] (rule (entry one)) := by
  have hcolon : Foresees (One .colon) [.plain .colon [':']] (token .colon .colon) :=
    token_foresees .colon (by decide) (fits_sign rfl)
  have hseq := hone.andThen fun k => hcolon.andThen fun _ => hone.andThen fun v => .done (k, v)
  have hrule : rule (entry one) = (rule one).andThen fun k =>
      (token .colon .colon).andThen fun _ => (rule one).andThen fun v => .done (k, v) := by
    funext ts
    exact rule_andThen fun key => rule_andThen fun colon => rule_andThen fun value => rfl
  rw [hrule]
  refine hseq.mono ?_
  rintro - - ⟨k, vs, _, rfl, hk, colon, _, _, rfl, ⟨rfl, hc⟩, v, ws, _, rfl, hv, rfl, rfl⟩
  exact ⟨vs, colon, ws, by simp, hk, hc, hv⟩

theorem entries_foresees :
    Foresees (Encloses between n .entries .rightBrace) [.plain .rightBrace ['\x7d']]
      (rule (entries one)) := by
  refine items_foresees (fun _ => entry_foresees hone) () .rightBrace (by decide) (fits_sign rfl)
    (fun _ => moreItems_foresees (fun _ => entry_foresees hone)
      (fun _ => Takes between n .moreEntries) (fun _ => .noMoreEntries) ?_ ())
    (fun hc => ⟨[], _, rfl, hc, .noEntries⟩) ?_
  · rintro - comma ⟨k, v⟩ es _ us hc ⟨vs, colon, ws, rfl, hk, hcolon, hv⟩ hes
    simpa [Takes] using Derives.moreEntries hc hk hcolon hv hes
  · rintro ⟨k, v⟩ es _ us close ⟨vs, colon, ws, rfl, hk, hcolon, hv⟩ hes hc
    exact ⟨vs ++ colon :: (ws ++ us), close, by simp, hc, .someEntries hk hcolon hv hes⟩

end

/-! ## Functions and choices -/

section

variable {n : Nat} {one : ExprReader}

theorem function_decided
    (hone : Foresees (Takes between (n - between .function) .expression) [zeroWord] (rule one))
    {ts : List Token} (hts : Formed ts) (hk : kind ts = .fnWord) :
    Decided (Takes between (n + 1) .expression) (rule (function one)) ts := by
  have hseq := ((token_foresees .expression (by decide) fits_fn).andThen fun keyword =>
    (token_foresees .parenAfterFn (by decide) (fits_sign (c := '(') rfl)).andThen fun _ =>
      parameters_foresees.andThen fun ps =>
        (token_foresees .arrow (by decide) fits_arrow).andThen fun _ =>
          hone.andThen fun b => .done (Expr.function keyword.location ps b)).decided ts hts
  refine (hseq.mono ?_).switch fun us hus => ?_
  · rintro - - ⟨keyword, _, _, rfl, ⟨rfl, hfn⟩, opener, _, _, rfl, ⟨rfl, ho⟩, ps, _, _, rfl,
      ⟨names, closer, rfl, hc, hps, hd⟩, arrow, _, _, rfl, ⟨rfl, ha⟩, b, vs, _, rfl, hb, rfl, rfl⟩
    simpa [Takes] using Derives.function hfn ho hps hd hc ha hb
  · rw [rule, function, take_eq_expect ((kind_head hus).trans hk) .expression]
    exact rule_andThen fun keyword => rule_andThen fun opener => rule_andThen fun ps =>
      rule_andThen fun arrow => rule_andThen fun b => rfl

theorem choice_decided
    (hone : Foresees (Takes between (n - between .choice) .expression) [zeroWord] (rule one))
    {ts : List Token} (hts : Formed ts) (hk : kind ts = .ifWord) :
    Decided (Takes between n .primary) (rule (choice one)) ts := by
  have hcomma : Foresees (One .comma) [.plain .comma [',']] (token .comma .comma) :=
    token_foresees .comma (by decide) (fits_sign rfl)
  have hseq := ((token_foresees .expression (by decide) fits_if).andThen fun keyword =>
    (token_foresees .parenAfterIf (by decide) (fits_sign (c := '(') rfl)).andThen fun _ =>
      hone.andThen fun c => hcomma.andThen fun _ => hone.andThen fun a =>
        hcomma.andThen fun _ => hone.andThen fun b =>
          (token_foresees .rightParen (by decide) (fits_sign (c := ')') rfl)).andThen fun _ =>
            .done (Expr.choice keyword.location c a b)).decided ts hts
  refine (hseq.mono ?_).switch fun us hus => ?_
  · rintro - - ⟨keyword, _, _, rfl, ⟨rfl, hif⟩, opener, _, _, rfl, ⟨rfl, ho⟩, c, vs, _, rfl, hc,
      comma, _, _, rfl, ⟨rfl, h1⟩, a, us, _, rfl, ha, comma', _, _, rfl, ⟨rfl, h2⟩, b, ws, _, rfl,
      hb, closer, _, _, rfl, ⟨rfl, hr⟩, rfl, rfl⟩
    simpa [Takes] using Derives.choice hif ho hc h1 ha h2 hb hr
  · rw [rule, choice, take_eq_expect ((kind_head hus).trans hk) .expression]
    exact rule_andThen fun keyword => rule_andThen fun opener => rule_andThen fun c =>
      rule_andThen fun comma => rule_andThen fun a => rule_andThen fun comma' =>
        rule_andThen fun b => rule_andThen fun closer => rfl

end

/-! ## Primary expressions -/

section

variable {n : Nat} {one : Construct → ExprReader}
  (hone : ∀ c, Foresees (Takes between (n - between c) .expression) [zeroWord] (rule (one c)))
include hone

theorem group_decided {ts : List Token} (hts : Formed ts) (hk : kind ts = .leftParen) :
    Decided (Takes between n .primary) (rule (primary one)) ts := by
  have hseq := ((token_foresees .expression (by decide) (fits_sign (c := '(') rfl)).andThen fun _ =>
    (hone .group).andThen fun e =>
      (token_foresees .rightParen (by decide) (fits_sign (c := ')') rfl)).andThen fun _ =>
        .done e).decided ts hts
  refine (hseq.mono ?_).switch fun us hus => ?_
  · rintro e - ⟨opener, _, _, rfl, ⟨rfl, ho⟩, _, vs, _, rfl, he, closer, _, _, rfl, ⟨rfl, hc⟩,
      heq, rfl⟩
    subst heq
    simpa [Takes] using Derives.group ho he hc
  · have hkind := (kind_head hus).trans hk
    rw [rule, primary, look_bind, hkind, take_eq_expect hkind .expression]
    exact rule_andThen fun opener => rule_andThen fun e => rule_andThen fun closer => rfl

theorem list_decided {ts : List Token} (hts : Formed ts) (hk : kind ts = .leftBracket) :
    Decided (Takes between n .primary) (rule (primary one)) ts := by
  have hseq := ((token_foresees .expression (by decide) (fits_sign (c := '[') rfl)).andThen
    fun opener => (expressions_foresees (hone .list) .rightBracket (by decide)
      (fits_sign (c := ']') rfl)).andThen fun es =>
        .done (Expr.list opener.location es)).decided ts hts
  refine (hseq.mono ?_).switch fun us hus => ?_
  · rintro - - ⟨opener, _, _, rfl, ⟨rfl, ho⟩, es, _, _, rfl, ⟨vs, closer, rfl, hc, hes⟩, rfl, rfl⟩
    simpa [Takes] using Derives.list ho hes hc
  · have hkind := (kind_head hus).trans hk
    rw [rule, primary, look_bind, hkind, take_eq_expect hkind .expression]
    exact rule_andThen fun opener => rule_andThen fun es => rfl

theorem dictionary_decided {ts : List Token} (hts : Formed ts) (hk : kind ts = .leftBrace) :
    Decided (Takes between n .primary) (rule (primary one)) ts := by
  have hseq := ((token_foresees .expression (by decide) (fits_sign (c := '\x7b') rfl)).andThen
    fun opener => (entries_foresees (hone .dictionary)).andThen fun es =>
      .done (Expr.dictionary opener.location es)).decided ts hts
  refine (hseq.mono ?_).switch fun us hus => ?_
  · rintro - - ⟨opener, _, _, rfl, ⟨rfl, ho⟩, es, _, _, rfl, ⟨vs, closer, rfl, hc, hes⟩, rfl, rfl⟩
    simpa [Takes] using Derives.dictionary ho hes hc
  · have hkind := (kind_head hus).trans hk
    rw [rule, primary, look_bind, hkind, take_eq_expect hkind .expression]
    exact rule_andThen fun opener => rule_andThen fun es => rfl

omit hone in
/-- A name, a string or a number by itself. -/
theorem single_decided {ts : List Token} (hts : Formed ts) {k : TokenKind}
    (hk : kind ts = k) (f : Token → Except Stop Expr)
    (hread : ∀ us, kind us = k → rule (primary one) us =
      ((token k .expression).andThen fun t ts => (f t).map fun a => (a, ts)) us)
    (hd : ∀ t e, t.kind = k → Formed [t] → f t = .ok e →
      Inside [t] ∧ Derives between n (.primary e) [t])
    (hstop : ∀ t stop, f t = .error stop → ¬ stop.Expects) :
    Decided (Takes between n .primary) (rule (primary one)) ts := by
  have hdecided := token_decided k .expression f (Takes between n .primary) hd hstop
    (fills_zero n).completable hts
  exact hdecided.switch fun us hus => hread us ((kind_head hus).trans hk)

omit hone in
theorem plainNumber_decided {ts : List Token} (hts : Formed ts) {k : TokenKind}
    (hk : kind ts = k) (hnumber : k = .integer ∨ k = .float) :
    Decided (Takes between n .primary) (rule (primary one)) ts := by
  refine single_decided hts hk (fun t => number false t t.location) (fun us hus => ?_)
    (fun t e ht hform he => ?_) fun t stop h => (number_stops h).2
  · have hstep : rule (primary one) us = (do
        let t ← take .expression us
        let e ← made (number false t.value t.value.location)
        return t.map fun _ => e : Reads Expr us).map fun p => (p.value, p.rest) := by
      rw [rule, primary, look_bind]
      rcases hnumber with rfl | rfl <;> rw [hus]
    rw [hstep, take_eq_expect hus .expression]
    refine rule_andThen fun t => ?_
    rw [made_eq]
    cases number false t.value t.value.location <;> rfl
  · obtain ⟨hl, hread⟩ := number_sound (hform t (List.mem_singleton_self t)) (ht ▸ hnumber) he
    refine ⟨⟨hread, List.forall_mem_singleton.mpr ?_⟩, .number hl⟩
    rcases hnumber with rfl | rfl <;> simp [ht]

theorem primary_decided {ts : List Token} (hts : Formed ts) :
    Decided (Takes between n .primary) (rule (primary one)) ts := by
  have hreject : (∀ us, us.head? = ts.head? → primary one us = reject .expression .expression us) →
      Decided (Takes between n .primary) (rule (primary one)) ts := by
    intro h
    cases ts with
    | nil =>
        refine .stops ?_ cutShort_not_expects
        rw [rule, h [] rfl]
        rfl
    | cons t rest =>
        refine .stuck [] .expression (fun after' => ?_) .nil (fills_zero n).completable
        rw [List.nil_append, rule, h (t :: after') rfl]
        rfl
  cases hk : kind ts with
  | leftParen => exact group_decided hone hts hk
  | leftBracket => exact list_decided hone hts hk
  | leftBrace => exact dictionary_decided hone hts hk
  | ifWord =>
      refine (choice_decided (hone .choice) hts hk).switch fun us hus => ?_
      rw [rule, rule, primary, look_bind, (kind_head hus).trans hk]
  | minus =>
      refine (negativeNumber_decided hts hk).switch fun us hus => ?_
      rw [rule, rule, primary, look_bind, (kind_head hus).trans hk]
  | identifier =>
      refine single_decided hts hk (fun t => .ok (.name t.location t.text)) (fun us hus => ?_)
        (fun t e ht _ he => ?_) (fun _ _ h => by cases h)
      · rw [rule, primary, look_bind, hus, take_eq_expect hus .expression]
        exact rule_andThen fun t => rfl
      · obtain rfl := Except.ok.inj he
        exact ⟨.one ht (by decide), .name ht⟩
  | string =>
      refine single_decided hts hk (fun t => .ok (.string t.location t.text)) (fun us hus => ?_)
        (fun t e ht _ he => ?_) (fun _ _ h => by cases h)
      · rw [rule, primary, look_bind, hus, take_eq_expect hus .expression]
        exact rule_andThen fun t => rfl
      · obtain rfl := Except.ok.inj he
        exact ⟨.one ht (by decide), .string ht⟩
  | integer => exact plainNumber_decided hts hk (.inl rfl)
  | float => exact plainNumber_decided hts hk (.inr rfl)
  | _ =>
      refine hreject fun us hus => ?_
      rw [primary, look_bind, (kind_head hus).trans hk]

theorem primary_foresees : Foresees (Takes between n .primary) [zeroWord] (rule (primary one)) :=
  ⟨fun _ => primary_decided hone, fills_zero n⟩

/-! ## Suffixes -/

omit hone in
/-- One suffix by its rule, and then the others. -/
theorem suffixes_eq {base : Expr} {ts : List Token} (first : Rule Expr)
    (h : (suffix? one base ts).map (Option.map fun p => (p.value, p.rest)) =
      (first ts).map some) :
    loop (suffixes one base) ts = (first.andThen fun b => loop (suffixes one b)) ts := by
  change (suffixes one base ts).map Subtype.val = _
  rw [suffixes]
  simp only [Rule.andThen, bind, Except.bind]
  cases hs : suffix? one base ts <;> cases hf : first ts <;> rw [hs, hf] at h
  · obtain rfl := Except.error.inj h
    rfl
  · cases h
  · cases h
  · rename_i p r
    cases p with
    | none => cases Except.ok.inj h
    | some p =>
        obtain rfl := Option.some.inj (Except.ok.inj h)
        dsimp only [loop]
        cases suffixes one p.value p.rest <;> rfl

omit hone in
theorem noSuffix_eq {base : Expr} {ts : List Token}
    (hk : kind ts ≠ .dot ∧ kind ts ≠ .leftBracket ∧ kind ts ≠ .leftParen) :
    loop (suffixes one base) ts = .ok (base, ts) := by
  have hnone : suffix? one base ts = .ok none := by
    rw [suffix?, look_bind]
    split
    · exact absurd ‹_› hk.1
    · exact absurd ‹_› hk.2.1
    · exact absurd ‹_› hk.2.2
    · rfl
  change (suffixes one base ts).map Subtype.val = _
  rw [suffixes, hnone]
  rfl

/-- A suffix of `base`: it makes an expression, whose suffixes are those of
`base` behind it. -/
def IsSuffix (between : Construct → Nat) (n : Nat) (base b : Expr) (us : List Token) : Prop :=
  us ≠ [] ∧ ∀ {e vs}, Derives between n (.suffixes b e) vs →
    Derives between n (.suffixes base e) (us ++ vs)

theorem suffix_foresees (base : Expr) {ts : List Token}
    (hk : kind ts = .dot ∨ kind ts = .leftBracket ∨ kind ts = .leftParen) :
    ∃ ws first, Foresees (IsSuffix between n base) ws first ∧ ∀ us, kind us = kind ts →
      loop (suffixes one base) us = (first.andThen fun b => loop (suffixes one b)) us := by
  rcases hk with hk | hk | hk
  · have hseq := (token_foresees .expression (by decide) (fits_sign (c := '.') rfl)).andThen
      fun dot => (token_foresees .memberName (by decide) (fits_name (freshName_isName []))).andThen
        fun name => .done (Expr.member dot.location base name.text)
    refine ⟨_, _, hseq.mono ?_, fun us hus => suffixes_eq _ ?_⟩
    · rintro - - ⟨dot, _, _, rfl, ⟨rfl, hd⟩, name, _, _, rfl, ⟨rfl, hk⟩, rfl, rfl⟩
      exact ⟨by simp, fun hs => .member hd hk hs⟩
    · have hkind := hus.trans hk
      rw [suffix?, look_bind, hkind, take_eq_expect hkind .expression]
      exact rule_andThen_map fun dot => rule_andThen_map fun name => rfl
  · have hseq := (token_foresees .expression (by decide) (fits_sign (c := '[') rfl)).andThen
      fun opener => (hone .index).andThen fun key =>
        (token_foresees .rightBracket (by decide) (fits_sign (c := ']') rfl)).andThen fun _ =>
          .done (Expr.index opener.location base key)
    refine ⟨_, _, hseq.mono ?_, fun us hus => suffixes_eq _ ?_⟩
    · rintro - - ⟨opener, _, _, rfl, ⟨rfl, ho⟩, key, vs, _, rfl, hi, closer, _, _, rfl, ⟨rfl, hc⟩,
        rfl, rfl⟩
      exact ⟨by simp, fun hs => by simpa using Derives.index ho hi hc hs⟩
    · have hkind := hus.trans hk
      rw [suffix?, look_bind, hkind, take_eq_expect hkind .expression]
      exact rule_andThen_map fun opener => rule_andThen_map fun key =>
        rule_andThen_map fun closer => rfl
  · have hseq := (token_foresees .expression (by decide) (fits_sign (c := '(') rfl)).andThen
      fun opener => (expressions_foresees (hone .call) .rightParen (by decide)
        (fits_sign (c := ')') rfl)).andThen fun es => .done (Expr.call opener.location base es)
    refine ⟨_, _, hseq.mono ?_, fun us hus => suffixes_eq _ ?_⟩
    · rintro - - ⟨opener, _, _, rfl, ⟨rfl, ho⟩, es, _, _, rfl, ⟨vs, closer, rfl, hc, ha⟩, rfl, rfl⟩
      exact ⟨by simp, fun hs => by simpa using Derives.call ho ha hc hs⟩
    · have hkind := hus.trans hk
      rw [suffix?, look_bind, hkind, take_eq_expect hkind .expression]
      exact rule_andThen_map fun opener => rule_andThen_map fun es => rfl

theorem suffixes_foresees (base : Expr) :
    Foresees (fun e us => Derives between n (.suffixes base e) us) []
      (loop (suffixes one base)) := by
  have hnil : ∀ base, Fills [] fun e us => Derives between n (.suffixes base e) us :=
    fun base => ⟨by simp, fun _ => ⟨base, .noSuffix⟩⟩
  refine ⟨fun ts hts => ?_, hnil base⟩
  induction hlen : ts.length using Nat.strong_induction_on generalizing base ts with
  | _ m ih =>
      by_cases hk : kind ts = .dot ∨ kind ts = .leftBracket ∨ kind ts = .leftParen
      · obtain ⟨ws, first, hfirst, heq⟩ := suffix_foresees hone base hk
        have hseq := (hfirst.decided ts hts).andThen hnil fun b used rest heq' hb =>
          have hlt : rest.length < m := by
            have hpos := List.length_pos_iff.mpr hb.1
            rw [← hlen, heq', List.length_append]
            omega
          ih _ hlt b rest (heq' ▸ hts).of_append rfl
        refine (hseq.mono ?_).switch fun us hus => heq us (kind_head hus)
        rintro e - ⟨b, us, vs, rfl, hb, hs⟩
        exact hb.2 hs
      · refine .none (fun us hus => noSuffix_eq ?_) .noSuffix
        rw [kind_head hus]
        exact ⟨fun h => hk (.inl h), fun h => hk (.inr (.inl h)), fun h => hk (.inr (.inr h))⟩

end

/-! ## Expressions -/

theorem fills_expression {n : Nat} (hn : 0 < n) :
    Fills [zeroWord] (Takes between n .expression) := by
  obtain ⟨n, rfl⟩ := Nat.exists_eq_add_of_lt hn
  exact ⟨List.forall_mem_singleton.mpr fits_zero, fun place =>
    ((fills_zero _).derives place).imp fun e he => .chain he .noSuffix⟩

/-- The reader of one expression looks one token ahead. What it takes may be
completed by an expression that takes the frames of one construct more. -/
theorem within_foresees {extra : Nat} (hextra : ∀ c, between c < extra) {free n : Nat}
    (hn : 0 < n) (hfree : free = 0 ∨ free + extra ≤ n) :
    Foresees (Takes between n .expression) [zeroWord] (rule (within between free)) := by
  induction free using Nat.strongRecOn generalizing n with
  | ind free ih =>
      refine ⟨fun ts hts => ?_, fills_expression hn⟩
      cases free with
      | zero =>
          cases ts with
          | nil => exact .stops rfl cutShort_not_expects
          | cons t ts => exact .stops rfl (failure_not_expects nofun)
      | succ free =>
          obtain ⟨n, rfl⟩ := Nat.exists_eq_succ_of_ne_zero (Nat.ne_of_gt hn)
          have hparts : ∀ c, Foresees (Takes between (n - between c) .expression) [zeroWord]
              (rule (parts between free c)) := fun c => by
            have := hextra c
            exact ih (free - between c) (by omega) (by omega) (by omega)
          by_cases hk : kind ts = .fnWord
          · refine (function_decided (hparts .function) hts hk).switch fun us hus => ?_
            rw [rule, rule, within_succ, if_pos ((kind_head hus).trans hk)]
          · have hseq := ((primary_foresees hparts).andThen fun base =>
              suffixes_foresees hparts base).decided ts hts
            refine (hseq.mono ?_).switch fun us hus => ?_
            · rintro e - ⟨base, vs, ws, rfl, hb, hs⟩
              exact .chain hb hs
            · rw [rule, within_succ, if_neg (by rwa [kind_head hus])]
              refine rule_andThen fun base => ?_
              change _ = (suffixes (parts between free) base.value base.rest).map Subtype.val
              cases suffixes (parts between free) base.value base.rest <;> rfl

end Reader

end Inlay
