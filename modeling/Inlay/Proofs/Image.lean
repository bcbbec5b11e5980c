import Inlay.Proofs.Spelling

/-!
# The trees that texts stand for

Up to places, the templates that are read on a stack are exactly the sequences of
well-formed trees that take no more frames than it has (`image_of_parse`).
One half is that whatever is derived is well-formed; the other derives every
tree from its spelling. Expressions and bases of suffixes are spelled alike but
for parentheses, and a suffix goes to the end of those that its base has, so
both are proved in one induction (`WellFormed.spelled`).
-/

namespace Inlay

namespace Expr

/-! ## Trees without places -/

section

variable {l : Location}

theorem placeless_member {b : Expr} {w : String} :
    (member l b w).placeless = member .start b.placeless w := rfl

theorem placeless_index {b k : Expr} :
    (index l b k).placeless = index .start b.placeless k.placeless := rfl

theorem placeless_call {f : Expr} {es : List Expr} :
    (call l f es).placeless = call .start f.placeless (es.map placeless) := by
  rw [placeless, relocate, relocateAll_eq]
  rfl

theorem placeless_choice {c a b : Expr} :
    (choice l c a b).placeless = choice .start c.placeless a.placeless b.placeless := rfl

theorem placeless_list {es : List Expr} :
    (list l es).placeless = list .start (es.map placeless) := by
  rw [placeless, relocate, relocateAll_eq]
  rfl

theorem placeless_dictionary {es : List (Expr × Expr)} :
    (dictionary l es).placeless =
      dictionary .start (es.map fun p => (p.1.placeless, p.2.placeless)) := by
  rw [placeless, relocate, relocateEntries_eq]
  rfl

theorem placeless_function {ps : List String} {b : Expr} :
    (function l ps b).placeless = function .start ps b.placeless := rfl

end

end Expr

namespace Spelling

open Grammar Lexer

/-! ## What is spelled is derived -/

/-- The words of an expression derive it, up to places, wherever they stand. -/
def Spelled (between : Reader.Construct → Nat) (e : Expr) : Prop :=
  ∀ (n : Nat) (place : Location), e.frames between ≤ n →
    ∃ e', e'.placeless = e.placeless ∧
      Derives between n (.expression e') (wordsTokens place (words e))

/-- The same for its words as the base of a suffix, which derive a primary
expression with suffixes. -/
def SpelledBase (between : Reader.Construct → Nat) (e : Expr) : Prop :=
  ∀ (n : Nat) (place : Location), Expr.base between (e.frames between) e ≤ n + 1 →
    ∃ e' base us vs, e'.placeless = e.placeless ∧
      wordsTokens place (wrap e (words e)) = us ++ vs ∧ Derives between n (.primary base) us ∧
      Derives between n (.suffixes base e') vs

variable {between : Reader.Construct → Nat}

theorem wrap_eq {e : Expr} (h : e.wrapped = false) (ws : List Word) : wrap e ws = ws := by
  cases e <;> first | rfl | cases h

theorem base_eq {e : Expr} (h : e.wrapped = false) (frames : Nat) :
    Expr.base between frames e = frames := by
  rw [Expr.base, if_neg (by simp [h])]

/-- All but functions are spelled as bases. -/
theorem SpelledBase.both {e : Expr} (hw : e.wrapped = false) (h : SpelledBase between e) :
    Spelled between e ∧ SpelledBase between e := by
  refine ⟨fun n place hn => ?_, h⟩
  obtain ⟨m, rfl⟩ := Nat.exists_eq_add_of_le' (Nat.le_trans (e.frames_pos between) hn)
  obtain ⟨e', base, us, vs, hplaceless, htokens, hbase, hsuffixes⟩ :=
    h m place (by rwa [base_eq hw])
  rw [wrap_eq hw] at htokens
  exact ⟨e', hplaceless, htokens ▸ .chain hbase hsuffixes⟩

/-- A primary expression that no suffix is put to. -/
theorem both_of_primary {e : Expr} (hw : e.wrapped = false)
    (h : ∀ (n : Nat) (place : Location), e.frames between ≤ n + 1 →
      ∃ e', e'.placeless = e.placeless ∧
        Derives between n (.primary e') (wordsTokens place (words e))) :
    Spelled between e ∧ SpelledBase between e := by
  refine SpelledBase.both hw fun n place hn => ?_
  rw [base_eq hw] at hn
  obtain ⟨e', hplaceless, hd⟩ := h n place hn
  rw [wrap_eq hw]
  exact ⟨e', e', _, [], hplaceless, (List.append_nil _).symm, hd, .noSuffix⟩

/-! ## Elements, entries and parameters -/

theorem spelled_moreWords {es : List Expr} {n : Nat} (h : ∀ e ∈ es, Spelled between e)
    (hn : ∀ e ∈ es, e.frames between ≤ n) (place : Location) :
    ∃ es', es'.map Expr.placeless = es.map Expr.placeless ∧
      Derives between n (.moreExpressions es') (wordsTokens place (moreWords es)) := by
  induction es generalizing place with
  | nil => exact ⟨[], rfl, .noMoreExpressions⟩
  | cons e es ih =>
      obtain ⟨he, hes⟩ := List.forall_mem_cons.mp h
      obtain ⟨hne, hnes⟩ := List.forall_mem_cons.mp hn
      simp only [moreWords, wordsTokens_plain, wordsTokens_append]
      obtain ⟨e', hplaceless, hd⟩ := he n _ hne
      obtain ⟨es', hplaceless', hd'⟩ := ih hes hnes _
      exact ⟨e' :: es', by simp [hplaceless, hplaceless'], .moreExpressions rfl hd hd'⟩

theorem spelled_elements {es : List Expr} {n : Nat} (h : ∀ e ∈ es, Spelled between e)
    (hn : ∀ e ∈ es, e.frames between ≤ n) (place : Location) :
    ∃ es', es'.map Expr.placeless = es.map Expr.placeless ∧
      Derives between n (.expressions es') (wordsTokens place (moreWords es).tail) := by
  cases es with
  | nil => exact ⟨[], rfl, .noExpressions⟩
  | cons e es =>
      obtain ⟨he, hes⟩ := List.forall_mem_cons.mp h
      obtain ⟨hne, hnes⟩ := List.forall_mem_cons.mp hn
      simp only [moreWords, List.tail_cons, wordsTokens_append]
      obtain ⟨e', hplaceless, hd⟩ := he n _ hne
      obtain ⟨es', hplaceless', hd'⟩ := spelled_moreWords hes hnes _
      exact ⟨e' :: es', by simp [hplaceless, hplaceless'], .someExpressions hd hd'⟩

theorem spelled_moreEntryWords {es : List (Expr × Expr)} {n : Nat}
    (hk : ∀ p ∈ es, Spelled between p.1) (hv : ∀ p ∈ es, Spelled between p.2)
    (hn : ∀ p ∈ es, p.1.frames between ≤ n ∧ p.2.frames between ≤ n) (place : Location) :
    ∃ es', es'.map (fun p => (p.1.placeless, p.2.placeless)) =
        es.map (fun p => (p.1.placeless, p.2.placeless)) ∧
      Derives between n (.moreEntries es') (wordsTokens place (moreEntryWords es)) := by
  induction es generalizing place with
  | nil => exact ⟨[], rfl, .noMoreEntries⟩
  | cons p es ih =>
      obtain ⟨hpk, hk⟩ := List.forall_mem_cons.mp hk
      obtain ⟨hpv, hv⟩ := List.forall_mem_cons.mp hv
      obtain ⟨hnp, hn⟩ := List.forall_mem_cons.mp hn
      simp only [moreEntryWords, wordsTokens_plain, wordsTokens_append]
      obtain ⟨k', hplacelessk, hdk⟩ := hpk n _ hnp.1
      obtain ⟨v', hplacelessv, hdv⟩ := hpv n _ hnp.2
      obtain ⟨es', hplaceless', hd'⟩ := ih hk hv hn _
      exact ⟨(k', v') :: es', by simp [hplacelessk, hplacelessv, hplaceless'],
        .moreEntries rfl hdk rfl hdv hd'⟩

theorem spelled_entries {es : List (Expr × Expr)} {n : Nat}
    (hk : ∀ p ∈ es, Spelled between p.1) (hv : ∀ p ∈ es, Spelled between p.2)
    (hn : ∀ p ∈ es, p.1.frames between ≤ n ∧ p.2.frames between ≤ n) (place : Location) :
    ∃ es', es'.map (fun p => (p.1.placeless, p.2.placeless)) =
        es.map (fun p => (p.1.placeless, p.2.placeless)) ∧
      Derives between n (.entries es') (wordsTokens place (moreEntryWords es).tail) := by
  cases es with
  | nil => exact ⟨[], rfl, .noEntries⟩
  | cons p es =>
      obtain ⟨hpk, hk⟩ := List.forall_mem_cons.mp hk
      obtain ⟨hpv, hv⟩ := List.forall_mem_cons.mp hv
      obtain ⟨hnp, hn⟩ := List.forall_mem_cons.mp hn
      simp only [moreEntryWords, List.tail_cons, wordsTokens_plain, wordsTokens_append]
      obtain ⟨k', hplacelessk, hdk⟩ := hpk n _ hnp.1
      obtain ⟨v', hplacelessv, hdv⟩ := hpv n _ hnp.2
      obtain ⟨es', hplaceless', hd'⟩ := spelled_moreEntryWords hk hv hn _
      exact ⟨(k', v') :: es', by simp [hplacelessk, hplacelessv, hplaceless'],
        .someEntries hdk rfl hdv hd'⟩

theorem wordsTokens_name (place : Location) (q : String) (ws : List Word) :
    wordsTokens place (nameWord q :: ws) =
      ⟨.identifier, q, place⟩ :: wordsTokens (place.advance (q.toList ++ [' '])) ws := by
  rw [nameWord, wordsTokens_plain,
    show tokenText .identifier q.toList = q from String.ofList_toList]

theorem spelled_names (q : String) (ps : List String) (place : Location) :
    Names (q :: ps) (wordsTokens place (nameWord q :: moreNames ps)) := by
  induction ps generalizing q place with
  | nil =>
      rw [wordsTokens_name]
      exact @Names.one ⟨.identifier, q, place⟩ rfl
  | cons p ps ih =>
      rw [wordsTokens_name]
      exact @Names.more ⟨.identifier, q, place⟩ ⟨.comma, _, _⟩ _ _ rfl rfl (ih p _)

theorem spelled_parameters (ps : List String) (place : Location) :
    Parameters ps (wordsTokens place (moreNames ps).tail) := by
  cases ps with
  | nil => exact .none
  | cons q ps => exact .some (spelled_names q ps place)

/-! ## All trees -/

/-- The finite numbers of a tree read back from their shortest texts. -/
def ReadsBack (e : Expr) : Prop :=
  ∀ l x, Expr.float l x ∈ e.nodes → x.isFinite = true →
    Numeral.readFloat? 0 x.text.toList = some x

theorem ReadsBack.of_subset {e d : Expr} (h : ReadsBack e) (hd : d.nodes ⊆ e.nodes) :
    ReadsBack d :=
  fun l x hx => h l x (hd hx)

theorem spelled_integer {l : Location} {n : Int} (hn : Grammar.FitsInt64 n) :
    Spelled between (.integer l n) ∧ SpelledBase between (.integer l n) := by
  refine both_of_primary rfl fun m place _ => ⟨.integer place n, rfl, ?_⟩
  have hvalue : signedValue (integerWord n).negative
      (String.ofList (integerWord n).source) = n := by
    simp only [integerWord, signedValue, String.toList_ofList, Decimal.ofDigitChars_digitsOf,
      decide_eq_true_eq]
    split <;> omega
  have hliteral : ∀ at', Literal (integerWord n).negative
      ⟨.integer, String.ofList (integerWord n).source, at'⟩ place (.integer place n) := by
    intro at'
    have h := @Literal.integer (integerWord n).negative
      ⟨.integer, String.ofList (integerWord n).source, at'⟩ place rfl
    rw [hvalue] at h
    exact h hn
  simp only [words, wordsTokens, Word.tokens, List.append_nil]
  cases hneg : (integerWord n).negative with
  | false =>
      rw [hneg] at hliteral
      exact .number (hliteral place)
  | true =>
      rw [hneg] at hliteral
      exact .negative rfl rfl (hliteral place.next)

theorem spelled_float {l : Location} {x : Binary64} (hx : x.isFinite = true)
    (hread : Numeral.readFloat? 0 x.text.toList = some x) :
    Spelled between (.float l x) ∧ SpelledBase between (.float l x) := by
  refine both_of_primary rfl fun m place _ => ⟨.float place x, rfl, ?_⟩
  obtain ⟨-, hkind, htext⟩ := fits_float hx
  have hliteral : ∀ at', Literal (floatWord x).negative
      ⟨.float, String.ofList (floatWord x).source, at'⟩ place (.float place x) := by
    intro at'
    refine .float rfl ?_ hx
    dsimp only
    rw [htext]
    exact hread
  simp only [words, wordsTokens, Word.tokens, List.append_nil, hkind]
  cases hneg : (floatWord x).negative with
  | false =>
      rw [hneg] at hliteral
      exact .number (hliteral place)
  | true =>
      rw [hneg] at hliteral
      exact .negative rfl rfl (hliteral place.next)

/-- The words of a well-formed tree derive it. -/
theorem WellFormed.spelled {e : Expr} (h : e.WellFormed) (hread : ReadsBack e) :
    Spelled between e ∧ SpelledBase between e := by
  induction h with
  | @string l v =>
      have htext : tokenText .string ('\'' :: (doubled v.toList ++ ['\''])) = v := by
        change String.ofList (unquoteTail (doubled v.toList ++ ['\''])) = v
        rw [unquoteTail_doubled, String.ofList_toList]
      refine both_of_primary rfl fun m place _ => ⟨.string place v, rfl, ?_⟩
      rw [words, wordsTokens_plain, htext]
      exact @Derives.string between m ⟨.string, v, place⟩ rfl
  | integer hn => exact spelled_integer hn
  | @float l x hx => exact spelled_float hx (hread l x (Expr.self_mem_nodes _) hx)
  | @name l w hw =>
      refine both_of_primary rfl fun m place _ => ⟨.name place w, rfl, ?_⟩
      rw [words, wordsTokens_name]
      exact @Derives.name between m ⟨.identifier, w, place⟩ rfl
  | @member l b w hb hw ih =>
      obtain ⟨-, hbase⟩ := ih (hread.of_subset fun d hd => by simp [Expr.nodes, hd])
      refine SpelledBase.both rfl fun n place hn => ?_
      obtain ⟨b', base, us, vs, hplaceless, htokens, hd, hs⟩ := hbase n place hn
      rw [wrap_eq rfl, words, wordsTokens_append, htokens, wordsTokens_plain, wordsTokens_name]
      refine ⟨.member _ b' w, base, us, _, ?_, List.append_assoc .., hd,
        hs.then_suffixes (.member rfl rfl .noSuffix)⟩
      rw [Expr.placeless_member, Expr.placeless_member, hplaceless]
  | @index l b k hb hk ihb ihk =>
      obtain ⟨-, hbase⟩ := ihb (hread.of_subset fun d hd => by simp [Expr.nodes, hd])
      obtain ⟨hkey, -⟩ := ihk (hread.of_subset fun d hd => by simp [Expr.nodes, hd])
      refine SpelledBase.both rfl fun n place hn => ?_
      obtain ⟨hnb, hnk⟩ := Nat.max_le.mp hn
      obtain ⟨b', base, us, vs, hplaceless, htokens, hd, hs⟩ := hbase n place hnb
      have hwrap : ∀ ws, wrap (.index l b k) ws = ws := wrap_eq rfl
      simp only [hwrap, words, wordsTokens_append, htokens, wordsTokens_plain]
      obtain ⟨k', hplacelessk, hdk⟩ := hkey _ _ (Expr.around_le.mp hnk)
      refine ⟨.index _ b' k', base, us, _, ?_, List.append_assoc .., hd,
        hs.then_suffixes (.index rfl hdk rfl .noSuffix)⟩
      rw [Expr.placeless_index, Expr.placeless_index, hplaceless, hplacelessk]
  | @call l f es hf hes ihf ihes =>
      obtain ⟨-, hbase⟩ := ihf (hread.of_subset fun d hd => by simp [Expr.nodes, hd])
      refine SpelledBase.both rfl fun n place hn => ?_
      obtain ⟨hnf, hnes⟩ := Nat.max_le.mp hn
      obtain ⟨f', base, us, vs, hplaceless, htokens, hd, hs⟩ := hbase n place hnf
      have hwrap : ∀ ws, wrap (.call l f es) ws = ws := wrap_eq rfl
      simp only [hwrap, words, wordsTokens_append, htokens, wordsTokens_plain]
      have hspelled : ∀ e ∈ es, Spelled between e := fun e he => (ihes e he (hread.of_subset
        fun d hd => by simp [Expr.nodes, Expr.subset_nodesAll he hd])).1
      obtain ⟨es', hplaceless', hdes⟩ := spelled_elements hspelled
        (Expr.framesAll_le.mp (Expr.around_le.mp hnes)) _
      refine ⟨.call _ f' es', base, us, _, ?_, List.append_assoc .., hd,
        hs.then_suffixes (.call rfl hdes rfl .noSuffix)⟩
      rw [Expr.placeless_call, Expr.placeless_call, hplaceless, hplaceless']
  | @choice l c a b hc ha hb ihc iha ihb =>
      obtain ⟨hc, -⟩ := ihc (hread.of_subset fun d hd => by simp [Expr.nodes, hd])
      obtain ⟨ha, -⟩ := iha (hread.of_subset fun d hd => by simp [Expr.nodes, hd])
      obtain ⟨hb, -⟩ := ihb (hread.of_subset fun d hd => by simp [Expr.nodes, hd])
      refine both_of_primary rfl fun n place hn => ?_
      obtain ⟨hnc, hnab⟩ := Nat.max_le.mp (Expr.around_le.mp hn)
      obtain ⟨hna, hnb⟩ := Nat.max_le.mp hnab
      simp only [words, wordsTokens_append, wordsTokens_plain]
      obtain ⟨c', hplacelessc, hdc⟩ := hc _ _ hnc
      obtain ⟨a', hplacelessa, hda⟩ := ha _ _ hna
      obtain ⟨b', hplacelessb, hdb⟩ := hb _ _ hnb
      refine ⟨.choice _ c' a' b', ?_, .choice rfl rfl hdc rfl hda rfl hdb rfl⟩
      rw [Expr.placeless_choice, Expr.placeless_choice, hplacelessc, hplacelessa, hplacelessb]
  | @list l es hes ih =>
      refine both_of_primary rfl fun n place hn => ?_
      have hspelled : ∀ e ∈ es, Spelled between e := fun e he => (ih e he (hread.of_subset
        fun d hd => by simp [Expr.nodes, Expr.subset_nodesAll he hd])).1
      simp only [words, wordsTokens_append, wordsTokens_plain]
      obtain ⟨es', hplaceless, hd⟩ := spelled_elements hspelled
        (Expr.framesAll_le.mp (Expr.around_le.mp hn)) _
      refine ⟨.list _ es', ?_, .list rfl hd rfl⟩
      rw [Expr.placeless_list, Expr.placeless_list, hplaceless]
  | @dictionary l es hk hv ihk ihv =>
      refine both_of_primary rfl fun n place hn => ?_
      have hspelledk : ∀ p ∈ es, Spelled between p.1 := fun p hp => (ihk p hp (hread.of_subset
        fun d hd => by simp [Expr.nodes, (Expr.subset_nodesEntries hp).1 hd])).1
      have hspelledv : ∀ p ∈ es, Spelled between p.2 := fun p hp => (ihv p hp (hread.of_subset
        fun d hd => by simp [Expr.nodes, (Expr.subset_nodesEntries hp).2 hd])).1
      simp only [words, wordsTokens_append, wordsTokens_plain]
      obtain ⟨es', hplaceless, hd⟩ := spelled_entries hspelledk hspelledv
        (Expr.framesEntries_le.mp (Expr.around_le.mp hn)) _
      refine ⟨.dictionary _ es', ?_, .dictionary rfl hd rfl⟩
      rw [Expr.placeless_dictionary, Expr.placeless_dictionary, hplaceless]
  | @function l ps b hps hd hb ih =>
      obtain ⟨hbody, -⟩ := ih (hread.of_subset fun d hd => by simp [Expr.nodes, hd])
      have hspelled : Spelled between (.function l ps b) := by
        intro n place hn
        obtain ⟨m, rfl⟩ := Nat.exists_eq_add_of_le' (Nat.le_trans (Expr.frames_pos between _) hn)
        simp only [words, wordsTokens_append, wordsTokens_plain]
        obtain ⟨b', hplaceless, hdb⟩ := hbody _ _ (Expr.around_le.mp hn)
        refine ⟨.function _ ps b', ?_, .function rfl rfl (spelled_parameters ps _) hd rfl rfl hdb⟩
        rw [Expr.placeless_function, Expr.placeless_function, hplaceless]
      refine ⟨hspelled, fun n place hn => ?_⟩
      -- the parentheses around a function take frames of their own
      change Expr.around (between .group) _ ≤ _ at hn
      simp only [wrap, wordsTokens_append, wordsTokens_plain]
      obtain ⟨e', hplaceless, hde⟩ := hspelled _ _ (Expr.around_le.mp hn)
      exact ⟨e', e', _, [], hplaceless, (List.append_nil _).symm, .group rfl hde rfl, .noSuffix⟩

/-! ## Templates -/

/-- The text of expressions: each between the marks, its words with blanks. -/
def text (es : List Expr) : List Char :=
  es.flatMap fun e => openingMark ++ (wordsText (words e) ++ closingMark)

/-- The integers among words that are read back are short. -/
theorem wordsTokens_short {ws : List Word} (h : ∀ w ∈ ws, w.Fits) (place : Location) :
    ∀ t ∈ wordsTokens place ws, t.kind = .integer → t.text.length ≤ Numeral.digitLimit := by
  induction ws generalizing place with
  | nil => exact fun _ h => nomatch h
  | cons w ws ih =>
      obtain ⟨hw, hws⟩ := List.forall_mem_cons.mp h
      have hshort : ∀ at', w.kind = .integer →
          (Token.mk w.kind (tokenText w.kind w.source) at').text.length ≤ Numeral.digitLimit := by
        intro at' hk
        have hlen := hw.short hk
        rw [hk]
        simpa [tokenText] using hlen
      refine List.forall_mem_append.mpr ⟨?_, ih hws _⟩
      unfold Word.tokens
      split
      · exact List.forall_mem_cons.mpr ⟨by simp, List.forall_mem_singleton.mpr (hshort _)⟩
      · exact List.forall_mem_singleton.mpr (hshort _)

/-- The tokens of expressions in a text, up to its end, derive them. -/
theorem tokensFrom_text {es : List Expr} {n : Nat} (hes : ∀ e ∈ es, e.WellFormed)
    (hread : ∀ e ∈ es, ReadsBack e) (hn : ∀ e ∈ es, e.frames between ≤ n) (place : Location) :
    ∃ (es' : List Expr) (body : List Token) (last : Token),
      es'.map Expr.placeless = es.map Expr.placeless ∧
      (tokensFrom .plain place (text es)).tokens = body ++ [last] ∧ last.kind = .ending ∧
      Derives between n (.block es') body ∧
      ∀ t ∈ body, t.kind = .integer → t.text.length ≤ Numeral.digitLimit := by
  induction es generalizing place with
  | nil =>
      refine ⟨[], [], ⟨.ending, "", place⟩, rfl, ?_, rfl, .noChildren, by simp⟩
      rw [text, List.flatMap_nil, tokensFrom_nil]
      rfl
  | cons e es ih =>
      obtain ⟨he, hes⟩ := List.forall_mem_cons.mp hes
      obtain ⟨hreade, hread⟩ := List.forall_mem_cons.mp hread
      obtain ⟨hne, hn⟩ := List.forall_mem_cons.mp hn
      have hshape : text (e :: es) =
          openingMark ++ (wordsText (words e) ++ (closingMark ++ text es)) := by
        simp [text]
      have hfits := fits_words he
      rw [hshape, tokensFrom_opening, tokensFrom_words hfits, tokensFrom_closing]
      obtain ⟨e', hplaceless, hd⟩ := (WellFormed.spelled he hreade).1 n
        (place.advance openingMark) hne
      obtain ⟨es', body, last, hplaceless', htokens, hlast, hd', hshort⟩ := ih hes hread hn
        (((place.advance openingMark).advance (wordsText (words e))).advance closingMark)
      refine ⟨e' :: es', _, last, by simp [hplaceless, hplaceless'], ?_, hlast,
        @Derives.expressionChild between n ⟨.opening, String.ofList openingMark, place⟩
          ⟨.closing, String.ofList closingMark,
            (place.advance openingMark).advance (wordsText (words e))⟩
          e' es' _ body rfl hd rfl hd', ?_⟩
      · simp [Lexed.cons, prepend, htokens]
      · refine List.forall_mem_cons.mpr ⟨by simp, List.forall_mem_append.mpr
          ⟨wordsTokens_short hfits _, List.forall_mem_cons.mpr ⟨by simp, hshort⟩⟩⟩

end Spelling

namespace Expr

theorem WellFormed.relocate (f : Location → Location) {e : Expr} (h : e.WellFormed) :
    (e.relocate f).WellFormed := by
  induction h with
  | string => exact .string
  | integer hn => exact .integer hn
  | float hx => exact .float hx
  | name hw => exact .name hw
  | member _ hw ih => exact .member ih hw
  | index _ _ ihb ihk => exact .index ihb ihk
  | call _ _ ihg ihes =>
      rw [Expr.relocate, relocateAll_eq]
      exact .call ihg (List.forall_mem_map.mpr ihes)
  | choice _ _ _ ihc iha ihb => exact .choice ihc iha ihb
  | list _ ih =>
      rw [Expr.relocate, relocateAll_eq]
      exact .list (List.forall_mem_map.mpr ih)
  | dictionary _ _ ihk ihv =>
      rw [Expr.relocate, relocateEntries_eq]
      exact .dictionary (List.forall_mem_map.mpr ihk) (List.forall_mem_map.mpr ihv)
  | function hps hd _ ih => exact .function hps hd ih

end Expr

end Inlay
