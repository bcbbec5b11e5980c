import Inlay.Number.Display
import Inlay.Proofs.Relexing
import Inlay.Proofs.WellFormed

/-!
# Spelling trees

Every well-formed tree has a text. It is spelled word by word with a blank
after each, a minus touching the number that it belongs to, and parentheses
only around a function that a suffix is put to, so that the text nests exactly
as deep as the tree. Reading the words back gives their tokens
(`tokensFrom_words`), and from these the grammar derives the tree again, at
other places (`WellFormed.spelled`).
-/

namespace Inlay

namespace Spelling

open Grammar Lexer

/-! ## Words -/

/-- A lexeme, with the minus that may touch it. -/
structure Word where
  negative : Bool
  kind : TokenKind
  source : List Char

namespace Word

/-- A lexeme without a minus. -/
def plain (kind : TokenKind) (source : List Char) : Word := ⟨false, kind, source⟩

def text (w : Word) : List Char :=
  if w.negative then '-' :: (w.source ++ [' ']) else w.source ++ [' ']

def tokens (place : Location) (w : Word) : List Token :=
  if w.negative then
    [⟨.minus, "-", place⟩, ⟨w.kind, tokenText w.kind w.source, place.next⟩]
  else [⟨w.kind, tokenText w.kind w.source, place⟩]

/-- A word that is read back: a lexeme other than the closing mark, a number if
a minus touches it, and not too long if it is an integer. -/
structure Fits (w : Word) : Prop where
  lexeme : Lexeme w.kind w.source
  inside : w.kind ≠ .closing
  number : w.negative = true → ∃ c more, w.source = c :: more ∧ isDigit c = true
  short : w.kind = .integer → w.source.length ≤ Numeral.digitLimit

end Word

def wordsText (ws : List Word) : List Char := ws.flatMap Word.text

def wordsTokens (place : Location) : List Word → List Token
  | [] => []
  | w :: ws => w.tokens place ++ wordsTokens (place.advance w.text) ws

theorem wordsText_cons (w : Word) (ws : List Word) :
    wordsText (w :: ws) = w.text ++ wordsText ws := rfl

theorem wordsTokens_append (place : Location) (ws vs : List Word) :
    wordsTokens place (ws ++ vs) =
      wordsTokens place ws ++ wordsTokens (place.advance (wordsText ws)) vs := by
  induction ws generalizing place with
  | nil => rfl
  | cons w ws ih =>
      rw [List.cons_append, wordsTokens, ih, wordsTokens, List.append_assoc, wordsText_cons,
        Location.advance_append]

theorem wordsTokens_plain (place : Location) (kind : TokenKind) (source : List Char)
    (ws : List Word) :
    wordsTokens place (Word.plain kind source :: ws) =
      ⟨kind, tokenText kind source, place⟩ ::
        wordsTokens (place.advance (source ++ [' '])) ws := rfl

def prepend (ts : List Token) (r : Lexed) : Lexed := { r with tokens := ts ++ r.tokens }

theorem Word.Fits.tokensFrom {w : Word} (h : w.Fits) (place : Location) (rest : List Char) :
    Lexer.tokensFrom .expression place (w.text ++ rest) =
      prepend (w.tokens place) (Lexer.tokensFrom .expression (place.advance w.text) rest) := by
  have hlexeme := tokensFrom_lexeme (b := ' ') rfl h.lexeme h.inside
  cases hn : w.negative with
  | false =>
      simp only [Word.text, Word.tokens, hn, Bool.false_eq_true, if_false]
      rw [List.append_assoc, List.singleton_append, hlexeme, Location.advance_append]
      rfl
  | true =>
      obtain ⟨c, more, hsource, hc⟩ := h.number hn
      have hminus := tokensFrom_minus hc place (more ++ ' ' :: rest)
      rw [← List.cons_append, ← hsource, hlexeme] at hminus
      simp only [Word.text, Word.tokens, hn, if_true]
      rw [List.cons_append, List.append_assoc, List.singleton_append, hminus,
        ← List.cons_append, Location.advance_append]
      rfl

/-- Words are read back as their tokens. -/
theorem tokensFrom_words {ws : List Word} (h : ∀ w ∈ ws, w.Fits) (place : Location)
    (rest : List Char) :
    tokensFrom .expression place (wordsText ws ++ rest) =
      prepend (wordsTokens place ws)
        (tokensFrom .expression (place.advance (wordsText ws)) rest) := by
  induction ws generalizing place with
  | nil => rfl
  | cons w ws ih =>
      obtain ⟨hw, hws⟩ := List.forall_mem_cons.mp h
      rw [wordsText_cons, List.append_assoc, hw.tokensFrom, ih hws, Location.advance_append]
      simp only [prepend, wordsTokens, List.append_assoc]

/-! ## Spelled expressions -/

def integerWord (n : Int) : Word := ⟨decide (n < 0), .integer, Decimal.digitsOf n.natAbs⟩

/-- The word of a floating-point number: its shortest text, with the minus taken
off. -/
def floatWord (x : Binary64) : Word :=
  match x.text.toList with
  | '-' :: more => ⟨true, .float, more⟩
  | cs => ⟨false, .float, cs⟩

def nameWord (w : String) : Word := .plain .identifier w.toList

/-- Parameters with a comma before each. -/
def moreNames (ps : List String) : List Word :=
  ps.flatMap fun q => [.plain .comma [','], nameWord q]

/-- Words with the parentheses that a function needs under a suffix. -/
def wrap (e : Expr) (ws : List Word) : List Word :=
  match e with
  | .function .. => .plain .leftParen ['('] :: (ws ++ [.plain .rightParen [')']])
  | _ => ws

mutual

def words : Expr → List Word
  | .string _ v => [.plain .string ('\'' :: (doubled v.toList ++ ['\'']))]
  | .integer _ n => [integerWord n]
  | .float _ x => [floatWord x]
  | .name _ w => [nameWord w]
  | .member _ b w => wrap b (words b) ++ [.plain .dot ['.'], nameWord w]
  | .index _ b k =>
    wrap b (words b) ++ .plain .leftBracket ['['] :: (words k ++ [.plain .rightBracket [']']])
  | .call _ f es =>
    wrap f (words f) ++
      .plain .leftParen ['('] :: ((moreWords es).tail ++ [.plain .rightParen [')']])
  | .choice _ c a b =>
    .plain .ifWord ['i', 'f'] :: .plain .leftParen ['('] ::
      (words c ++ .plain .comma [','] ::
        (words a ++ .plain .comma [','] :: (words b ++ [.plain .rightParen [')']])))
  | .list _ es =>
    .plain .leftBracket ['['] :: ((moreWords es).tail ++ [.plain .rightBracket [']']])
  | .dictionary _ es =>
    .plain .leftBrace ['\x7b'] :: ((moreEntryWords es).tail ++ [.plain .rightBrace ['\x7d']])
  | .function _ ps b =>
    .plain .fnWord ['f', 'n'] :: .plain .leftParen ['('] ::
      ((moreNames ps).tail ++
        .plain .rightParen [')'] :: .plain .arrow ['-', '>'] :: words b)

/-- The words of elements, with a comma before each. -/
def moreWords : List Expr → List Word
  | [] => []
  | e :: es => .plain .comma [','] :: (words e ++ moreWords es)

/-- The words of entries, with a comma before each. -/
def moreEntryWords : List (Expr × Expr) → List Word
  | [] => []
  | (k, v) :: es =>
    .plain .comma [','] :: (words k ++ .plain .colon [':'] :: (words v ++ moreEntryWords es))

end

/-! ## Words that are read back -/

theorem fits_sign {c : Char} {kind : TokenKind} (h : signKind? c = some kind) :
    (Word.plain kind [c]).Fits := by
  have hne := signKind?_ne h
  refine ⟨.sign h, hne.2.2.1, (fun h => nomatch h), fun hk => ?_⟩
  dsimp only [Word.plain] at hk
  subst hk
  unfold signKind? at h
  split at h <;> cases h

theorem fits_wordKind {c : Char} {more : List Char} (hc : isWordStart c = true)
    (hm : ∀ d ∈ more, isWordPart d = true) :
    (Word.plain (wordKind (c :: more)) (c :: more)).Fits := by
  refine ⟨.word hc hm, ?_, (fun h => nomatch h), fun hk => ?_⟩
  · rcases wordKind_cases (c :: more) with h | h | h <;> simp [Word.plain, h]
  · dsimp only [Word.plain] at hk
    rcases wordKind_cases (c :: more) with h | h | h <;> rw [h] at hk <;> cases hk

theorem fits_if : (Word.plain .ifWord ['i', 'f']).Fits :=
  @fits_wordKind 'i' ['f'] (by decide) (List.forall_mem_singleton.mpr (by decide))

theorem fits_fn : (Word.plain .fnWord ['f', 'n']).Fits :=
  @fits_wordKind 'f' ['n'] (by decide) (List.forall_mem_singleton.mpr (by decide))

theorem fits_arrow : (Word.plain .arrow ['-', '>']).Fits :=
  ⟨.arrow, by simp [Word.plain], (fun h => nomatch h), by simp [Word.plain]⟩

theorem fits_name {w : String} (h : IsName w) : (nameWord w).Fits := by
  obtain ⟨⟨c, more, hw, hc, hm⟩, hif, hfn⟩ := h
  have hkind : wordKind (c :: more) = .identifier := by
    unfold wordKind
    rw [if_neg, if_neg]
    · intro h
      exact hfn (String.toList_inj.mp (hw.trans h))
    · intro h
      exact hif (String.toList_inj.mp (hw.trans h))
  rw [nameWord, hw, ← hkind]
  exact fits_wordKind hc hm

theorem fits_integer {n : Int} (h : Grammar.FitsInt64 n) : (integerWord n).Fits := by
  obtain ⟨hleast, hmost⟩ := h
  have hd := Decimal.isDigits_digitsOf n.natAbs
  refine ⟨.integer hd, by simp [integerWord], fun _ => ?_, fun _ => ?_⟩
  · obtain ⟨c, more, heq⟩ := List.exists_cons_of_ne_nil hd.1
    exact ⟨c, more, heq, hd.2 c (heq ▸ List.mem_cons_self ..)⟩
  · exact Decimal.length_digitsOf_le (by omega)

theorem fits_string (v : String) :
    (Word.plain .string ('\'' :: (doubled v.toList ++ ['\'']))).Fits :=
  ⟨.string _, by simp [Word.plain], (fun h => nomatch h), by simp [Word.plain]⟩

/-! ## Floating-point numbers -/

theorem isDigits_append {xs ys : List Char} (hx : IsDigits xs) (hy : ∀ d ∈ ys, isDigit d = true) :
    IsDigits (xs ++ ys) :=
  ⟨by simp [hx.1], fun d hd => (List.mem_append.mp hd).elim (hx.2 d) (hy d)⟩

theorem replicate_digits (n : Nat) : ∀ d ∈ List.replicate n '0', isDigit d = true := by
  intro d hd
  rw [List.eq_of_mem_replicate hd]
  rfl

theorem exponentText_power (exponent : Int) : IsPower (Decimal.exponentText 'e' exponent) := by
  have hdigits := Decimal.isDigits_digitsOf exponent.natAbs
  have hpadded : IsDigits (List.replicate (2 - (Decimal.digitsOf exponent.natAbs).length) '0' ++
      Decimal.digitsOf exponent.natAbs) :=
    ⟨by simp [hdigits.1], fun d hd =>
      (List.mem_append.mp hd).elim (replicate_digits _ d) (hdigits.2 d)⟩
  refine .signed (.inl rfl) ?_ hpadded
  split
  · exact .inr rfl
  · exact .inl rfl

theorem positional_lexeme {digits : List Char} (hd : IsDigits digits) (before : Int) :
    Lexeme .float (Decimal.positional digits before ['.', '0']) := by
  have hfloat : ∀ {whole fraction : List Char}, IsDigits whole →
      (∀ d ∈ fraction, isDigit d = true) → Lexeme .float (whole ++ '.' :: fraction) := by
    intro whole fraction hw hf
    simpa using Lexeme.float hw (.point hf) .none (.inl (by simp))
  unfold Decimal.positional
  split
  · have hzero : IsDigits ['0'] := ⟨by simp, by simp; rfl⟩
    have hpadded : ∀ d ∈ List.replicate (-before).toNat '0' ++ digits, isDigit d = true :=
      fun d hd' => (List.mem_append.mp hd').elim (replicate_digits _ d) (hd.2 d)
    rw [List.append_assoc]
    exact hfloat hzero hpadded
  · rename_i hbefore
    dsimp only
    split
    · exact hfloat (isDigits_append hd (replicate_digits _)) (by simp; rfl)
    · rw [List.append_assoc]
      refine hfloat ⟨?_, fun d hd' => hd.2 d (List.mem_of_mem_take hd')⟩
        fun d hd' => hd.2 d (List.mem_of_mem_drop hd')
      have hpos : before.toNat ≠ 0 := by omega
      simp [hpos, hd.1]

theorem scientific_lexeme {digits : List Char} (hd : IsDigits digits) (exponent : Int) :
    Lexeme .float (Decimal.scientific 'e' digits exponent) := by
  have hpower := exponentText_power exponent
  have hne : Decimal.exponentText 'e' exponent ≠ [] := by simp [Decimal.exponentText]
  unfold Decimal.scientific
  split
  · exact absurd rfl hd.1
  · simpa using Lexeme.float hd .none hpower (.inr hne)
  · rename_i d more _
    have hone : IsDigits [d] := ⟨by simp, by simpa using hd.2 d (List.mem_cons_self ..)⟩
    simpa using Lexeme.float hone
      (.point fun c hc => hd.2 c (List.mem_cons_of_mem d hc)) hpower (.inr hne)

theorem magnitude_lexeme (significand place : Nat) :
    Lexeme .float (Binary64.magnitudeText significand place) := by
  unfold Binary64.magnitudeText
  dsimp only
  split
  · exact positional_lexeme (Decimal.isDigits_digitsOf _) _
  · exact scientific_lexeme (Decimal.isDigits_digitsOf _) _

/-- A float starts with a digit. -/
theorem float_head {s : List Char} (h : Lexeme .float s) :
    ∃ c more, s = c :: more ∧ isDigit c = true := by
  generalize hk : TokenKind.float = kind at h
  cases h with
  | float hw hf hp hne =>
      obtain ⟨c, more, rfl⟩ := List.exists_cons_of_ne_nil hw.1
      exact ⟨c, _, rfl, hw.2 c (List.mem_cons_self ..)⟩
  | word hc hm => rcases wordKind_cases _ with h | h | h <;> rw [h] at hk <;> cases hk
  | sign hc =>
      subst hk
      unfold signKind? at hc
      split at hc <;> cases hc
  | _ => cases hk

/-- The word of a finite number is read back, and with its minus it is the
number's text. -/
theorem fits_float {x : Binary64} (hx : x.isFinite = true) :
    (floatWord x).Fits ∧ (floatWord x).kind = .float ∧
      signed (floatWord x).negative (String.ofList (floatWord x).source) = x.text := by
  cases x with
  | nan | infinite => cases hx
  | finite negative significand place fits =>
      have hlexeme := magnitude_lexeme significand place
      obtain ⟨c, more, heq, hc⟩ := float_head hlexeme
      have htext : (Binary64.finite negative significand place fits).text.toList =
          if negative then '-' :: Binary64.magnitudeText significand place
          else Binary64.magnitudeText significand place := String.toList_ofList
      have hword : floatWord (.finite negative significand place fits) =
          ⟨negative, .float, Binary64.magnitudeText significand place⟩ := by
        unfold floatWord
        rw [htext]
        cases negative with
        | true => rfl
        | false =>
            have hne : c ≠ '-' := Numeral.digit_ne hc (by decide)
            rw [if_neg (by decide), heq]
            split
            · rename_i h
              exact absurd (List.cons.inj h).1 hne
            · rfl
      rw [hword]
      refine ⟨⟨hlexeme, by simp, fun _ => ⟨c, more, heq, hc⟩, by simp⟩, rfl, ?_⟩
      cases negative with
      | false => rfl
      | true =>
          refine String.toList_inj.mp ?_
          simp [signed, Binary64.text]

/-! ## All words of a tree -/

theorem fits_wrap {e : Expr} {ws : List Word} (h : ∀ w ∈ ws, w.Fits) :
    ∀ w ∈ wrap e ws, w.Fits := by
  unfold wrap
  split
  · exact List.forall_mem_cons.mpr ⟨fits_sign rfl, List.forall_mem_append.mpr
      ⟨h, List.forall_mem_singleton.mpr (fits_sign rfl)⟩⟩
  · exact h

theorem fits_moreNames {ps : List String} (h : ∀ q ∈ ps, IsName q) :
    ∀ w ∈ moreNames ps, w.Fits := by
  intro w hw
  obtain ⟨q, hq, hw⟩ := List.mem_flatMap.mp hw
  rcases List.mem_cons.mp hw with rfl | hw
  · exact fits_sign rfl
  · rw [List.mem_singleton.mp hw]
    exact fits_name (h q hq)

theorem fits_moreWords {es : List Expr} (h : ∀ e ∈ es, ∀ w ∈ words e, w.Fits) :
    ∀ w ∈ moreWords es, w.Fits := by
  induction es with
  | nil => exact fun _ h => nomatch h
  | cons e es ih =>
      obtain ⟨he, hes⟩ := List.forall_mem_cons.mp h
      rw [moreWords]
      exact List.forall_mem_cons.mpr ⟨fits_sign rfl, List.forall_mem_append.mpr ⟨he, ih hes⟩⟩

theorem fits_moreEntryWords {es : List (Expr × Expr)} (hk : ∀ p ∈ es, ∀ w ∈ words p.1, w.Fits)
    (hv : ∀ p ∈ es, ∀ w ∈ words p.2, w.Fits) : ∀ w ∈ moreEntryWords es, w.Fits := by
  induction es with
  | nil => exact fun _ h => nomatch h
  | cons p es ih =>
      obtain ⟨hpk, hk⟩ := List.forall_mem_cons.mp hk
      obtain ⟨hpv, hv⟩ := List.forall_mem_cons.mp hv
      rw [moreEntryWords]
      exact List.forall_mem_cons.mpr ⟨fits_sign rfl, List.forall_mem_append.mpr ⟨hpk,
        List.forall_mem_cons.mpr ⟨fits_sign rfl, List.forall_mem_append.mpr ⟨hpv, ih hk hv⟩⟩⟩⟩

/-- All words of a well-formed tree are read back. -/
theorem fits_words {e : Expr} (h : e.WellFormed) : ∀ w ∈ words e, w.Fits := by
  have hsign : ∀ {c : Char} {kind : TokenKind}, signKind? c = some kind →
      ∀ w ∈ [Word.plain kind [c]], w.Fits := fun h =>
    List.forall_mem_singleton.mpr (fits_sign h)
  have htail : ∀ {ws : List Word}, (∀ w ∈ ws, w.Fits) → ∀ w ∈ ws.tail, w.Fits :=
    fun h w hw => h w (List.mem_of_mem_tail hw)
  induction h with
  | string => exact List.forall_mem_singleton.mpr (fits_string _)
  | integer hn => exact List.forall_mem_singleton.mpr (fits_integer hn)
  | float hx => exact List.forall_mem_singleton.mpr (fits_float hx).1
  | name hw => exact List.forall_mem_singleton.mpr (fits_name hw)
  | member hb hw ih =>
      rw [words]
      exact List.forall_mem_append.mpr ⟨fits_wrap ih, List.forall_mem_cons.mpr
        ⟨fits_sign rfl, List.forall_mem_singleton.mpr (fits_name hw)⟩⟩
  | index hb hk ihb ihk =>
      rw [words]
      exact List.forall_mem_append.mpr ⟨fits_wrap ihb, List.forall_mem_cons.mpr
        ⟨fits_sign rfl, List.forall_mem_append.mpr ⟨ihk, hsign rfl⟩⟩⟩
  | call hf hes ihf ihes =>
      rw [words]
      exact List.forall_mem_append.mpr ⟨fits_wrap ihf, List.forall_mem_cons.mpr
        ⟨fits_sign rfl, List.forall_mem_append.mpr ⟨htail (fits_moreWords ihes), hsign rfl⟩⟩⟩
  | choice hc ha hb ihc iha ihb =>
      rw [words]
      exact List.forall_mem_cons.mpr ⟨fits_if, List.forall_mem_cons.mpr ⟨fits_sign rfl,
        List.forall_mem_append.mpr ⟨ihc, List.forall_mem_cons.mpr ⟨fits_sign rfl,
          List.forall_mem_append.mpr ⟨iha, List.forall_mem_cons.mpr ⟨fits_sign rfl,
            List.forall_mem_append.mpr ⟨ihb, hsign rfl⟩⟩⟩⟩⟩⟩⟩
  | list hes ih =>
      rw [words]
      exact List.forall_mem_cons.mpr ⟨fits_sign rfl,
        List.forall_mem_append.mpr ⟨htail (fits_moreWords ih), hsign rfl⟩⟩
  | dictionary hk hv ihk ihv =>
      rw [words]
      exact List.forall_mem_cons.mpr ⟨fits_sign rfl,
        List.forall_mem_append.mpr ⟨htail (fits_moreEntryWords ihk ihv), hsign rfl⟩⟩
  | function hps hd hb ih =>
      rw [words]
      exact List.forall_mem_cons.mpr ⟨fits_fn, List.forall_mem_cons.mpr ⟨fits_sign rfl,
        List.forall_mem_append.mpr ⟨htail (fits_moreNames hps), List.forall_mem_cons.mpr
          ⟨fits_sign rfl, List.forall_mem_cons.mpr ⟨fits_arrow, ih⟩⟩⟩⟩⟩

end Spelling

end Inlay
