import Inlay.Proofs.Lexing

/-!
# Lexemes read back

A lexeme with a blank behind it, of any sort, is read as itself, whatever comes after
the blank: each of them is the longest of its kind there. Text that is written with
a blank after every lexeme thus has exactly the tokens that it was written
from. The one pair that is written without a blank is a minus and its number.

Some lexemes need less than a blank behind them: a sign needs nothing
(`tokensFrom_sign`), and a string only that no other quote follows (`tokensFrom_string`).
-/

namespace Inlay

namespace Lexer

/-! ## Numbers -/

theorem takeWhile_blank {b : Char} {p : Char → Bool} {xs : List Char}
    (hx : ∀ c ∈ xs, p c = true) (hp : p b = false) (rest : List Char) :
    (xs ++ b :: rest).takeWhile p = xs := by
  rw [List.takeWhile_append_of_pos hx, List.takeWhile_cons_of_neg (by simp [hp]), List.append_nil]

theorem digit_range {c : Char} (h : isDigit c = true) : 48 ≤ c.toNat ∧ c.toNat ≤ 57 := by
  simp only [isDigit, Bool.and_eq_true, decide_eq_true_eq] at h
  exact h

theorem wordStart_range {c : Char} (h : isWordStart c = true) :
    (97 ≤ c.toNat ∧ c.toNat ≤ 122) ∨ (65 ≤ c.toNat ∧ c.toNat ≤ 90) ∨ c.toNat = 95 ∨
      c.toNat = 36 := by
  simp only [isWordStart, Bool.or_eq_true, Bool.and_eq_true, decide_eq_true_eq, beq_iff_eq] at h
  rcases h with ((h | h) | rfl) | rfl
  · exact .inl h
  · exact .inr (.inl h)
  · exact .inr (.inr (.inl rfl))
  · exact .inr (.inr (.inr rfl))

theorem digit_not_wordStart {c : Char} (h : isDigit c = true) : isWordStart c = false := by
  have h1 := digit_range h
  by_contra hw
  have h2 := wordStart_range (Bool.not_eq_false _ ▸ hw)
  omega

/-- The blanks one by one. -/
theorem isGap_iff {b : Char} : isGap b = true ↔ b = ' ' ∨ b = '\t' ∨ b = '\r' ∨ b = '\n' := by
  simp [isGap, or_assoc]

/-- An exponent takes all digits behind its mark. -/
theorem exponent_unsigned {mark : Char} {digits : List Char} (hm : mark = 'e' ∨ mark = 'E')
    (hd : IsDigits digits) (rest : List Char) :
    exponent (mark :: (digits ++ rest)) = mark :: (digits ++ rest.takeWhile isDigit) := by
  obtain ⟨hne, hall⟩ := hd
  obtain ⟨d, ds, rfl⟩ := List.exists_cons_of_ne_nil hne
  have hrange := digit_range (hall d (List.mem_cons_self ..))
  have hsign : (d == '+' || d == '-') = false := by
    simp only [Bool.or_eq_false_iff, beq_eq_false_iff_ne]
    constructor <;> rintro rfl <;> revert hrange <;> decide
  have hmark : (mark == 'e' || mark == 'E') = true := by simpa using hm
  have hrun : (d :: (ds ++ rest)).takeWhile isDigit = d :: (ds ++ rest.takeWhile isDigit) :=
    List.takeWhile_append_of_pos hall
  simp only [exponent, List.cons_append, hmark, hsign, hrun, if_true]
  rfl

theorem exponent_signed {mark sign : Char} {digits : List Char} (hm : mark = 'e' ∨ mark = 'E')
    (hs : sign = '+' ∨ sign = '-') (hd : IsDigits digits) (rest : List Char) :
    exponent (mark :: sign :: (digits ++ rest)) =
      mark :: sign :: (digits ++ rest.takeWhile isDigit) := by
  have hmark : (mark == 'e' || mark == 'E') = true := by simpa using hm
  have hsign : (sign == '+' || sign == '-') = true := by simpa using hs
  have hrun : (digits ++ rest).takeWhile isDigit = digits ++ rest.takeWhile isDigit :=
    List.takeWhile_append_of_pos hd.2
  have hempty : (digits ++ rest.takeWhile isDigit).isEmpty = false := by simp [hd.1]
  simp only [exponent, hmark, hsign, hrun, hempty, if_true]
  rfl

section

variable {b : Char} (hb : isGap b = true)
include hb

theorem isDigit_blank : isDigit b = false := by
  rcases isGap_iff.mp hb with rfl | rfl | rfl | rfl <;> rfl

/-- A power that nothing lengthens is found whole. -/
theorem exponent_blank {power : List Char} (h : IsPower power) (rest : List Char) :
    exponent (power ++ b :: rest) = power := by
  have hstop : (b :: rest).takeWhile isDigit = [] :=
    List.takeWhile_cons_of_neg (by simp [isDigit_blank hb])
  cases h with
  | none => rcases isGap_iff.mp hb with rfl | rfl | rfl | rfl <;> rfl
  | unsigned hm hd =>
      rw [List.cons_append, exponent_unsigned hm hd, hstop, List.append_nil]
  | signed hm hs hd =>
      rw [List.cons_append, List.cons_append, exponent_signed hm hs hd, hstop, List.append_nil]

/-- What may follow the digits of a number does not go on with a digit. -/
theorem takeWhile_power {digits power : List Char} (hd : ∀ d ∈ digits, isDigit d = true)
    (hp : IsPower power) (rest : List Char) :
    (digits ++ (power ++ b :: rest)).takeWhile isDigit = digits := by
  have hmark : ∀ {mark : Char} {more : List Char}, mark = 'e' ∨ mark = 'E' →
      (mark :: more).takeWhile isDigit = [] := by
    rintro mark more (rfl | rfl) <;> exact List.takeWhile_cons_of_neg (by decide)
  rw [List.takeWhile_append_of_pos hd]
  cases hp with
  | none =>
      rw [List.nil_append, List.takeWhile_cons_of_neg (by simp [isDigit_blank hb]),
        List.append_nil]
  | unsigned hm => rw [List.cons_append, hmark hm, List.append_nil]
  | signed hm => rw [List.cons_append, hmark hm, List.append_nil]

theorem takeWhile_fraction {whole fraction power : List Char}
    (hw : ∀ d ∈ whole, isDigit d = true) (hf : IsFraction fraction) (hp : IsPower power)
    (rest : List Char) :
    (whole ++ (fraction ++ (power ++ b :: rest))).takeWhile isDigit = whole := by
  cases hf with
  | none => exact takeWhile_power hb hw hp rest
  | point hd =>
      rw [List.takeWhile_append_of_pos hw, List.cons_append,
        List.takeWhile_cons_of_neg (by decide), List.append_nil]

theorem fractionOf_blank {fraction power : List Char} (hf : IsFraction fraction)
    (hp : IsPower power) (rest : List Char) :
    fractionOf (fraction ++ (power ++ b :: rest)) = fraction := by
  cases hf with
  | none =>
      cases hp with
      | none => rcases isGap_iff.mp hb with rfl | rfl | rfl | rfl <;> rfl
      | unsigned hm => rcases hm with rfl | rfl <;> rfl
      | signed hm => rcases hm with rfl | rfl <;> rfl
  | point hd =>
      rw [List.cons_append, fractionOf, takeWhile_power hb hd hp]

/-- A number is read whole. -/
theorem number_blank {whole fraction power : List Char} (hw : ∀ d ∈ whole, isDigit d = true)
    (hf : IsFraction fraction) (hp : IsPower power) (rest : List Char) :
    number (whole ++ fraction ++ power ++ b :: rest) =
      (if fraction.isEmpty && power.isEmpty then .integer else .float,
        whole ++ fraction ++ power) := by
  obtain ⟨w, f, p, hw', hf', hp', heq⟩ := number_eq (whole ++ fraction ++ power ++ b :: rest)
  rw [List.append_assoc, List.append_assoc, takeWhile_fraction hb hw hf hp] at hw'
  subst hw'
  rw [List.append_assoc, List.append_assoc, List.drop_left, fractionOf_blank hb hf hp] at hf'
  subst hf'
  rw [List.append_assoc, List.append_assoc, List.drop_left, List.drop_left,
    exponent_blank hb hp] at hp'
  subst hp'
  exact heq

end

/-! ## Lexemes -/

/-- A quote that no other follows closes the string. -/
theorem quotedTail_doubled {b : Char} (hb : b ≠ '\'') (v rest : List Char) :
    quotedTail (doubled v ++ '\'' :: b :: rest) = some (doubled v ++ ['\'']) := by
  induction v with
  | nil => exact quotedTail.eq_3 (b :: rest) fun _ h => hb (List.cons.inj h).1
  | cons c v ih =>
      by_cases hc : c = '\''
      · subst hc
        rw [doubled_cons_quote, List.cons_append, List.cons_append, quotedTail, ih]
        rfl
      · rw [doubled_cons hc, List.cons_append, quotedTail.eq_4, ih]
        · rfl
        · intro _ h _
          exact hc h
        · intro h
          exact hc h

theorem not_closing {c : Char} (h : c ≠ '%') (rest : List Char) :
    closingMark.isPrefixOf (c :: rest) = false := by
  simp [closingMark, List.isPrefixOf, h.symm]

theorem wordStart_ne {c d : Char} (h : isWordStart c = true) (hd : isWordStart d = false) :
    c ≠ d := by
  rintro rfl
  rw [h] at hd
  cases hd

theorem lexeme_word {c : Char} (hc : isWordStart c = true) (rest : List Char) :
    lexeme c rest =
      .ok (wordKind (c :: rest.takeWhile isWordPart), rest.takeWhile isWordPart) := by
  have hclose := not_closing (wordStart_ne hc (d := '%') (by decide)) rest
  simp only [lexeme, hclose, hc, if_true]
  rfl

theorem lexeme_digit {c : Char} (hc : isDigit c = true) (rest : List Char) :
    lexeme c rest = .ok (number rest) := by
  have hclose : closingMark.isPrefixOf (c :: rest) = false := by
    refine not_closing ?_ rest
    rintro rfl
    cases hc
  simp only [lexeme, hclose, digit_not_wordStart hc, hc, if_true]
  rfl

theorem lexeme_string {b : Char} (hb : b ≠ '\'') (v rest : List Char) :
    lexeme '\'' (doubled v ++ '\'' :: b :: rest) = .ok (.string, doubled v ++ ['\'']) := by
  have hword : isWordStart '\'' = false := by decide
  have hdigit : isDigit '\'' = false := by decide
  simp only [lexeme, hword, hdigit, quotedTail_doubled hb v rest]
  rfl

theorem lexeme_sign {c : Char} {kind : TokenKind} (hc : signKind? c = some kind)
    (rest : List Char) : lexeme c rest = .ok (kind, []) := by
  unfold signKind? at hc
  split at hc <;> cases hc <;> rfl

/-- A lexeme with a blank behind it is read as itself. -/
theorem lexeme_blank {b : Char} (hb : isGap b = true) {kind : TokenKind} {c : Char}
    {more : List Char} (h : Lexeme kind (c :: more)) (rest : List Char) :
    lexeme c (more ++ b :: rest) = .ok (kind, more) := by
  generalize hs : c :: more = source at h
  cases h with
  | closing =>
      obtain ⟨rfl, rfl⟩ := List.cons.inj hs
      rfl
  | word hc hm =>
      obtain ⟨rfl, rfl⟩ := List.cons.inj hs
      have hword : isWordPart b = false := by
        rcases isGap_iff.mp hb with rfl | rfl | rfl | rfl <;> rfl
      rw [lexeme_word hc, takeWhile_blank hm hword rest]
  | integer hd =>
      subst hs
      have hmore : ∀ d ∈ more, isDigit d = true := fun d hd' =>
        hd.2 d (List.mem_cons_of_mem c hd')
      have hn := number_blank hb hmore .none .none rest
      rw [List.append_nil, List.append_nil] at hn
      rw [lexeme_digit (hd.2 c (List.mem_cons_self ..)), hn]
      rfl
  | @float whole fraction power hw hf hp hne =>
      obtain ⟨hwne, hall⟩ := hw
      obtain ⟨d, ds, rfl⟩ := List.exists_cons_of_ne_nil hwne
      obtain ⟨rfl, rfl⟩ := List.cons.inj hs
      have hmore : ∀ d ∈ ds, isDigit d = true := fun d hd => hall d (List.mem_cons_of_mem c hd)
      have hkind : (fraction.isEmpty && power.isEmpty) = false := by
        rcases hne with h | h <;> simp [h]
      have hn := number_blank hb hmore hf hp rest
      rw [hkind] at hn
      rw [lexeme_digit (hall c (List.mem_cons_self ..))]
      exact congrArg Except.ok hn
  | string v =>
      obtain ⟨rfl, rfl⟩ := List.cons.inj hs
      rw [List.append_assoc]
      refine lexeme_string ?_ v rest
      rintro rfl
      cases hb
  | arrow =>
      obtain ⟨rfl, rfl⟩ := List.cons.inj hs
      rfl
  | minus =>
      obtain ⟨rfl, rfl⟩ := List.cons.inj hs
      rcases isGap_iff.mp hb with rfl | rfl | rfl | rfl <;> rfl
  | sign hc =>
      obtain ⟨rfl, rfl⟩ := List.cons.inj hs
      exact lexeme_sign hc (b :: rest)

/-- A minus is read as one before a digit. -/
theorem lexeme_minus {c : Char} (hc : isDigit c = true) (rest : List Char) :
    lexeme '-' (c :: rest) = .ok (.minus, []) := by
  have hne : c ≠ '>' := by
    rintro rfl
    cases hc
  have hclose := not_closing (c := '-') (by decide) (c :: rest)
  have hword : isWordStart '-' = false := by decide
  have hdigit : isDigit '-' = false := by decide
  have hhead : (c :: rest).head? ≠ some '>' := by simpa using hne
  simp only [lexeme, hclose, hword, hdigit, if_neg hhead]
  rfl

/-- No lexeme starts with a blank. -/
theorem Lexeme.not_gap {kind : TokenKind} {c : Char} {more : List Char}
    (h : Lexeme kind (c :: more)) : isGap c = false := by
  have hdigit : isDigit c = true → isGap c = false := by
    intro hc
    by_contra hgap
    rcases isGap_iff.mp (Bool.not_eq_false _ ▸ hgap) with rfl | rfl | rfl | rfl <;> cases hc
  generalize hs : c :: more = source at h
  cases h with
  | word hc hm =>
      obtain ⟨rfl, rfl⟩ := List.cons.inj hs
      by_contra hgap
      rcases isGap_iff.mp (Bool.not_eq_false _ ▸ hgap) with rfl | rfl | rfl | rfl <;> cases hc
  | integer hd =>
      subst hs
      exact hdigit (hd.2 c (List.mem_cons_self ..))
  | float hw hf hp hne =>
      obtain ⟨hwne, hall⟩ := hw
      obtain ⟨d, ds, rfl⟩ := List.exists_cons_of_ne_nil hwne
      obtain ⟨rfl, -⟩ := List.cons.inj hs
      exact hdigit (hall c (List.mem_cons_self ..))
  | sign hc =>
      obtain ⟨rfl, rfl⟩ := List.cons.inj hs
      unfold signKind? at hc
      split at hc <;> cases hc <;> rfl
  | _ =>
      obtain ⟨rfl, -⟩ := List.cons.inj hs
      rfl

/-! ## Readings of lexemes -/

/-- The lexeme that a text starts with, and what is read behind it. -/
theorem tokensFrom_step {c : Char} {more rest : List Char} {kind : TokenKind}
    (hgap : ¬ isGap c = true) (h : lexeme c (more ++ rest) = .ok (kind, more))
    (place : Location) :
    tokensFrom .expression place (c :: (more ++ rest)) =
      Lexed.cons ⟨kind, tokenText kind (c :: more), place⟩
        (tokensFrom (modeAfter kind) (place.advance (c :: more)) rest) := by
  rw [tokensFrom, if_neg hgap, h]
  dsimp only
  rw [List.drop_left]

theorem modeAfter_inside {kind : TokenKind} (hk : kind ≠ .closing) :
    modeAfter kind = .expression := by
  cases kind <;> first | rfl | exact absurd rfl hk

/-- One lexeme and the blank behind it. -/
theorem tokensFrom_lexeme {b : Char} (hb : isGap b = true) {kind : TokenKind} {source : List Char}
    (h : Lexeme kind source) (hk : kind ≠ .closing) (place : Location) (rest : List Char) :
    tokensFrom .expression place (source ++ b :: rest) =
      Lexed.cons ⟨kind, tokenText kind source, place⟩
        (tokensFrom .expression ((place.advance source).after b) rest) := by
  obtain ⟨c, more, rfl⟩ := List.exists_cons_of_ne_nil h.ne_nil
  have hstep := tokensFrom_step (by simp [h.not_gap]) (lexeme_blank hb h rest) place
  rw [modeAfter_inside hk, tokensFrom_gap hb] at hstep
  exact hstep

/-- A minus that touches a digit. -/
theorem tokensFrom_minus {c : Char} (hc : isDigit c = true) (place : Location)
    (rest : List Char) :
    tokensFrom .expression place ('-' :: c :: rest) =
      Lexed.cons ⟨.minus, "-", place⟩ (tokensFrom .expression (place.after '-') (c :: rest)) := by
  rw [tokensFrom]
  simp only [lexeme_minus hc]
  rfl

/-- A sign, whatever follows. -/
theorem tokensFrom_sign {c : Char} {kind : TokenKind} (hc : signKind? c = some kind)
    (place : Location) (rest : List Char) :
    tokensFrom .expression place (c :: rest) =
      Lexed.cons ⟨kind, String.ofList [c], place⟩
        (tokensFrom .expression (place.advance [c]) rest) := by
  have hgap : ¬ isGap c = true := by simp [(Lexeme.sign hc).not_gap]
  have hlexeme : lexeme c ([] ++ rest) = .ok (kind, []) := lexeme_sign hc rest
  have hstep := tokensFrom_step hgap hlexeme place
  unfold signKind? at hc
  split at hc <;> cases hc <;> exact hstep

/-- A string that no quote follows. -/
theorem tokensFrom_string {b : Char} (hb : b ≠ '\'') (v : List Char) (place : Location)
    (rest : List Char) :
    tokensFrom .expression place ('\'' :: (doubled v ++ '\'' :: b :: rest)) =
      Lexed.cons ⟨.string, String.ofList v, place⟩
        (tokensFrom .expression (place.advance ('\'' :: (doubled v ++ ['\'']))) (b :: rest)) := by
  have hlexeme := lexeme_string hb v rest
  rw [List.append_cons] at hlexeme ⊢
  rw [tokensFrom_step (by decide) hlexeme place, tokenText, List.drop_one, List.tail_cons,
    unquoteTail_doubled]
  rfl

theorem tokensFrom_opening (place : Location) (rest : List Char) :
    tokensFrom .plain place (openingMark ++ rest) =
      Lexed.cons ⟨.opening, String.ofList openingMark, place⟩
        (tokensFrom .expression (place.advance openingMark) rest) := by
  have hplain : plainText ('<' :: '%' :: '=' :: rest) = [] := by
    rw [plainText]
    exact if_pos rfl
  rw [openingMark, List.cons_append, List.cons_append, List.cons_append, List.nil_append,
    tokensFrom]
  simp only [hplain]
  rfl

theorem tokensFrom_closing (place : Location) (rest : List Char) :
    tokensFrom .expression place (closingMark ++ rest) =
      Lexed.cons ⟨.closing, String.ofList closingMark, place⟩
        (tokensFrom .plain (place.advance closingMark) rest) := by
  rw [closingMark, List.cons_append, List.cons_append, List.nil_append, tokensFrom]
  rfl

end Lexer

end Inlay
