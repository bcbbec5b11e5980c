import Mathlib.Computability.RegularExpressions
import Inlay.Proofs.Lossless
import Inlay.Proofs.Places
import Inlay.Proofs.Relexing

/-!
# Words and numbers are as long as they can be

The words and the numbers of expressions are two regular languages (`wordPattern`,
`numberPattern`). The lexer decides where one ends by the next character, and at an
exponent by two more. That takes the longest prefix of the text that is in the
language: of two such prefixes the longer one says which characters follow the parts
of the shorter one, and so where the lexer stopped (`number_longest`).

Every token inside an expression is the lexeme at its place (`exists_lexeme`), and
where the lexer gives up there is neither a word nor a number (`exists_refused`).
-/

namespace Inlay

namespace Lexer

/-! ## The patterns -/

section

open RegularExpression

/-- The characters from one to another. -/
def between (first last : Char) : List Char :=
  (List.range' first.toNat (last.toNat + 1 - first.toNat)).map Char.ofNat

/-- What a word may start with. -/
def letters : List Char := between 'a' 'z' ++ between 'A' 'Z' ++ ['_', '$']

/-- What numbers are written with. -/
def digits : List Char := between '0' '9'

/-- One of some characters. -/
def anyOf (cs : List Char) : RegularExpression Char := (cs.map char).sum

/-- Any number of some characters. -/
def manyOf (cs : List Char) : RegularExpression Char := star (anyOf cs)

/-- The pattern, or nothing. -/
def optional (p : RegularExpression Char) : RegularExpression Char := 1 + p

/-- The pattern `[A-Za-z_$][A-Za-z0-9_$]*` of words. -/
def wordPattern : RegularExpression Char := anyOf letters * manyOf (letters ++ digits)

/-- The pattern `[0-9]+(\.[0-9]*)?([eE][+-]?[0-9]+)?` of numbers. -/
def numberPattern : RegularExpression Char :=
  anyOf digits * manyOf digits * optional (char '.' * manyOf digits) *
    optional (anyOf ['e', 'E'] * optional (anyOf ['+', '-']) * (anyOf digits * manyOf digits))

end

theorem mem_between {first last c : Char} (h : last.toNat < 0xd800) :
    c ∈ between first last ↔ first ≤ c ∧ c ≤ last := by
  simp only [between, List.mem_map, List.mem_range'_1]
  change _ ↔ first.toNat ≤ c.toNat ∧ c.toNat ≤ last.toNat
  constructor
  · rintro ⟨n, ⟨hfirst, hlast⟩, rfl⟩
    have hvalid : n.isValidChar := .inl (by omega)
    have hn : (Char.ofNat n).toNat = n := by
      rw [Char.ofNat, dif_pos hvalid]
      rfl
    omega
  · rintro ⟨hfirst, hlast⟩
    exact ⟨c.toNat, by omega, Char.ofNat_toNat c⟩

theorem mem_letters {c : Char} : c ∈ letters ↔ isWordStart c = true := by
  simp [letters, isWordStart, mem_between, or_assoc]

theorem mem_digits {c : Char} : c ∈ digits ↔ isDigit c = true := by
  simp [digits, isDigit, mem_between]

theorem matches_anyOf {cs s : List Char} : s ∈ (anyOf cs).matches' ↔ ∃ c ∈ cs, s = [c] := by
  induction cs with
  | nil => simp [anyOf]
  | cons c cs ih =>
      rw [List.exists_mem_cons_iff, ← ih]
      exact Iff.rfl

theorem matches_manyOf {cs s : List Char} : s ∈ (manyOf cs).matches' ↔ ∀ c ∈ s, c ∈ cs := by
  rw [manyOf, RegularExpression.matches'_star, Language.mem_kstar]
  constructor
  · rintro ⟨parts, rfl, hparts⟩ c hc
    obtain ⟨part, hpart, hc⟩ := List.mem_flatten.mp hc
    obtain ⟨d, hd, rfl⟩ := matches_anyOf.mp (hparts part hpart)
    rwa [List.mem_singleton.mp hc]
  · intro hs
    refine ⟨s.map ([·]), by simp [← List.flatMap_def], fun part hpart => ?_⟩
    obtain ⟨c, hc, rfl⟩ := List.mem_map.mp hpart
    exact matches_anyOf.mpr ⟨c, hs c hc, rfl⟩

theorem matches_mul {p q : RegularExpression Char} {s : List Char} :
    s ∈ (p * q).matches' ↔ ∃ a ∈ p.matches', ∃ b ∈ q.matches', a ++ b = s := by
  rw [RegularExpression.matches'_mul, Language.mem_mul]

theorem matches_optional {p : RegularExpression Char} {s : List Char} :
    s ∈ (optional p).matches' ↔ s = [] ∨ s ∈ p.matches' := by
  rw [optional, RegularExpression.matches'_add, Language.mem_add]
  exact Iff.rfl

theorem matches_word {s : List Char} : s ∈ wordPattern.matches' ↔
    ∃ c more, s = c :: more ∧ isWordStart c = true ∧ ∀ d ∈ more, isWordPart d = true := by
  have hpart : ∀ d, d ∈ letters ++ digits ↔ isWordPart d = true := fun d => by
    rw [List.mem_append, mem_letters, mem_digits, isWordPart, Bool.or_eq_true]
  simp only [wordPattern, matches_mul, matches_anyOf, matches_manyOf, hpart, mem_letters]
  constructor
  · rintro ⟨_, ⟨c, hc, rfl⟩, more, hmore, rfl⟩
    exact ⟨c, more, rfl, hc, hmore⟩
  · rintro ⟨c, more, rfl, hc, hmore⟩
    exact ⟨[c], ⟨c, hc, rfl⟩, more, hmore, rfl⟩

theorem matches_digits {s : List Char} :
    s ∈ (anyOf digits * manyOf digits).matches' ↔ IsDigits s := by
  simp only [matches_mul, matches_anyOf, matches_manyOf, mem_digits, IsDigits]
  constructor
  · rintro ⟨_, ⟨c, hc, rfl⟩, more, hmore, rfl⟩
    exact ⟨by simp, List.forall_mem_cons.mpr ⟨hc, hmore⟩⟩
  · rintro ⟨hne, hs⟩
    obtain ⟨c, more, rfl⟩ := List.exists_cons_of_ne_nil hne
    obtain ⟨hc, hmore⟩ := List.forall_mem_cons.mp hs
    exact ⟨[c], ⟨c, hc, rfl⟩, more, hmore, rfl⟩

theorem matches_fraction {s : List Char} :
    s ∈ (optional (.char '.' * manyOf digits)).matches' ↔ IsFraction s := by
  simp only [matches_optional, matches_mul, matches_manyOf, mem_digits]
  constructor
  · rintro (rfl | ⟨_, rfl, ds, hds, rfl⟩)
    · exact .none
    · exact .point hds
  · rintro (_ | hds)
    · exact .inl rfl
    · exact .inr ⟨['.'], rfl, _, hds, rfl⟩

theorem matches_power {s : List Char} :
    s ∈ (optional (anyOf ['e', 'E'] * optional (anyOf ['+', '-']) *
      (anyOf digits * manyOf digits))).matches' ↔ IsPower s := by
  rw [matches_optional, matches_mul]
  simp only [matches_digits]
  simp only [matches_mul, matches_optional, matches_anyOf, List.mem_cons, List.not_mem_nil,
    or_false]
  constructor
  · rintro (rfl | ⟨_, ⟨_, ⟨mark, hm, rfl⟩, _, (rfl | ⟨sign, hs, rfl⟩), rfl⟩, ds, hds, rfl⟩)
    · exact .none
    · exact .unsigned hm hds
    · exact .signed hm hs hds
  · rintro (_ | ⟨hm, hds⟩ | ⟨hm, hs, hds⟩)
    · exact .inl rfl
    · exact .inr ⟨_, ⟨_, ⟨_, hm, rfl⟩, [], .inl rfl, rfl⟩, _, hds, rfl⟩
    · exact .inr ⟨_, ⟨_, ⟨_, hm, rfl⟩, _, .inr ⟨_, hs, rfl⟩, rfl⟩, _, hds, rfl⟩

theorem matches_number {s : List Char} : s ∈ numberPattern.matches' ↔
    ∃ whole fraction power, s = whole ++ fraction ++ power ∧ IsDigits whole ∧
      IsFraction fraction ∧ IsPower power := by
  rw [numberPattern, matches_mul]
  simp only [matches_power]
  constructor
  · rintro ⟨_, hfront, power, hp, rfl⟩
    obtain ⟨whole, hw, fraction, hf, rfl⟩ := matches_mul.mp hfront
    exact ⟨whole, fraction, power, rfl, matches_digits.mp hw, matches_fraction.mp hf, hp⟩
  · rintro ⟨whole, fraction, power, rfl, hw, hf, hp⟩
    have hfront := matches_mul.mpr
      ⟨whole, matches_digits.mpr hw, fraction, matches_fraction.mpr hf, rfl⟩
    exact ⟨_, hfront, power, hp, rfl⟩

/-! ## The longest prefixes -/

/-- A prefix of a text that a pattern matches, and no longer one is. -/
structure LongestMatch (p : RegularExpression Char) (s cs : List Char) : Prop where
  matched : s ∈ p.matches'
  initial : s <+: cs
  longest : ∀ s', s' ∈ p.matches' → s' <+: cs → s'.length ≤ s.length

variable {cs : List Char}

theorem takeWhile_initial {p : Char → Bool} {xs : List Char} (hxs : ∀ c ∈ xs, p c = true)
    (h : xs <+: cs) : xs <+: cs.takeWhile p := by
  obtain ⟨rest, rfl⟩ := h
  rw [List.takeWhile_append_of_pos hxs]
  exact List.prefix_append ..

theorem word_longest {c : Char} (hc : isWordStart c = true) (rest : List Char) :
    LongestMatch wordPattern (c :: rest.takeWhile isWordPart) (c :: rest) where
  matched := matches_word.mpr ⟨c, _, rfl, hc, fun _ hd => List.mem_takeWhile_imp hd⟩
  initial := List.prefix_cons_inj c |>.mpr (List.takeWhile_prefix _)
  longest s' hs' hpre := by
    obtain ⟨d, more, rfl, -, hmore⟩ := matches_word.mp hs'
    have hrun := takeWhile_initial hmore (List.cons_prefix_cons.mp hpre).2
    exact Nat.succ_le_succ hrun.length_le

/-- A run of digits with something behind it that starts with no digit: either that is
nothing or the run is the whole run that the text starts with. -/
theorem run_initial {ds tail more : List Char} (hds : ∀ d ∈ ds, isDigit d = true)
    (htail : ∀ d ∈ tail.head?, isDigit d = false) (h : ds ++ tail <+: cs)
    (hmore : tail <+: cs.drop (cs.takeWhile isDigit).length → tail <+: more) :
    ds ++ tail <+: cs.takeWhile isDigit ++ more := by
  cases tail with
  | nil =>
      rw [List.append_nil] at h ⊢
      exact (takeWhile_initial hds h).trans (List.prefix_append ..)
  | cons d tail =>
      obtain ⟨rest, rfl⟩ := h
      have hrun : (ds ++ d :: tail ++ rest).takeWhile isDigit = ds := by
        rw [List.append_assoc]
        exact takeWhile_blank hds (htail d rfl) (tail ++ rest)
      rw [hrun, List.append_assoc, List.drop_left] at hmore
      rw [hrun]
      exact (List.prefix_append_right_inj ds).mpr (hmore (List.prefix_append ..))

theorem IsPower.head {power : List Char} (h : IsPower power) :
    ∀ d ∈ power.head?, d = 'e' ∨ d = 'E' := by
  rcases h with _ | ⟨hm, -⟩ | ⟨hm, -, -⟩ <;> simp [*]

theorem IsPower.head_not_digit {power : List Char} (h : IsPower power) :
    ∀ d ∈ power.head?, isDigit d = false := by
  intro d hd
  rcases h.head d hd with rfl | rfl <;> rfl

theorem power_initial {power : List Char} (h : IsPower power) (hpre : power <+: cs) :
    power <+: exponent cs := by
  obtain ⟨rest, rfl⟩ := hpre
  cases h with
  | none => exact List.nil_prefix
  | unsigned hm hd =>
      rw [List.cons_append, exponent_unsigned hm hd]
      exact List.prefix_cons_inj _ |>.mpr (List.prefix_append ..)
  | signed hm hs hd =>
      rw [List.cons_append, List.cons_append, exponent_signed hm hs hd]
      exact List.prefix_cons_inj _ |>.mpr (List.prefix_cons_inj _ |>.mpr (List.prefix_append ..))

/-- What of a text belongs to a number behind its whole part. -/
def numberTail (cs : List Char) : List Char :=
  fractionOf cs ++ exponent (cs.drop (fractionOf cs).length)

theorem number_tail (rest : List Char) : (number rest).2 =
    rest.takeWhile isDigit ++ numberTail (rest.drop (rest.takeWhile isDigit).length) := by
  obtain ⟨whole, fraction, power, rfl, rfl, rfl, heq⟩ := number_eq rest
  rw [heq, numberTail, ← List.append_assoc]

theorem tail_initial {fraction power : List Char} (hf : IsFraction fraction) (hp : IsPower power)
    (hpre : fraction ++ power <+: cs) : fraction ++ power <+: numberTail cs := by
  cases hf with
  | none =>
      cases power with
      | nil => exact List.nil_prefix
      | cons mark more =>
          obtain ⟨rest, rfl⟩ := hpre
          have hpower := power_initial hp (List.prefix_append _ rest)
          -- no fraction starts with the mark of an exponent
          rcases hp.head mark rfl with rfl | rfl <;> exact hpower
  | point hds =>
      obtain ⟨rest, rfl⟩ := hpre
      have hrun := run_initial hds hp.head_not_digit (List.prefix_append _ rest)
        (power_initial hp)
      exact List.prefix_cons_inj '.' |>.mpr hrun

/-- A point or the mark of an exponent is in a number. -/
def HasMark (s : List Char) : Prop := '.' ∈ s ∨ 'e' ∈ s ∨ 'E' ∈ s

instance (s : List Char) : Decidable (HasMark s) := inferInstanceAs (Decidable (_ ∨ _))

theorem Lexeme.matches_number {kind : TokenKind} {s : List Char} (h : Lexeme kind s)
    (hk : kind = .integer ∨ kind = .float) :
    s ∈ numberPattern.matches' ∧ kind = if HasMark s then .float else .integer := by
  cases h with
  | integer hds =>
      have hmark : ¬ HasMark s := by
        rintro (h | h | h) <;> cases hds.2 _ h
      exact ⟨Lexer.matches_number.mpr ⟨s, [], [], by simp, hds, .none, .none⟩, (if_neg hmark).symm⟩
  | @float whole fraction power hw hf hp hne =>
      refine ⟨Lexer.matches_number.mpr ⟨whole, fraction, power, rfl, hw, hf, hp⟩, (if_pos ?_).symm⟩
      rcases hne with hne | hne
      · obtain _ | hds := hf
        · exact absurd rfl hne
        · exact .inl (by simp)
      · obtain ⟨mark, more, rfl⟩ := List.exists_cons_of_ne_nil hne
        rcases hp.head mark rfl with rfl | rfl
        · exact .inr (.inl (by simp))
        · exact .inr (.inr (by simp))
  | @word c more =>
      rcases wordKind_cases (c :: more) with h | h | h <;> simp [h] at hk
  | sign hc =>
      unfold signKind? at hc
      split at hc <;> cases hc <;> simp at hk
  | _ => simp at hk

theorem number_longest {c : Char} (hc : isDigit c = true) (rest : List Char) :
    LongestMatch numberPattern (c :: (number rest).2) (c :: rest) where
  matched := ((number_sound hc rest).1.matches_number (number_kind rfl)).1
  initial := List.prefix_cons_inj c |>.mpr (number_sound hc rest).2
  longest s' hs' hpre := by
    obtain ⟨whole, fraction, power, rfl, ⟨hne, hw⟩, hf, hp⟩ := matches_number.mp hs'
    obtain ⟨d, ds, rfl⟩ := List.exists_cons_of_ne_nil hne
    rw [List.append_assoc] at hpre ⊢
    have hhead : ∀ x ∈ (fraction ++ power).head?, isDigit x = false := by
      obtain _ | hds := hf
      · exact hp.head_not_digit
      · rintro _ ⟨⟩
        rfl
    have hrun := run_initial (List.forall_mem_cons.mp hw).2 hhead
      (List.cons_prefix_cons.mp hpre).2 (tail_initial hf hp)
    rw [← number_tail] at hrun
    exact Nat.succ_le_succ hrun.length_le

-- a mark and a sign without a digit behind them are left
example : number ['2', '.', '5', 'e', '-', 'x'] = (.float, ['2', '.', '5']) := by decide

/-! ## Tokens and faults where they are read -/

/-- In a text that starts at a place, a character stands at another one, and some text
behind it. Only one beginning of the text leads there (`Location.eq_of_advance`). -/
def StandsIn (place : Location) (cs : List Char) (l : Location) (c : Char) (rest : List Char) :
    Prop :=
  ∃ front, cs = front ++ c :: rest ∧ l = place.advance front

theorem StandsIn.first (place : Location) (c : Char) (rest : List Char) :
    StandsIn place (c :: rest) place c rest :=
  ⟨[], rfl, rfl⟩

theorem StandsIn.behind {place l : Location} {cs rest : List Char} {c : Char}
    (source : List Char) (h : StandsIn (place.advance source) cs l c rest) :
    StandsIn place (source ++ cs) l c rest := by
  obtain ⟨front, rfl, rfl⟩ := h
  exact ⟨source ++ front, (List.append_assoc ..).symm, (Location.advance_append ..).symm⟩

/-- Every token of an expression is the lexeme at its place. -/
theorem exists_lexeme {mode : Mode} {place : Location} {cs : List Char}
    {before after : List Token} {t : Token}
    (h : (tokensFrom mode place cs).tokens = before ++ t :: after)
    (hmode : mode.through before = .expression) (hk : t.kind ≠ .ending) :
    ∃ c rest more, StandsIn place cs t.location c rest ∧
      lexeme c rest = .ok (t.kind, more) ∧ t.text = tokenText t.kind (c :: more) := by
  fun_induction tokensFrom mode place cs generalizing before with
  | case1 =>
      cases before with
      | nil =>
          obtain ⟨rfl, -⟩ := List.cons.inj h
          exact absurd rfl hk
      | cons => simp at h
  | @case2 place c rest plain hempty after' ih =>
      cases before with
      | nil => cases hmode
      | cons u before =>
          obtain ⟨rfl, htail⟩ := List.cons.inj h
          obtain ⟨d, behind, more, hstands, hlexeme⟩ := ih htail hmode
          rw [eq_mark_of_plainText (List.isEmpty_iff.mp hempty)]
          exact ⟨d, behind, more, hstands.behind openingMark, hlexeme⟩
  | @case3 place c rest plain hempty ih =>
      rw [drop_plainText fun hnil => hempty (List.isEmpty_iff.mpr hnil)] at ih h
      cases before with
      | nil => cases hmode
      | cons u before =>
          obtain ⟨rfl, htail⟩ := List.cons.inj h
          obtain ⟨d, behind, more, hstands, hlexeme⟩ := ih htail hmode
          rw [← plainText_append_drop (c :: rest)]
          exact ⟨d, behind, more, hstands.behind plain, hlexeme⟩
  | case4 place c rest hgap ih =>
      obtain ⟨d, behind, more, hstands, hlexeme⟩ := ih h hmode
      exact ⟨d, behind, more, hstands.behind [c], hlexeme⟩
  | case5 => simp at h
  | @case6 place c rest hgap kind more hl source ih =>
      cases before with
      | nil =>
          obtain ⟨rfl, -⟩ := List.cons.inj h
          exact ⟨c, rest, more, .first place c rest, hl, rfl⟩
      | cons u before =>
          obtain ⟨hlex, tail, rfl⟩ := lexeme_sound hl
          rw [List.drop_left] at ih h
          obtain ⟨rfl, htail⟩ := List.cons.inj h
          have hmode' : (modeAfter kind).through before = .expression := by
            rw [← step_lexeme hlex]
            exact hmode
          obtain ⟨d, behind, more', hstands, hlexeme⟩ := ih htail hmode'
          exact ⟨d, behind, more', hstands.behind (c :: more), hlexeme⟩

/-- A fault is that of the character at its place, which no lexeme starts with. -/
theorem exists_refused {mode : Mode} {place l : Location} {cs : List Char}
    {cause : LexicalFault} (h : (tokensFrom mode place cs).fault = some (cause, l)) :
    ∃ c rest, StandsIn place cs l c rest ∧ lexeme c rest = .error cause := by
  fun_induction tokensFrom mode place cs with
  | case1 => cases h
  | @case2 place c rest plain hempty after ih =>
      obtain ⟨d, behind, hstands, hlexeme⟩ := ih h
      rw [eq_mark_of_plainText (List.isEmpty_iff.mp hempty)]
      exact ⟨d, behind, hstands.behind openingMark, hlexeme⟩
  | @case3 place c rest plain hempty ih =>
      rw [drop_plainText fun hnil => hempty (List.isEmpty_iff.mpr hnil)] at ih h
      obtain ⟨d, behind, hstands, hlexeme⟩ := ih h
      rw [← plainText_append_drop (c :: rest)]
      exact ⟨d, behind, hstands.behind plain, hlexeme⟩
  | case4 place c rest hgap ih =>
      obtain ⟨d, behind, hstands, hlexeme⟩ := ih h
      exact ⟨d, behind, hstands.behind [c], hlexeme⟩
  | case5 place c rest hgap fault hf =>
      obtain ⟨rfl, rfl⟩ := Prod.mk.inj (Option.some.inj h)
      exact ⟨c, rest, .first place c rest, hf⟩
  | @case6 place c rest hgap kind more hl source ih =>
      obtain ⟨-, tail, rfl⟩ := lexeme_sound hl
      rw [List.drop_left] at ih h
      obtain ⟨d, behind, hstands, hlexeme⟩ := ih h
      exact ⟨d, behind, hstands.behind (c :: more), hlexeme⟩

/-! ## The result -/

/-- The token that is read where a character stands, and some text behind it: a word or
a number that starts with the character is the longest one there, and its text says of
which kind the token is. -/
structure Munches (t : Token) (c : Char) (rest : List Char) : Prop where
  word : c ∈ letters → LongestMatch wordPattern t.text.toList (c :: rest) ∧
    t.kind = if t.text = "if" then .ifWord else if t.text = "fn" then .fnWord else .identifier
  number : c ∈ digits → LongestMatch numberPattern t.text.toList (c :: rest) ∧
    t.kind = if HasMark t.text.toList then .float else .integer

theorem wordKind_eq (w : List Char) : wordKind w = if String.ofList w = "if" then .ifWord
    else if String.ofList w = "fn" then .fnWord else .identifier := by
  have hif : String.ofList w = "if" ↔ w = ['i', 'f'] := String.ofList_inj
  have hfn : String.ofList w = "fn" ↔ w = ['f', 'n'] := String.ofList_inj
  simp only [wordKind, hif, hfn]

theorem tokenText_of_ne {kind : TokenKind} (hk : kind ≠ .string) (s : List Char) :
    tokenText kind s = String.ofList s := by
  cases kind <;> first | rfl | exact absurd rfl hk

theorem munches_lexeme {t : Token} {c : Char} {rest more : List Char}
    (h : lexeme c rest = .ok (t.kind, more)) (ht : t.text = tokenText t.kind (c :: more)) :
    Munches t c rest where
  word hc := by
    rw [mem_letters] at hc
    rw [lexeme_word hc] at h
    obtain ⟨hkind, rfl⟩ := Prod.mk.inj (Except.ok.inj h)
    have hne : t.kind ≠ .string := by
      rw [← hkind]
      rcases wordKind_cases (c :: rest.takeWhile isWordPart) with h | h | h <;> simp [h]
    rw [tokenText_of_ne hne] at ht
    rw [ht, String.toList_ofList, ← wordKind_eq]
    exact ⟨word_longest hc rest, hkind.symm⟩
  number hc := by
    rw [mem_digits] at hc
    rw [lexeme_digit hc] at h
    have hnumber : number rest = (t.kind, more) := Except.ok.inj h
    have hkind := number_kind hnumber
    have hne : t.kind ≠ .string := by rcases hkind with h | h <;> simp [h]
    rw [tokenText_of_ne hne] at ht
    have hlexeme := (number_sound hc rest).1
    have hlongest := number_longest hc rest
    rw [hnumber] at hlexeme hlongest
    rw [ht, String.toList_ofList]
    exact ⟨hlongest, (hlexeme.matches_number hkind).2⟩

end Lexer

/-- In an expression a token that starts with a letter, `_` or `$` is the longest word at
its place, one that starts with a digit the longest number, and every such character that
the lexer comes to starts one. -/
theorem maximal_munch (text : String) :
    (∀ before t after, (tokenize text).tokens = before ++ t :: after →
      Mode.through .plain before = .expression → t.kind ≠ .ending →
      ∃ c rest, Lexer.StandsIn .start text.toList t.location c rest ∧
        Lexer.Munches t c rest) ∧
    (∀ cause place, (tokenize text).fault = some (cause, place) →
      ∃ c rest, Lexer.StandsIn .start text.toList place c rest ∧
        c ∉ Lexer.letters ∧ c ∉ Lexer.digits) := by
  constructor
  · intro before t after htokens hmode hk
    obtain ⟨c, rest, more, hstands, hlexeme, htext⟩ := Lexer.exists_lexeme htokens hmode hk
    exact ⟨c, rest, hstands, Lexer.munches_lexeme hlexeme htext⟩
  · intro cause place hfault
    obtain ⟨c, rest, hstands, hlexeme⟩ := Lexer.exists_refused hfault
    refine ⟨c, rest, hstands, fun hc => ?_, fun hc => ?_⟩
    · rw [Lexer.lexeme_word (Lexer.mem_letters.mp hc)] at hlexeme
      cases hlexeme
    · rw [Lexer.lexeme_digit (Lexer.mem_digits.mp hc)] at hlexeme
      cases hlexeme

end Inlay
