import Mathlib.Data.List.TakeWhile
import Inlay.Token.Lexer

/-!
# The lexer as a relation

What one reading of a text does, step by step. `Lexeme` says which stretches
of characters are the source of a token of each kind; `Run` chains the steps
of a reading, each with the place it starts at and the characters it passes.
`tokensFrom_run` opens the lexer's recursion: whatever is true of all readings
is proved by induction on `Run`.
-/

namespace Inlay

/-! ## The sources of tokens -/

def TokenKind.spelling? : TokenKind → Option (List Char)
  | .opening => some Lexer.openingMark
  | .closing => some Lexer.closingMark
  | .ifWord => some ['i', 'f']
  | .fnWord => some ['f', 'n']
  | .leftParen => some ['(']
  | .rightParen => some [')']
  | .leftBracket => some ['[']
  | .rightBracket => some [']']
  | .leftBrace => some ['\x7b']
  | .rightBrace => some ['\x7d']
  | .dot => some ['.']
  | .comma => some [',']
  | .minus => some ['-']
  | .colon => some [':']
  | .arrow => some ['-', '>']
  | .ending => some []
  | .text | .identifier | .integer | .float | .string => none

namespace Lexer

/-- A string's characters as they stand between quotes: each quote twice. -/
def doubled (v : List Char) : List Char :=
  v.flatMap fun c => if c = '\'' then ['\'', '\''] else [c]

def IsDigits (s : List Char) : Prop := s ≠ [] ∧ ∀ d ∈ s, isDigit d = true

/-- The part of a number from its point on, or nothing. -/
inductive IsFraction : List Char → Prop
  | none : IsFraction []
  | point {digits : List Char} (hd : ∀ d ∈ digits, isDigit d = true) :
      IsFraction ('.' :: digits)

/-- The part of a number from its exponent's mark on, or nothing. -/
inductive IsPower : List Char → Prop
  | none : IsPower []
  | unsigned {mark : Char} {digits : List Char} (hm : mark = 'e' ∨ mark = 'E')
      (hd : IsDigits digits) : IsPower (mark :: digits)
  | signed {mark sign : Char} {digits : List Char} (hm : mark = 'e' ∨ mark = 'E')
      (hs : sign = '+' ∨ sign = '-') (hd : IsDigits digits) : IsPower (mark :: sign :: digits)

/-- The sources of tokens of each kind inside an expression. -/
inductive Lexeme : TokenKind → List Char → Prop
  | closing : Lexeme .closing closingMark
  | word {c : Char} {more : List Char} (hc : isWordStart c = true)
      (hm : ∀ d ∈ more, isWordPart d = true) : Lexeme (wordKind (c :: more)) (c :: more)
  | integer {digits : List Char} (hd : IsDigits digits) : Lexeme .integer digits
  | float {whole fraction power : List Char} (hw : IsDigits whole) (hf : IsFraction fraction)
      (hp : IsPower power) (hne : fraction ≠ [] ∨ power ≠ []) :
      Lexeme .float (whole ++ fraction ++ power)
  | string (v : List Char) : Lexeme .string ('\'' :: (doubled v ++ ['\'']))
  | arrow : Lexeme .arrow ['-', '>']
  | minus : Lexeme .minus ['-']
  | sign {c : Char} {kind : TokenKind} (hc : signKind? c = some kind) : Lexeme kind [c]

theorem doubled_cons_quote (v : List Char) :
    doubled ('\'' :: v) = '\'' :: '\'' :: doubled v := rfl

theorem doubled_cons {c : Char} (h : c ≠ '\'') (v : List Char) :
    doubled (c :: v) = c :: doubled v := by
  simp [doubled, h]

/-! ## What one lexeme takes -/

theorem takeWhile_digits (cs : List Char) : ∀ d ∈ cs.takeWhile isDigit, isDigit d = true :=
  fun _ hd => List.mem_takeWhile_imp hd

theorem exponent_isPower (cs : List Char) : IsPower (exponent cs) := by
  unfold exponent
  split
  · rename_i mark rest
    split
    · rename_i hm
      have hm' : mark = 'e' ∨ mark = 'E' := by simpa using hm
      split
      · rename_i sign more
        dsimp only
        split
        · rename_i hs
          split
          · exact .none
          · rename_i hne
            exact .signed hm' (by simpa using hs)
              ⟨by simpa using hne, takeWhile_digits more⟩
        · split
          · exact .none
          · rename_i hne
            exact .unsigned hm' ⟨by simpa using hne, takeWhile_digits (sign :: more)⟩
      · exact .none
    · exact .none
  · exact .none

theorem exponent_prefix (cs : List Char) : exponent cs <+: cs := by
  unfold exponent
  split
  · rename_i mark rest
    split
    · split
      · rename_i sign more
        dsimp only
        split
        · split
          · exact List.nil_prefix
          · exact List.prefix_cons_inj .. |>.mpr
              (List.prefix_cons_inj .. |>.mpr (List.takeWhile_prefix _))
        · split
          · exact List.nil_prefix
          · exact List.prefix_cons_inj .. |>.mpr (List.takeWhile_prefix _)
      · exact List.nil_prefix
    · exact List.nil_prefix
  · exact List.nil_prefix

/-- The fraction that stands at the head of a text. -/
def fractionOf (cs : List Char) : List Char :=
  match cs with
  | '.' :: more => '.' :: more.takeWhile isDigit
  | _ => []

theorem fractionOf_isFraction (cs : List Char) : IsFraction (fractionOf cs) := by
  unfold fractionOf
  split
  · exact .point (takeWhile_digits _)
  · exact .none

theorem fractionOf_prefix (cs : List Char) : fractionOf cs <+: cs := by
  unfold fractionOf
  split
  · exact List.prefix_cons_inj .. |>.mpr (List.takeWhile_prefix _)
  · exact List.nil_prefix

/-- A number's three parts, each cut from what the one before leaves. -/
theorem number_eq (rest : List Char) :
    ∃ whole fraction power, whole = rest.takeWhile isDigit ∧
      fraction = fractionOf (rest.drop whole.length) ∧
      power = exponent ((rest.drop whole.length).drop fraction.length) ∧
      number rest = (if fraction.isEmpty && power.isEmpty then .integer else .float,
        whole ++ fraction ++ power) :=
  ⟨_, _, _, rfl, rfl, rfl, rfl⟩

theorem number_kind {rest more : List Char} {kind : TokenKind} (h : number rest = (kind, more)) :
    kind = .integer ∨ kind = .float := by
  obtain ⟨whole, fraction, power, -, -, -, heq⟩ := number_eq rest
  obtain ⟨rfl, -⟩ := Prod.mk.inj (heq.symm.trans h)
  split
  · exact .inl rfl
  · exact .inr rfl

/-- Two prefixes, the second of what the first leaves, are one prefix. -/
theorem prefix_append_of_drop {α : Type} {xs ys cs : List α} (hx : xs <+: cs)
    (hy : ys <+: cs.drop xs.length) : xs ++ ys <+: cs := by
  obtain ⟨r, rfl⟩ := hx
  rw [List.drop_left] at hy
  exact (List.prefix_append_right_inj xs).mpr hy

theorem number_sound {c : Char} (hc : isDigit c = true) (rest : List Char) :
    Lexeme (number rest).1 (c :: (number rest).2) ∧ (number rest).2 <+: rest := by
  obtain ⟨whole, fraction, power, hw, hf, hp, heq⟩ := number_eq rest
  have hdigits : IsDigits (c :: whole) := by
    refine ⟨by simp, fun d hd => ?_⟩
    rcases List.mem_cons.mp hd with rfl | hd
    · exact hc
    · exact takeWhile_digits rest d (hw ▸ hd)
  have hfrac : IsFraction fraction := hf ▸ fractionOf_isFraction _
  have hpow : IsPower power := hp ▸ exponent_isPower _
  have hpre : whole ++ fraction <+: rest :=
    prefix_append_of_drop (hw ▸ List.takeWhile_prefix _) (hf ▸ fractionOf_prefix _)
  rw [heq]
  refine ⟨?_, prefix_append_of_drop hpre ?_⟩
  · by_cases h : fraction = [] ∧ power = []
    · obtain ⟨h1, h2⟩ := h
      subst h1 h2
      simpa using Lexeme.integer hdigits
    · have hne : fraction ≠ [] ∨ power ≠ [] := not_and_or.mp h
      have hk : (fraction.isEmpty && power.isEmpty) = false := by
        rcases hne with h | h <;> simp [h]
      rw [hk]
      exact Lexeme.float hdigits hfrac hpow hne
  · rw [List.length_append, ← List.drop_drop]
    exact hp ▸ exponent_prefix _

/-- What is read after an opening quote is a doubled string and the closing
quote, and no quote follows. -/
theorem quotedTail_sound {rest tail : List Char} (h : quotedTail rest = some tail) :
    ∃ v, tail = doubled v ++ ['\''] ∧ tail <+: rest := by
  fun_induction quotedTail rest generalizing tail with
  | case1 => simp at h
  | case2 rest ih =>
      obtain ⟨inner, hin, rfl⟩ := Option.map_eq_some_iff.mp h
      obtain ⟨v, rfl, hpre⟩ := ih hin
      refine ⟨'\'' :: v, by rw [doubled_cons_quote]; rfl, ?_⟩
      exact List.prefix_cons_inj .. |>.mpr (List.prefix_cons_inj .. |>.mpr hpre)
  | case3 more _ =>
      obtain rfl := Option.some.inj h
      exact ⟨[], rfl, List.prefix_cons_inj .. |>.mpr List.nil_prefix⟩
  | case4 c rest _ hc ih =>
      obtain ⟨inner, hin, rfl⟩ := Option.map_eq_some_iff.mp h
      obtain ⟨v, rfl, hpre⟩ := ih hin
      exact ⟨c :: v, by rw [doubled_cons hc]; rfl, List.prefix_cons_inj .. |>.mpr hpre⟩

theorem unquoteTail_doubled (v : List Char) : unquoteTail (doubled v ++ ['\'']) = v := by
  induction v with
  | nil => rfl
  | cons c v ih =>
      by_cases hc : c = '\''
      · subst hc
        rw [doubled_cons_quote, List.cons_append, List.cons_append, unquoteTail, ih]
      · rw [doubled_cons hc, List.cons_append, unquoteTail.eq_3, ih]
        · intro _ h _
          exact hc h
        · intro h _
          exact hc h

/-- A lexeme that is read is one of its kind, and stands at the head of the text. -/
theorem lexeme_sound {c : Char} {rest more : List Char} {kind : TokenKind}
    (h : lexeme c rest = .ok (kind, more)) : Lexeme kind (c :: more) ∧ more <+: rest := by
  unfold lexeme at h
  split at h
  · rename_i hclose
    obtain ⟨rfl, rfl⟩ := Prod.mk.inj (Except.ok.inj h)
    rw [List.isPrefixOf_iff_prefix, closingMark, List.cons_prefix_cons] at hclose
    obtain ⟨rfl, hpre⟩ := hclose
    exact ⟨.closing, hpre⟩
  split at h
  · rename_i hc
    obtain ⟨rfl, rfl⟩ := Prod.mk.inj (Except.ok.inj h)
    exact ⟨.word hc (fun _ hd => List.mem_takeWhile_imp hd), List.takeWhile_prefix _⟩
  split at h
  · rename_i hc
    have heq : number rest = (kind, more) := Except.ok.inj h
    have hn := number_sound hc rest
    rw [heq] at hn
    exact hn
  split at h
  · rename_i hc
    subst hc
    split at h
    · rename_i tail hq
      obtain ⟨rfl, rfl⟩ := Prod.mk.inj (Except.ok.inj h)
      obtain ⟨v, rfl, hpre⟩ := quotedTail_sound hq
      exact ⟨.string v, hpre⟩
    · cases h
  split at h
  · rename_i hc
    subst hc
    split at h
    · rename_i hhead
      obtain ⟨rfl, rfl⟩ := Prod.mk.inj (Except.ok.inj h)
      obtain ⟨tail, rfl⟩ := List.head?_eq_some_iff.mp hhead
      exact ⟨.arrow, List.prefix_cons_inj _ |>.mpr List.nil_prefix⟩
    · obtain ⟨rfl, rfl⟩ := Prod.mk.inj (Except.ok.inj h)
      exact ⟨.minus, List.nil_prefix⟩
  split at h
  · rename_i hs
    obtain ⟨rfl, rfl⟩ := Prod.mk.inj (Except.ok.inj h)
    exact ⟨.sign hs, List.nil_prefix⟩
  · cases h

theorem signKind?_ne {c : Char} {kind : TokenKind} (h : signKind? c = some kind) :
    kind ≠ .text ∧ kind ≠ .opening ∧ kind ≠ .closing ∧ kind ≠ .string ∧ kind ≠ .ending := by
  unfold signKind? at h
  split at h <;> cases h <;> simp

theorem wordKind_cases (w : List Char) :
    wordKind w = .ifWord ∨ wordKind w = .fnWord ∨ wordKind w = .identifier := by
  unfold wordKind
  split
  · exact .inl rfl
  · split
    · exact .inr (.inl rfl)
    · exact .inr (.inr rfl)

/-- Lexemes are the tokens inside expressions: neither text nor an opening mark
nor the end is one. -/
theorem Lexeme.kind_ne {kind : TokenKind} {s : List Char} (h : Lexeme kind s) :
    kind ≠ .text ∧ kind ≠ .opening ∧ kind ≠ .ending := by
  cases h with
  | @word c more hc hm => rcases wordKind_cases (c :: more) with h | h | h <;> simp [h]
  | sign hc =>
      obtain ⟨h1, h2, -, -, h5⟩ := signKind?_ne hc
      exact ⟨h1, h2, h5⟩
  | _ => simp

theorem Lexeme.ne_nil {kind : TokenKind} {s : List Char} (h : Lexeme kind s) : s ≠ [] := by
  cases h with
  | integer hd => exact hd.1
  | float hw => simp [hw.1]
  | closing => simp [closingMark]
  | _ => simp

theorem Lexeme.eq_spelling {kind : TokenKind} {s w : List Char} (h : Lexeme kind s)
    (hw : kind.spelling? = some w) : s = w := by
  cases h with
  | closing | arrow | minus => exact Option.some.inj hw
  | @word c more hc hm =>
      unfold wordKind at hw
      split at hw
      · rename_i hif
        exact hif.trans (Option.some.inj hw)
      · split at hw
        · rename_i hfn
          exact hfn.trans (Option.some.inj hw)
        · cases hw
  | integer | float | string => cases hw
  | sign hc =>
      unfold signKind? at hc
      split at hc <;> cases hc <;> exact Option.some.inj hw

end Lexer

/-! ## Tokens and their sources -/

/-- The characters that a token stands for in the text: a string in quotes with
its quotes doubled, any other token as it is. -/
def Token.source (t : Token) : List Char :=
  match t.kind with
  | .string => '\'' :: (Lexer.doubled t.text.toList ++ ['\''])
  | _ => t.text.toList

namespace Lexer

theorem source_tokenText {kind : TokenKind} (hk : kind ≠ .string) (s : List Char)
    (place : Location) : (Token.mk kind (tokenText kind s) place).source = s := by
  unfold Token.source tokenText
  split
  · rename_i h
    exact absurd h hk
  · split
    · exact absurd rfl hk
    · exact String.toList_ofList

/-- The source of a lexeme's token is the lexeme. -/
theorem Lexeme.source_eq {kind : TokenKind} {s : List Char} (h : Lexeme kind s)
    (place : Location) : (Token.mk kind (tokenText kind s) place).source = s := by
  cases h with
  | string v => simp [Token.source, tokenText, unquoteTail_doubled]
  | @word c more hc hm =>
      refine source_tokenText ?_ _ _
      rcases wordKind_cases (c :: more) with h | h | h <;> simp [h]
  | sign hc => exact source_tokenText (signKind?_ne hc).2.2.2.1 _ _
  | _ => exact source_tokenText (by simp) _ _

/-! ## Plain text -/

theorem plainText_initial (cs : List Char) : plainText cs <+: cs := by
  induction cs with
  | nil => exact List.nil_prefix
  | cons c rest ih =>
      unfold plainText
      split
      · exact List.nil_prefix
      · exact List.prefix_cons_inj _ |>.mpr ih

theorem plainText_append_drop (cs : List Char) :
    plainText cs ++ cs.drop (plainText cs).length = cs :=
  List.prefix_iff_eq_append.mp (plainText_initial cs)

/-- Plain text is left only for an opening mark. -/
theorem plainText_stops (cs : List Char) :
    cs.drop (plainText cs).length = [] ∨ openingMark <+: cs.drop (plainText cs).length := by
  induction cs with
  | nil => exact .inl rfl
  | cons c rest ih =>
      unfold plainText
      split
      · rename_i h
        exact .inr (List.isPrefixOf_iff_prefix.mp h)
      · simpa using ih

/-- No opening mark stands in plain text. -/
theorem plainText_no_mark (cs : List Char) : ¬ openingMark <:+: plainText cs := by
  induction cs with
  | nil => simp [plainText, openingMark]
  | cons c rest ih =>
      unfold plainText
      split
      · simp [openingMark]
      · rename_i h
        rw [List.infix_cons_iff]
        rintro (hpre | hin)
        · refine h (List.isPrefixOf_iff_prefix.mpr (hpre.trans ?_))
          exact List.prefix_cons_inj _ |>.mpr (plainText_initial rest)
        · exact ih hin

/-- Where there is no plain text, an opening mark stands. -/
theorem eq_mark_of_plainText {c : Char} {rest : List Char} (h : plainText (c :: rest) = []) :
    c :: rest = openingMark ++ rest.drop 2 := by
  have hstop := plainText_stops (c :: rest)
  rw [h] at hstop
  obtain hstop | ⟨tail, htail⟩ := hstop
  · cases hstop
  · rw [List.length_nil, List.drop_zero] at htail
    obtain ⟨rfl, rfl⟩ := List.cons.inj htail
    rfl

theorem drop_plainText {c : Char} {rest : List Char} (h : plainText (c :: rest) ≠ []) :
    rest.drop ((plainText (c :: rest)).length - 1) =
      (c :: rest).drop (plainText (c :: rest)).length := by
  obtain ⟨n, hn⟩ := Nat.exists_eq_succ_of_ne_zero (List.length_pos_iff.mpr h).ne'
  rw [hn]
  rfl

/-! ## Readings -/

theorem tokensFrom_nil (mode : Mode) (place : Location) :
    tokensFrom mode place [] = ⟨[⟨.ending, "", place⟩], none, mode⟩ := by
  rw [tokensFrom]

theorem tokensFrom_gap {c : Char} (hc : isGap c = true) (place : Location) (rest : List Char) :
    tokensFrom .expression place (c :: rest) = tokensFrom .expression (place.after c) rest := by
  rw [tokensFrom]
  exact if_pos hc

/-- One reading of a text: the mode and place it starts in, the characters from
there on, and what is read. Each constructor is one step of the lexer. -/
inductive Run : Mode → Location → List Char → Lexed → Prop
  | done (mode : Mode) (place : Location) :
      Run mode place [] ⟨[⟨.ending, "", place⟩], none, mode⟩
  | opening {place : Location} {rest : List Char} {r : Lexed}
      (hr : Run .expression (place.advance openingMark) rest r) :
      Run .plain place (openingMark ++ rest)
        (Lexed.cons ⟨.opening, String.ofList openingMark, place⟩ r)
  | text {place : Location} {plain rest : List Char} {r : Lexed} (hne : plain ≠ [])
      (hmark : ¬ openingMark <:+: plain) (hstop : rest = [] ∨ openingMark <+: rest)
      (hr : Run .plain (place.advance plain) rest r) :
      Run .plain place (plain ++ rest) (Lexed.cons ⟨.text, String.ofList plain, place⟩ r)
  | gap {place : Location} {c : Char} {rest : List Char} {r : Lexed} (hc : isGap c = true)
      (hr : Run .expression (place.after c) rest r) : Run .expression place (c :: rest) r
  | lexeme {place : Location} {kind : TokenKind} {source rest : List Char} {r : Lexed}
      (hl : Lexeme kind source)
      (hr : Run (modeAfter kind) (place.advance source) rest r) :
      Run .expression place (source ++ rest)
        (Lexed.cons ⟨kind, tokenText kind source, place⟩ r)
  | fault {place : Location} {c : Char} {rest : List Char} {cause : LexicalFault}
      (hf : lexeme c rest = .error cause) :
      Run .expression place (c :: rest) ⟨[], some (cause, place), .expression⟩

theorem tokensFrom_run (mode : Mode) (place : Location) (cs : List Char) :
    Run mode place cs (tokensFrom mode place cs) := by
  fun_induction tokensFrom mode place cs with
  | case1 mode place => exact .done mode place
  | case2 place c rest plain hempty after ih =>
      have h := Run.opening ih
      rwa [← eq_mark_of_plainText (List.isEmpty_iff.mp hempty)] at h
  | case3 place c rest plain hempty ih =>
      have hne : plain ≠ [] := fun h => hempty (List.isEmpty_iff.mpr h)
      rw [drop_plainText hne] at ih ⊢
      have h := Run.text hne (plainText_no_mark _) (plainText_stops _) ih
      rwa [plainText_append_drop] at h
  | case4 place c rest hgap ih => exact .gap hgap ih
  | case5 place c rest hgap cause hf => exact .fault hf
  | case6 place c rest hgap kind more hl source ih =>
      obtain ⟨hlex, tail, rfl⟩ := lexeme_sound hl
      rw [List.drop_left] at ih ⊢
      exact .lexeme hlex ih

end Lexer

end Inlay
