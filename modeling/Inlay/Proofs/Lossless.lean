import Mathlib.Data.List.Chain
import Inlay.Proofs.Lexing

/-!
# Nothing is lost between text and tokens

The tokens of a text, each with the gap before it, spell the text up to its end
or up to the fault that ended the reading. Gaps stand only inside expressions.
The marks open and close in turn, plain text stands outside of them and all
else inside, and exactly the readings without a fault reach the ending token.

One induction over readings (`run_pieces`) yields the pieces with the mode and
place that each is read in (`Fits`); the rest reads facts off pieces.
-/

namespace Inlay

/-! ## Modes along tokens -/

namespace Mode

/-- The mode after a token of a kind: only the marks change it. -/
def step (mode : Mode) : TokenKind → Mode
  | .opening => .expression
  | .closing => .plain
  | _ => mode

/-- The mode after tokens, the last mark among which decides. -/
def through (mode : Mode) (ts : List Token) : Mode := ts.foldl (fun m t => m.step t.kind) mode

def Allows : Mode → TokenKind → Prop
  | .plain, kind => kind = .text ∨ kind = .opening ∨ kind = .ending
  | .expression, kind => kind ≠ .text ∧ kind ≠ .opening

def exit : Mode → TokenKind
  | .plain => .opening
  | .expression => .closing

end Mode

def TokenKind.isMark : TokenKind → Bool
  | .opening => true
  | .closing => true
  | _ => false

/-! ## Pieces -/

/-- A token with the gap that stands before it. -/
structure Piece where
  gap : List Char
  token : Token

namespace Piece

def text (p : Piece) : List Char := p.gap ++ p.token.source

/-- The characters of pieces in order. -/
def texts (ps : List Piece) : List Char := ps.flatMap text

/-- Pieces as they are read from a mode and place on: gaps only inside
expressions, each token at its place and in its mode. -/
def Fits : Mode → Location → List Piece → Prop
  | _, _, [] => True
  | mode, place, p :: ps =>
    (∀ c ∈ p.gap, Lexer.isGap c = true) ∧ (p.gap ≠ [] → mode = .expression) ∧
      p.token.location = place.advance p.gap ∧ mode.Allows p.token.kind ∧
      Fits (mode.step p.token.kind) (place.advance p.text) ps

theorem texts_cons (p : Piece) (ps : List Piece) : texts (p :: ps) = p.text ++ texts ps := rfl

/-- What `Fits` says of a piece among others: its mode is what the tokens
before it lead to, its place is behind their text. -/
theorem Fits.split {mode : Mode} {place : Location} {before after : List Piece} {p : Piece}
    (h : Fits mode place (before ++ p :: after)) :
    Fits (mode.through (before.map token)) (place.advance (texts before)) (p :: after) := by
  induction before generalizing mode place with
  | nil => exact h
  | cons q before ih =>
      obtain ⟨-, -, -, -, hrest⟩ := h
      have := ih hrest
      rwa [texts_cons, Location.advance_append]

end Piece

namespace Lexer

theorem mode_allows_lexeme {kind : TokenKind} {source : List Char} (h : Lexeme kind source) :
    Mode.expression.Allows kind :=
  ⟨h.kind_ne.1, h.kind_ne.2.1⟩

theorem step_lexeme {kind : TokenKind} {source : List Char} (h : Lexeme kind source) :
    Mode.expression.step kind = modeAfter kind := by
  cases kind <;> rfl

/-- How a reading cuts its text: into the pieces, a last gap, and what the
fault, if there is one, leaves unread. -/
structure Cut (mode : Mode) (place : Location) (cs : List Char) (r : Lexed)
    (pieces : List Piece) (gap rest : List Char) : Prop where
  tokens : pieces.map Piece.token = r.tokens
  text : cs = Piece.texts pieces ++ gap ++ rest
  fits : Piece.Fits mode place pieces
  blank : ∀ c ∈ gap, isGap c = true
  inside : gap ≠ [] → mode.through r.tokens = .expression
  finished : r.fault = none → gap = [] ∧ rest = [] ∧ pieces ≠ []
  stopped : ∀ cause l, r.fault = some (cause, l) →
    l = place.advance (Piece.texts pieces ++ gap) ∧ rest ≠ []

/-- A piece without a gap in front of what was read after it. -/
theorem Cut.cons {mode : Mode} {place : Location} {cs source : List Char} {r : Lexed}
    {pieces : List Piece} {gap rest : List Char} {t : Token} (hplace : t.location = place)
    (hsource : t.source = source) (hmode : mode.Allows t.kind)
    (h : Cut (mode.step t.kind) (place.advance source) cs r pieces gap rest) :
    Cut mode place (source ++ cs) (Lexed.cons t r) (⟨[], t⟩ :: pieces) gap rest := by
  subst hsource
  constructor
  · simp [Lexed.cons, h.tokens]
  · rw [h.text, Piece.texts_cons]
    simp [Piece.text]
  · exact ⟨by simp, fun hne => absurd rfl hne, hplace, hmode, by simpa [Piece.text] using h.fits⟩
  · exact h.blank
  · exact fun hne => h.inside hne
  · exact fun hnone => ⟨(h.finished hnone).1, (h.finished hnone).2.1, by simp⟩
  · intro cause l hl
    obtain ⟨hat, hne⟩ := h.stopped cause l hl
    refine ⟨?_, hne⟩
    rw [hat, Piece.texts_cons, ← Location.advance_append]
    simp [Piece.text]

/-- One more character in the first gap. -/
theorem Cut.blank_cons {place : Location} {c : Char} {cs : List Char} {r : Lexed}
    {pieces : List Piece} {gap rest : List Char} (hc : isGap c = true)
    (h : Cut .expression (place.after c) cs r pieces gap rest) :
    ∃ pieces' gap', Cut .expression place (c :: cs) r pieces' gap' rest := by
  cases pieces with
  | nil =>
      refine ⟨[], c :: gap, h.tokens, ?_, trivial, ?_, fun _ => ?_, fun hnone => ?_,
        fun cause l hl => h.stopped cause l hl⟩
      · rw [h.text]
        rfl
      · intro d hd
        rcases List.mem_cons.mp hd with rfl | hd
        · exact hc
        · exact h.blank d hd
      · rw [← h.tokens]
        rfl
      · exact absurd rfl (h.finished hnone).2.2
  | cons p pieces =>
      obtain ⟨hgap, -, hat, hmode, hrest⟩ := h.fits
      refine ⟨⟨c :: p.gap, p.token⟩ :: pieces, gap, h.tokens, ?_,
        ⟨?_, fun _ => rfl, hat, hmode, hrest⟩, h.blank, h.inside,
        fun hnone => ⟨(h.finished hnone).1, (h.finished hnone).2.1, by simp⟩,
        fun cause l hl => h.stopped cause l hl⟩
      · rw [h.text]
        rfl
      · intro d hd
        rcases List.mem_cons.mp hd with rfl | hd
        · exact hc
        · exact hgap d hd

/-- Every reading cuts its text into pieces. -/
theorem run_cut {mode : Mode} {place : Location} {cs : List Char} {r : Lexed}
    (h : Run mode place cs r) : ∃ pieces gap rest, Cut mode place cs r pieces gap rest := by
  induction h with
  | done mode place =>
      refine ⟨[⟨[], ⟨.ending, "", place⟩⟩], [], [], rfl, rfl,
        ⟨by simp, by simp, rfl, ?_, trivial⟩, by simp, by simp,
        fun _ => ⟨rfl, rfl, by simp⟩, by simp⟩
      cases mode <;> simp [Mode.Allows]
  | opening hr ih =>
      obtain ⟨pieces, gap, rest, h⟩ := ih
      exact ⟨_, gap, rest, .cons rfl String.toList_ofList (.inr (.inl rfl)) h⟩
  | text hne hmark hstop hr ih =>
      obtain ⟨pieces, gap, rest, h⟩ := ih
      exact ⟨_, gap, rest, .cons rfl String.toList_ofList (.inl rfl) h⟩
  | gap hc hr ih =>
      obtain ⟨pieces, gap, rest, h⟩ := ih
      obtain ⟨pieces', gap', h'⟩ := h.blank_cons hc
      exact ⟨pieces', gap', rest, h'⟩
  | lexeme hl hr ih =>
      obtain ⟨pieces, gap, rest, h⟩ := ih
      rw [← step_lexeme hl] at h
      exact ⟨_, gap, rest, .cons rfl (hl.source_eq _) (mode_allows_lexeme hl) h⟩
  | @fault place c rest cause hf =>
      refine ⟨[], [], c :: rest, rfl, rfl, trivial, by simp, by simp, by simp, ?_⟩
      rintro cause' l hl
      obtain ⟨-, rfl⟩ := Prod.mk.inj (Option.some.inj hl)
      exact ⟨rfl, by simp⟩

/-- The mode that the tokens before a token lead to allows that token. -/
theorem run_allows {mode : Mode} {place : Location} {cs : List Char} {r : Lexed}
    (h : Run mode place cs r) {before after : List Token} {t : Token}
    (heq : r.tokens = before ++ t :: after) : (mode.through before).Allows t.kind := by
  obtain ⟨pieces, gap, rest, hcut⟩ := run_cut h
  rw [← hcut.tokens] at heq
  obtain ⟨front, back, rfl, rfl, hback⟩ := List.map_eq_append_iff.mp heq
  obtain ⟨p, _, rfl, rfl, -⟩ := List.map_eq_cons_iff.mp hback
  exact hcut.fits.split.2.2.2.1

/-! ## Text tokens -/

/-- A text token is not empty and holds no opening mark. -/
theorem run_text {mode : Mode} {place : Location} {cs : List Char} {r : Lexed}
    (h : Run mode place cs r) :
    ∀ t ∈ r.tokens, t.kind = .text → t.text ≠ "" ∧ ¬ openingMark <:+: t.text.toList := by
  induction h with
  | done mode place => simp
  | opening hr ih =>
      intro t ht hk
      rcases List.mem_cons.mp ht with rfl | ht
      · cases hk
      · exact ih t ht hk
  | text hne hmark hstop hr ih =>
      intro t ht hk
      rcases List.mem_cons.mp ht with rfl | ht
      · rw [String.toList_ofList]
        exact ⟨by simpa using hne, hmark⟩
      · exact ih t ht hk
  | gap hc hr ih => exact ih
  | lexeme hl hr ih =>
      intro t ht hk
      rcases List.mem_cons.mp ht with rfl | ht
      · exact absurd hk hl.kind_ne.1
      · exact ih t ht hk
  | fault hf => simp

/-- At the end or before an opening mark no text token is read. -/
theorem run_head_ne_text {place : Location} {cs : List Char} {r : Lexed}
    (h : Run .plain place cs r) (hstop : cs = [] ∨ openingMark <+: cs) :
    ∀ t ∈ r.tokens.head?, t.kind ≠ .text := by
  cases h with
  | done => simp
  | opening hr => simp [Lexed.cons]
  | @text _ plain rest r hne hmark hrest hr =>
      exfalso
      rcases hstop with hnil | hpre
      · exact hne (List.append_eq_nil_iff.mp hnil).1
      · rcases hrest with rfl | ⟨tail, rfl⟩
        · rw [List.append_nil] at hpre
          exact hmark hpre.isInfix
        · -- the mark cannot straddle the end of the text: `<` stands at its head only
          match plain, hne, hmark, hpre with
          | [a], _, _, hpre => simp [openingMark] at hpre
          | [a, b], _, _, hpre => simp [openingMark] at hpre
          | a :: b :: c :: more, _, hmark, hpre =>
              refine hmark (List.IsPrefix.isInfix ?_)
              simpa [openingMark] using hpre

/-- No text token follows another. -/
theorem run_texts_apart {mode : Mode} {place : Location} {cs : List Char} {r : Lexed}
    (h : Run mode place cs r) :
    r.tokens.IsChain fun t u => ¬ (t.kind = .text ∧ u.kind = .text) := by
  induction h with
  | done mode place => simp
  | opening hr ih =>
      refine List.isChain_cons.mpr ⟨?_, ih⟩
      rintro u - ⟨h, -⟩
      cases h
  | text hne hmark hstop hr ih =>
      refine List.isChain_cons.mpr ⟨?_, ih⟩
      rintro u hu ⟨-, h⟩
      exact run_head_ne_text hr hstop u hu h
  | gap hc hr ih => exact ih
  | lexeme hl hr ih =>
      refine List.isChain_cons.mpr ⟨?_, ih⟩
      rintro u - ⟨h, -⟩
      exact hl.kind_ne.1 h
  | fault hf => simp

/-! ## The ending token -/

/-- A reading without a fault ends with the ending token, and no other token
is one. -/
theorem run_ending {mode : Mode} {place : Location} {cs : List Char} {r : Lexed}
    (h : Run mode place cs r) (hnone : r.fault = none) :
    ∃ (before : List Token) (last : Token), r.tokens = before ++ [last] ∧
      last.kind = .ending ∧ ∀ t ∈ before, t.kind ≠ .ending := by
  have step : ∀ {t : Token} {r : Lexed}, t.kind ≠ .ending →
      (∃ (before : List Token) (last : Token), r.tokens = before ++ [last] ∧
        last.kind = .ending ∧ ∀ t ∈ before, t.kind ≠ .ending) →
      ∃ (before : List Token) (last : Token), (Lexed.cons t r).tokens = before ++ [last] ∧
        last.kind = .ending ∧ ∀ t ∈ before, t.kind ≠ .ending := by
    rintro t r ht ⟨before, last, heq, hlast, hbefore⟩
    refine ⟨t :: before, last, by rw [Lexed.cons, heq]; rfl, hlast, fun u hu => ?_⟩
    rcases List.mem_cons.mp hu with rfl | hu
    · exact ht
    · exact hbefore u hu
  induction h with
  | done mode place => exact ⟨[], _, rfl, rfl, by simp⟩
  | opening hr ih => exact step (by simp) (ih hnone)
  | text hne hmark hstop hr ih => exact step (by simp) (ih hnone)
  | gap hc hr ih => exact ih hnone
  | lexeme hl hr ih => exact step hl.kind_ne.2.2 (ih hnone)
  | fault hf => cases hnone

/-- A reading that a fault ends has no ending token. -/
theorem run_no_ending {mode : Mode} {place : Location} {cs : List Char} {r : Lexed}
    (h : Run mode place cs r) (hsome : r.fault ≠ none) : ∀ t ∈ r.tokens, t.kind ≠ .ending := by
  induction h with
  | done mode place => exact absurd rfl hsome
  | opening hr ih => exact List.forall_mem_cons.mpr ⟨by simp, ih hsome⟩
  | text hne hmark hstop hr ih => exact List.forall_mem_cons.mpr ⟨by simp, ih hsome⟩
  | gap hc hr ih => exact ih hsome
  | lexeme hl hr ih => exact List.forall_mem_cons.mpr ⟨hl.kind_ne.2.2, ih hsome⟩
  | fault hf => simp

end Lexer

/-! ## Marks -/

/-- In a mode the only mark that is read is the one that ends it. -/
theorem Mode.Allows.eq_exit {mode : Mode} {kind : TokenKind} (h : mode.Allows kind)
    (hm : kind.isMark = true) : kind = mode.exit := by
  cases mode with
  | plain =>
      rcases h with rfl | rfl | rfl
      · cases hm
      · rfl
      · cases hm
  | expression =>
      cases kind with
      | closing => rfl
      | opening => exact absurd rfl h.2
      | _ => cases hm

theorem Mode.step_of_not_mark {kind : TokenKind} (hm : kind.isMark = false) (mode : Mode) :
    mode.step kind = mode := by
  cases kind <;> first | rfl | cases hm

def Mode.other : Mode → Mode
  | .plain => .expression
  | .expression => .plain

theorem Mode.step_exit (mode : Mode) : mode.step mode.exit = mode.other := by
  cases mode <;> rfl

theorem Mode.other_other (mode : Mode) : mode.other.other = mode := by
  cases mode <;> rfl

def marks (ts : List Token) : List TokenKind := (ts.map Token.kind).filter TokenKind.isMark

/-- The marks of pieces are by turns the one that ends the mode they start in
and the one that ends the other. -/
theorem Piece.Fits.marks_alternate {mode : Mode} {place : Location} {pieces : List Piece}
    (h : Piece.Fits mode place pieces) {i : Nat} {kind : TokenKind}
    (hi : (marks (pieces.map Piece.token))[i]? = some kind) :
    kind = if i % 2 = 0 then mode.exit else mode.other.exit := by
  induction pieces generalizing mode place i with
  | nil => simp [marks] at hi
  | cons p pieces ih =>
      obtain ⟨-, -, -, hallow, hrest⟩ := h
      cases hm : p.token.kind.isMark with
      | false =>
          rw [Mode.step_of_not_mark hm] at hrest
          refine ih hrest ?_
          simpa [marks, List.filter_cons, hm] using hi
      | true =>
          have hk := hallow.eq_exit hm
          have hcons : marks ((p :: pieces).map Piece.token) =
              p.token.kind :: marks (pieces.map Piece.token) := by
            simp [marks, hm]
          rw [hcons] at hi
          cases i with
          | zero =>
              rw [← Option.some.inj hi, hk]
              rfl
          | succ i =>
              rw [hk, Mode.step_exit] at hrest
              rw [ih hrest hi, Mode.other_other]
              rcases Nat.mod_two_eq_zero_or_one i with h0 | h1
              · rw [if_pos h0, if_neg (by omega)]
              · rw [if_neg (by omega), if_pos (by omega)]

/-! ## The result -/

/-- Only spaces, tabs, carriage returns and line feeds. -/
def Blank (gap : List Char) : Prop := ∀ c ∈ gap, c = ' ' ∨ c = '\t' ∨ c = '\r' ∨ c = '\n'

theorem blank_of_gap {gap : List Char} (h : ∀ c ∈ gap, Lexer.isGap c = true) : Blank gap :=
  fun c hc => by simpa [Lexer.isGap, or_assoc] using h c hc

/-- A reading from which the text that was read can be had back, and whose
tokens stand in the order that the marks prescribe. -/
structure Lossless (text : List Char) (r : Lexed) : Prop where
  /-- The tokens and the gaps before them spell the text up to its end or up to
  the fault; a gap stands only where the tokens before it have opened an
  expression. -/
  spelled : ∃ (pieces : List Piece) (gap rest : List Char),
    pieces.map Piece.token = r.tokens ∧
    text = Piece.texts pieces ++ gap ++ rest ∧
    (∀ (before : List Piece) (p : Piece) (after : List Piece), pieces = before ++ p :: after →
      Blank p.gap ∧
      (p.gap ≠ [] → Mode.through .plain (before.map Piece.token) = .expression) ∧
      p.token.location = Location.start.advance (Piece.texts before ++ p.gap)) ∧
    Blank gap ∧ (gap ≠ [] → Mode.through .plain r.tokens = .expression) ∧
    (r.fault = none → gap = [] ∧ rest = []) ∧
    (∀ (cause : LexicalFault) (place : Location), r.fault = some (cause, place) →
      place = Location.start.advance (Piece.texts pieces ++ gap) ∧ rest ≠ [])
  text_full : ∀ t ∈ r.tokens, t.kind = .text →
    t.text ≠ "" ∧ ¬ Lexer.openingMark <:+: t.text.toList
  texts_apart : ∀ (before : List Token) (t u : Token) (after : List Token),
    r.tokens = before ++ t :: u :: after → ¬ (t.kind = .text ∧ u.kind = .text)
  marks_alternate : ∀ i kind, (marks r.tokens)[i]? = some kind →
    kind = if i % 2 = 0 then .opening else .closing
  /-- Plain text stands outside of expressions, and all but the marks inside. -/
  modes_kept : ∀ (before : List Token) (t : Token) (after : List Token),
    r.tokens = before ++ t :: after →
    (t.kind = .text → Mode.through .plain before = .plain) ∧
    (t.kind ≠ .text → t.kind ≠ .opening → t.kind ≠ .ending →
      Mode.through .plain before = .expression)
  one_ending : r.fault = none → ∃ (before : List Token) (last : Token),
    r.tokens = before ++ [last] ∧ last.kind = .ending ∧ ∀ t ∈ before, t.kind ≠ .ending
  no_ending : r.fault ≠ none → ∀ t ∈ r.tokens, t.kind ≠ .ending

theorem tokenize_lossless (text : String) : Lossless text.toList (tokenize text) := by
  have hrun := Lexer.tokensFrom_run .plain .start text.toList
  obtain ⟨pieces, gap, rest, hcut⟩ := Lexer.run_cut hrun
  refine ⟨⟨pieces, gap, rest, hcut.tokens, hcut.text, ?_, blank_of_gap hcut.blank, hcut.inside,
    fun hnone => ⟨(hcut.finished hnone).1, (hcut.finished hnone).2.1⟩, hcut.stopped⟩,
    Lexer.run_text hrun, ?_, ?_, ?_, Lexer.run_ending hrun, Lexer.run_no_ending hrun⟩
  · rintro before p after rfl
    obtain ⟨hgap, hmode, hplace, -, -⟩ := hcut.fits.split
    refine ⟨blank_of_gap hgap, hmode, ?_⟩
    rw [hplace, Location.advance_append]
  · intro before t u after heq
    have hchain := Lexer.run_texts_apart hrun
    rw [show tokenize text = Lexer.tokensFrom .plain .start text.toList from rfl] at heq
    rw [heq, List.isChain_append_cons_cons] at hchain
    exact hchain.2.1
  · intro i kind hi
    have hfits := hcut.fits
    rw [show (tokenize text).tokens = pieces.map Piece.token from hcut.tokens.symm] at hi
    exact hfits.marks_alternate hi
  · intro before t after heq
    rw [show (tokenize text).tokens = pieces.map Piece.token from hcut.tokens.symm] at heq
    obtain ⟨front, back, rfl, hfront, hback⟩ := List.map_eq_append_iff.mp heq
    obtain ⟨p, back', rfl, rfl, -⟩ := List.map_eq_cons_iff.mp hback
    obtain ⟨-, -, -, hallow, -⟩ := hcut.fits.split
    rw [hfront] at hallow
    constructor
    · intro hk
      cases hm : Mode.through .plain before with
      | plain => rfl
      | expression =>
          rw [hm] at hallow
          exact absurd hk hallow.1
    · intro h1 h2 h3
      cases hm : Mode.through .plain before with
      | plain =>
          rw [hm] at hallow
          rcases hallow with h | h | h
          · exact absurd h h1
          · exact absurd h h2
          · exact absurd h h3
      | expression => rfl

end Inlay
