import Inlay.Proofs.Parsing
import Inlay.Proofs.Relexing
import Inlay.Proofs.Relocation

/-!
# Reading two texts as one

A text that ends outside of expressions is cut before the plain text at its end
(`Trailing`): up to the cut its tokens stay what they are, whatever is put in
the place of the rest. They do because each of them is read whole before the
`%` of the next closing mark, and no lexeme but a string goes on past a `%`. The
plain text at the end joins the plain text that follows, unless the two make an
opening mark between them (`Straddles`).
-/

namespace Inlay

namespace Lexer

/-! ## Plain text -/

/-- An opening mark that ends in `ys` and starts in `xs` before it. -/
def Straddles (xs ys : List Char) : Prop :=
  ∃ u v, u ≠ [] ∧ v ≠ [] ∧ openingMark = u ++ v ∧ u <:+ xs ∧ v <+: ys

theorem straddles_iff (xs ys : List Char) :
    Straddles xs ys ↔
      ['<'] <:+ xs ∧ ['%', '='] <+: ys ∨ ['<', '%'] <:+ xs ∧ ['='] <+: ys := by
  constructor
  · rintro ⟨u, v, hu, hv, heq, hxs, hys⟩
    match u with
    | [] => exact absurd rfl hu
    | [_] =>
        obtain ⟨rfl, rfl⟩ : '<' = _ ∧ ['%', '='] = v := by simpa [openingMark] using heq
        exact .inl ⟨hxs, hys⟩
    | [_, _] =>
        obtain ⟨rfl, rfl, rfl⟩ : '<' = _ ∧ '%' = _ ∧ ['='] = v := by
          simpa [openingMark] using heq
        exact .inr ⟨hxs, hys⟩
    | _ :: _ :: _ :: more =>
        obtain ⟨-, -, -, -, hnil⟩ : '<' = _ ∧ '%' = _ ∧ '=' = _ ∧ more = [] ∧ v = [] := by
          simpa [openingMark] using heq
        exact absurd hnil hv
  · rintro (⟨hxs, hys⟩ | ⟨hxs, hys⟩)
    · exact ⟨['<'], ['%', '='], by simp, by simp, rfl, hxs, hys⟩
    · exact ⟨['<', '%'], ['='], by simp, by simp, rfl, hxs, hys⟩

theorem Straddles.of_suffix {xs xs' ys : List Char} (h : Straddles xs ys) (hx : xs <:+ xs') :
    Straddles xs' ys := by
  obtain ⟨u, v, hu, hv, heq, hxs, hys⟩ := h
  exact ⟨u, v, hu, hv, heq, hxs.trans hx, hys⟩

/-- Plain text goes on into the text that follows it. -/
theorem plainText_append {xs ys : List Char} (hmark : ¬ openingMark <:+: xs)
    (hjoint : ¬ Straddles xs ys) : plainText (xs ++ ys) = xs ++ plainText ys := by
  induction xs with
  | nil => rfl
  | cons c xs ih =>
      have hhead : ¬ openingMark <+: c :: xs ++ ys := by
        rintro ⟨rest, heq⟩
        rcases List.append_eq_append_iff.mp heq with ⟨v, hxs, -⟩ | ⟨v, hopen, hys⟩
        · exact hmark ⟨[], v, hxs.symm⟩
        · rcases List.eq_nil_or_concat v with rfl | ⟨_, _, rfl⟩
          · rw [List.append_nil] at hopen
            exact hmark (hopen ▸ List.infix_refl _)
          · exact hjoint ⟨c :: xs, _, by simp, by simp, hopen, List.suffix_refl _, ⟨_, hys.symm⟩⟩
      have hmark' : ¬ openingMark <:+: xs := fun h =>
        hmark (h.trans (List.infix_cons (List.infix_refl _)))
      have hjoint' : ¬ Straddles xs ys := fun h => hjoint (h.of_suffix (List.suffix_cons c xs))
      rw [List.cons_append, plainText, if_neg (by rwa [List.isPrefixOf_iff_prefix]),
        ih hmark' hjoint', List.cons_append]

/-! ## Lexemes before a percent sign -/

theorem takeWhile_percent {p : Char → Bool} (hp : p '%' = false) (xs rest : List Char) :
    (xs ++ '%' :: rest).takeWhile p = xs.takeWhile p := by
  induction xs with
  | nil => exact List.takeWhile_cons_of_neg (by simp [hp])
  | cons c xs ih =>
      rw [List.cons_append, List.takeWhile_cons, List.takeWhile_cons, ih]

theorem exponent_percent (xs rest : List Char) : exponent (xs ++ '%' :: rest) = exponent xs := by
  have hdigits := takeWhile_percent (p := isDigit) (by decide)
  match xs with
  | [] => rfl
  | [mark] =>
      have hnone : ('%' :: rest).takeWhile isDigit = [] := hdigits [] rest
      unfold exponent
      simp only [List.cons_append, List.nil_append, hnone]
      rfl
  | mark :: sign :: more =>
      have hmore := hdigits more rest
      have hall := hdigits (sign :: more) rest
      rw [List.cons_append] at hall
      unfold exponent
      simp only [List.cons_append, hmore, hall]

theorem fractionOf_percent (xs rest : List Char) :
    fractionOf (xs ++ '%' :: rest) = fractionOf xs := by
  cases xs with
  | nil => rfl
  | cons c xs =>
      have hdigits := takeWhile_percent (p := isDigit) (by decide) xs rest
      by_cases hc : c = '.'
      · subst hc
        rw [List.cons_append, fractionOf, fractionOf, hdigits]
      · unfold fractionOf
        split
        · rename_i heq
          exact absurd (List.cons.inj heq).1 hc
        · split
          · rename_i heq
            exact absurd (List.cons.inj heq).1 hc
          · rfl

theorem number_percent (xs rest : List Char) : number (xs ++ '%' :: rest) = number xs := by
  obtain ⟨whole, fraction, power, hw, hf, hp, heq⟩ := number_eq xs
  obtain ⟨whole', fraction', power', hw', hf', hp', heq'⟩ := number_eq (xs ++ '%' :: rest)
  have hwle : whole.length ≤ xs.length := hw ▸ (List.takeWhile_prefix _).length_le
  have hfle : fraction.length ≤ (xs.drop whole.length).length :=
    hf ▸ List.IsPrefix.length_le ( fractionOf_prefix _)
  obtain rfl : whole' = whole := by rw [hw', hw, takeWhile_percent (by decide)]
  rw [List.drop_append_of_le_length hwle] at hf' hp'
  obtain rfl : fraction' = fraction := by rw [hf', hf, fractionOf_percent]
  rw [List.drop_append_of_le_length hfle] at hp'
  obtain rfl : power' = power := by rw [hp', hp, exponent_percent]
  rw [heq, heq']

/-- A string that is closed before a percent sign is closed whatever follows. -/
theorem quotedTail_percent {xs rest rest' tail : List Char}
    (h : quotedTail (xs ++ '%' :: rest) = some tail) (hle : tail.length ≤ xs.length) :
    quotedTail (xs ++ '%' :: rest') = some tail := by
  fun_induction quotedTail xs generalizing tail with
  | case1 =>
      obtain ⟨v, rfl, -⟩ := quotedTail_sound h
      simp at hle
  | case2 more ih =>
      rw [List.cons_append, List.cons_append, quotedTail] at h ⊢
      obtain ⟨inner, hinner, rfl⟩ := Option.map_eq_some_iff.mp h
      rw [ih hinner (by simpa using hle)]
      rfl
  | case3 more hmore =>
      have hclose : ∀ rest, quotedTail ('\'' :: more ++ '%' :: rest) = some ['\''] := by
        intro rest
        cases more with
        | nil => rfl
        | cons d more =>
            rw [List.cons_append, List.cons_append, quotedTail.eq_3]
            intro more' heq
            exact hmore more (congrArg (· :: more) (List.cons.inj heq).1)
      rw [hclose rest] at h
      rw [hclose rest', h]
  | case4 c more hquote hc ih =>
      have hstep : ∀ rest, quotedTail (c :: more ++ '%' :: rest) =
          (quotedTail (more ++ '%' :: rest)).map (c :: ·) := by
        intro rest
        rw [List.cons_append, quotedTail.eq_4]
        · intro _ h _
          exact hc h
        · exact hc
      rw [hstep] at h ⊢
      obtain ⟨inner, hinner, rfl⟩ := Option.map_eq_some_iff.mp h
      rw [ih hinner (by simpa using hle)]
      rfl

/-- A lexeme that is read whole before a percent sign is read whatever follows
the sign. -/
theorem lexeme_percent {c : Char} {xs rest rest' more : List Char} {kind : TokenKind}
    (h : lexeme c (xs ++ '%' :: rest) = .ok (kind, more)) (hle : more.length ≤ xs.length) :
    lexeme c (xs ++ '%' :: rest') = .ok (kind, more) := by
  have hhead : (xs ++ '%' :: rest).head? = (xs ++ '%' :: rest').head? := by cases xs <;> rfl
  have hclose : closingMark.isPrefixOf (c :: (xs ++ '%' :: rest)) =
      closingMark.isPrefixOf (c :: (xs ++ '%' :: rest')) := by
    cases xs <;> simp [closingMark, List.isPrefixOf]
  have hword : (xs ++ '%' :: rest).takeWhile isWordPart =
      (xs ++ '%' :: rest').takeWhile isWordPart := by
    rw [takeWhile_percent (by decide), takeWhile_percent (by decide)]
  have hnumber : number (xs ++ '%' :: rest) = number (xs ++ '%' :: rest') := by
    rw [number_percent, number_percent]
  unfold lexeme at h ⊢
  rw [hhead, hclose, hword, hnumber] at h
  split_ifs at h ⊢ with _ _ _ hquote
  · exact h
  · exact h
  · exact h
  · split at h
    · rename_i tail htail
      obtain ⟨rfl, rfl⟩ := Prod.mk.inj (Except.ok.inj h)
      rw [quotedTail_percent htail hle]
    · cases h
  · exact h
  · exact h
  · exact h

/-! ## The plain text at the end -/

def Lexed.prepend (ts : List Token) (r : Lexed) : Lexed := { r with tokens := ts ++ r.tokens }

/-- A text cut before the plain text at its end: `ts` are the tokens up to the
cut, whatever follows it. -/
structure Trailing (mode : Mode) (place : Location) (cs before plain : List Char)
    (ts : List Token) : Prop where
  text : cs = before ++ plain
  noMark : ¬ openingMark <:+: plain
  read : ∀ more, tokensFrom mode place (before ++ more) =
    Lexed.prepend ts (tokensFrom .plain (place.advance before) more)
  ends : mode = .plain ∧ before = [] ∨ closingMark <:+ before
  starts : mode = .plain → openingMark <+: cs → openingMark <+: before

theorem tokensFrom_plainText {cs : List Char} (h : plainText cs ≠ []) (place : Location) :
    tokensFrom .plain place cs =
      Lexed.cons ⟨.text, String.ofList (plainText cs), place⟩
        (tokensFrom .plain (place.advance (plainText cs)) (cs.drop (plainText cs).length)) := by
  cases cs with
  | nil => exact absurd rfl h
  | cons c rest =>
      rw [tokensFrom]
      dsimp only
      rw [if_neg (mt List.isEmpty_iff.mp h), drop_plainText h]

/-- Plain text and the plain text that follows it are one token. -/
theorem tokensFrom_text {xs ys : List Char} (hne : xs ≠ []) (hmark : ¬ openingMark <:+: xs)
    (hjoint : ¬ Straddles xs ys) (place : Location) :
    tokensFrom .plain place (xs ++ ys) =
      Lexed.cons ⟨.text, String.ofList (xs ++ plainText ys), place⟩
        (tokensFrom .plain ((place.advance xs).advance (plainText ys))
          (ys.drop (plainText ys).length)) := by
  have hplain := plainText_append hmark hjoint
  have hdrop : (xs ++ ys).drop (plainText (xs ++ ys)).length = ys.drop (plainText ys).length := by
    rw [hplain, List.length_append, ← List.drop_drop, List.drop_left]
  rw [tokensFrom_plainText (by simp [hplain, hne]), hdrop, hplain, Location.advance_append]

/-- Plain text at the very end is one token. -/
theorem tokensFrom_lastText {xs : List Char} (hne : xs ≠ []) (hmark : ¬ openingMark <:+: xs)
    (place : Location) :
    tokensFrom .plain place xs =
      Lexed.cons ⟨.text, String.ofList xs, place⟩ (tokensFrom .plain (place.advance xs) []) := by
  have hjoint : ¬ Straddles xs [] := fun ⟨_, _, _, hv, _, _, hnil⟩ => hv (List.prefix_nil.mp hnil)
  have htext := tokensFrom_text hne hmark hjoint place
  rwa [plainText, List.append_nil, Location.advance_nil, List.drop_nil] at htext

theorem not_straddles_mark (xs rest : List Char) : ¬ Straddles xs (openingMark ++ rest) := by
  rw [straddles_iff]
  rintro (⟨-, h⟩ | ⟨-, h⟩) <;> simp [openingMark] at h

theorem plainText_mark (rest : List Char) : plainText (openingMark ++ rest) = [] := by
  rw [openingMark, List.cons_append, plainText]
  exact if_pos rfl

/-- Plain text before an opening mark is one token. -/
theorem tokensFrom_textMark {xs front : List Char} (hne : xs ≠ []) (hmark : ¬ openingMark <:+: xs)
    (hfront : openingMark <+: front) (place : Location) (more : List Char) :
    tokensFrom .plain place (xs ++ (front ++ more)) =
      Lexed.cons ⟨.text, String.ofList xs, place⟩
        (tokensFrom .plain (place.advance xs) (front ++ more)) := by
  obtain ⟨inner, rfl⟩ := hfront
  rw [List.append_assoc, tokensFrom_text hne hmark (not_straddles_mark _ _), plainText_mark,
    List.append_nil, List.length_nil, List.drop_zero, Location.advance_nil]

/-- A lexeme in front of a text that is cut. -/
theorem Trailing.lexeme {place : Location} {c : Char} {more rest before plain : List Char}
    {kind : TokenKind} {ts : List Token} (hgap : ¬ isGap c = true)
    (hl : Lexer.lexeme c (more ++ rest) = .ok (kind, more))
    (h : Trailing (modeAfter kind) (place.advance (c :: more)) rest before plain ts) :
    Trailing .expression place (c :: (more ++ rest)) (c :: (more ++ before)) plain
      (⟨kind, tokenText kind (c :: more), place⟩ :: ts) := by
  have hsuffix : before <:+ c :: (more ++ before) := ⟨c :: more, rfl⟩
  have hread : ∀ tail, Lexer.lexeme c (more ++ (before ++ tail)) = .ok (kind, more) ∧
      closingMark <:+ c :: (more ++ before) := by
    intro tail
    rcases h.ends with ⟨hplain, rfl⟩ | ⟨inner, hbefore⟩
    · have hk : kind = .closing := by cases kind <;> first | rfl | cases hplain
      subst hk
      obtain ⟨rfl, rfl⟩ := List.cons.inj ((lexeme_sound hl).1.eq_spelling rfl)
      exact ⟨rfl, List.suffix_refl _⟩
    · have hpercent : ∀ tail, more ++ (before ++ tail) = more ++ inner ++ '%' :: ('>' :: tail) := by
        intro tail
        rw [← hbefore, closingMark]
        simp
      rw [h.text, hpercent] at hl
      rw [hpercent]
      exact ⟨lexeme_percent hl (by simp), (hbefore ▸ List.suffix_append _ _).trans hsuffix⟩
  refine ⟨by rw [h.text]; simp, h.noMark, fun tail => ?_, .inr (hread []).2, by simp⟩
  rw [List.cons_append, List.append_assoc, tokensFrom_step hgap (hread tail).1, h.read,
    ← Location.advance_append]
  rfl

/-- Every reading that ends outside of expressions, and without a fault, can be
cut before the plain text at its end. -/
theorem exists_trailing {mode : Mode} {place : Location} {cs : List Char}
    (hfault : (tokensFrom mode place cs).fault = none)
    (hmode : (tokensFrom mode place cs).mode = .plain) :
    ∃ before plain ts, Trailing mode place cs before plain ts := by
  fun_induction tokensFrom mode place cs with
  | case1 mode place =>
      obtain rfl : mode = .plain := hmode
      exact ⟨[], [], [], rfl, by simp [openingMark], fun _ => rfl, .inl ⟨rfl, rfl⟩, fun _ h => h⟩
  | case2 place c rest plain hempty after ih =>
      obtain ⟨before, plain', ts, h⟩ := ih hfault hmode
      have hmark := eq_mark_of_plainText (List.isEmpty_iff.mp hempty)
      have hends : closingMark <:+ before := h.ends.resolve_left (by simp)
      refine ⟨openingMark ++ before, plain', ⟨.opening, String.ofList openingMark, place⟩ :: ts,
        ?_, h.noMark, fun more => ?_, .inr (hends.trans (List.suffix_append _ _)),
        fun _ _ => List.prefix_append _ _⟩
      · rw [hmark, h.text, List.append_assoc]
      · rw [List.append_assoc, tokensFrom_opening, h.read, Location.advance_append]
        rfl
  | case3 place c rest plain hempty ih =>
      have hne : plain ≠ [] := fun h => hempty (List.isEmpty_iff.mpr h)
      have hnoMark : ¬ openingMark <:+: plain := plainText_no_mark _
      have hcut : plain ++ (c :: rest).drop plain.length = c :: rest := plainText_append_drop _
      rw [drop_plainText hne] at ih hfault hmode
      obtain ⟨before, plain', ts, h⟩ := ih hfault hmode
      have hstarts : ¬ openingMark <+: c :: rest := by
        rintro ⟨tail, htail⟩
        exact hne (by rw [← plainText_mark tail, htail])
      rcases plainText_stops (c :: rest) with hnil | hmark
      · have hall : plain = c :: rest := by
          rw [← hcut]
          exact (congrArg (plain ++ ·) hnil).symm ▸ (List.append_nil _).symm
        exact ⟨[], c :: rest, [], rfl, hall ▸ hnoMark, fun _ => rfl, .inl ⟨rfl, rfl⟩,
          fun _ h => absurd h hstarts⟩
      · obtain ⟨inner, hbefore⟩ := h.starts rfl hmark
        have hends : closingMark <:+ before := by
          refine h.ends.resolve_left ?_
          rintro ⟨-, rfl⟩
          simp [openingMark] at hbefore
        refine ⟨plain ++ before, plain', ⟨.text, String.ofList plain, place⟩ :: ts, ?_, h.noMark,
          fun more => ?_, .inr (hends.trans (List.suffix_append _ _)),
          fun _ h => absurd h hstarts⟩
        · rw [List.append_assoc, ← h.text, hcut]
        · rw [List.append_assoc, tokensFrom_textMark hne hnoMark ⟨inner, hbefore⟩, h.read,
            Location.advance_append]
          rfl
  | case4 place c rest hgap ih =>
      obtain ⟨before, plain, ts, h⟩ := ih hfault hmode
      have hends : closingMark <:+ before := h.ends.resolve_left (by simp)
      refine ⟨c :: before, plain, ts, congrArg (c :: ·) h.text, h.noMark, fun more => ?_,
        .inr (hends.trans (List.suffix_cons c before)), by simp⟩
      rw [List.cons_append, tokensFrom_gap hgap, h.read]
      rfl
  | case5 place c rest hgap cause hf => cases hfault
  | case6 place c rest hgap kind more hl source ih =>
      obtain ⟨-, tail, rfl⟩ := lexeme_sound hl
      rw [List.drop_left] at ih hfault hmode
      obtain ⟨before, plain, ts, h⟩ := ih hfault hmode
      exact ⟨_, _, _, h.lexeme hgap hl⟩

/-! ## Modes at the end -/

/-- A reading ends in the mode that its tokens lead to. -/
theorem run_mode {mode : Mode} {place : Location} {cs : List Char} {r : Lexed}
    (h : Run mode place cs r) : r.mode = mode.through r.tokens := by
  induction h with
  | done mode place => rfl
  | opening hr ih => exact ih
  | text hne hmark hstop hr ih => exact ih
  | gap hc hr ih => exact ih
  | @lexeme place kind source rest r hl hr ih =>
      change r.mode = (Mode.expression.step kind).through r.tokens
      rw [step_lexeme hl, ih]
  | fault hf => rfl

end Lexer

namespace Grammar

variable {between : Reader.Construct → Nat}

/-- The last token of a block is plain text or closes an expression. -/
theorem block_last {n : Nat} {es : List Expr} {ts : List Token}
    (h : Derives between n (.block es) ts) :
    ts = [] ∨ ∃ init t, ts = init ++ [t] ∧ (t.kind = .text ∨ t.kind = .closing) := by
  generalize hp : Phrase.block es = p at h
  induction h generalizing es with
  | noChildren => exact .inl rfl
  | @textChild n t es ts hk hs ih =>
      rcases ih rfl with rfl | ⟨init, u, rfl, hu⟩
      · exact .inr ⟨[], t, rfl, .inl hk⟩
      · exact .inr ⟨t :: init, u, rfl, hu⟩
  | @expressionChild n opener closer e es ts us ho he hc hs ihe ih =>
      rcases ih rfl with rfl | ⟨init, u, rfl, hu⟩
      · exact .inr ⟨opener :: ts, closer, by simp, .inr hc⟩
      · exact .inr ⟨opener :: (ts ++ closer :: init), u, by simp, hu⟩
  | _ => cases hp

/-- A block that ends in plain text is one without it, and the text. -/
theorem block_text {n : Nat} {es : List Expr} {ts : List Token} {t : Token}
    (h : Derives between n (.block es) (ts ++ [t])) (hk : t.kind = .text) :
    ∃ es', es = es' ++ [.string t.location t.text] ∧ Derives between n (.block es') ts := by
  generalize hp : Phrase.block es = p at h
  generalize hts : ts ++ [t] = us at h
  induction h generalizing es ts with
  | noChildren => simp at hts
  | @textChild n u es us hu hs ih =>
      cases hp
      cases ts with
      | nil =>
          obtain ⟨rfl, rfl⟩ := List.cons.inj hts
          rcases block_cases hs with ⟨-, rfl⟩ | ⟨_, _, _, h, -⟩ | ⟨_, _, _, _, _, _, h, -⟩
          · exact ⟨[], rfl, .noChildren⟩
          · cases h
          · cases h
      | cons v ts =>
          obtain ⟨rfl, htail⟩ := List.cons.inj hts
          obtain ⟨es', rfl, hd⟩ := ih rfl htail
          exact ⟨_ :: es', rfl, .textChild hu hd⟩
  | @expressionChild n opener closer e es us vs ho he hc hs ihe ih =>
      cases hp
      rcases List.eq_nil_or_concat vs with rfl | ⟨init, v, rfl⟩
      · have h : ts ++ [t] = opener :: us ++ [closer] := by simpa using hts
        obtain rfl : t = closer := by simpa using (List.append_inj' h rfl).2
        rw [hk] at hc
        cases hc
      · have h : ts ++ [t] = opener :: (us ++ closer :: init) ++ [v] := by simpa using hts
        obtain ⟨rfl, hv⟩ := List.append_inj' h rfl
        obtain rfl : t = v := by simpa using hv
        obtain ⟨es', rfl, hd⟩ := ih rfl (List.concat_eq_append ..).symm
        exact ⟨e :: es', rfl, .expressionChild ho he hc hd⟩
  | _ => cases hp

end Grammar

/-- A text that is read as a template ends outside of expressions. -/
theorem parse_mode {stack : Reader.Stack} {text : String} {t : Template}
    (h : Template.parse stack text = .ok t) :
    (tokenize text).mode = .plain := by
  obtain ⟨-, body, last, heq, hlast, hd, -⟩ := parse_block h
  have hrun := Lexer.tokensFrom_run .plain .start text.toList
  have hmode : (tokenize text).mode = Mode.through .plain (tokenize text).tokens :=
    Lexer.run_mode hrun
  have hbody : Mode.through .plain (tokenize text).tokens = Mode.through .plain body := by
    rw [heq, Mode.through, Mode.through, List.foldl_append, List.foldl_cons, List.foldl_nil, hlast]
    rfl
  rw [hmode, hbody]
  rcases Grammar.block_last hd with rfl | ⟨init, u, rfl, hu | hu⟩
  · rfl
  · have hallows : (Mode.plain.through init).Allows .text :=
      hu ▸ Lexer.run_allows hrun (heq.trans (List.append_assoc init [u] [last]))
    have hinit : Mode.plain.through init = .plain := by
      cases hm : Mode.plain.through init with
      | plain => rfl
      | expression => exact absurd rfl (hm ▸ hallows).1
    rw [Mode.through, List.foldl_append, List.foldl_cons, List.foldl_nil, hu]
    exact hinit
  · rw [Mode.through, List.foldl_append, List.foldl_cons, List.foldl_nil, hu]
    rfl

/-! ## Templates -/

/-- The children of two templates one after another, where the last text of the
first and the first text of the second may have become one. -/
inductive Joins : List Expr → List Expr → List Expr → Prop
  | apart (es cs : List Expr) : Joins es cs (es ++ cs)
  | merged (es : List Expr) (l m : Location) (x y : String) (cs : List Expr) :
      Joins (es ++ [.string l x]) (.string m y :: cs) (es ++ .string l (x ++ y) :: cs)

namespace Reader

variable {stack : Stack}

theorem tokensFrom_plain_ne_nil (place : Location) (cs : List Char) :
    (Lexer.tokensFrom .plain place cs).tokens ≠ [] := by
  have hrun := Lexer.tokensFrom_run .plain place cs
  generalize Lexer.tokensFrom .plain place cs = r at hrun ⊢
  cases hrun <;> simp [Lexer.Lexed.cons]

/-- The tokens of a block are read as its children, whatever follows. -/
theorem children_block {es : List Expr} {ts rest : List Token}
    (hd : Grammar.Derives stack.between stack.room (.block es) ts) (hread : Readable ts)
    (hrest : rest ≠ []) : stack.children (ts ++ rest) = (stack.children rest).map (es ++ ·) :=
  (children_append hd hread hrest).resolve_right fun h => absurd h.2 (Nat.lt_irrefl _)

/-- A block whose last text goes on into the text that follows it. -/
theorem children_merged {es : List Expr} {ts rest : List Token} {l m : Location} {x y : String}
    (hd : Grammar.Derives stack.between stack.room (.block es) (ts ++ [⟨.text, x, l⟩]))
    (hread : Readable ts) (hrest : rest ≠ []) :
    ∃ g : List Expr → List Expr,
      stack.children (ts ++ ⟨.text, x ++ y, l⟩ :: rest) =
          (stack.children (⟨.text, y, m⟩ :: rest)).map g ∧
        ∀ cs, stack.children (⟨.text, y, m⟩ :: rest) = .ok cs → Joins es cs (g cs) := by
  obtain ⟨es', rfl, hd'⟩ := Grammar.block_text hd rfl
  refine ⟨fun cs => es' ++ .string l (x ++ y) :: cs.tail, ?_, fun cs hcs => ?_⟩
  · rw [children_block hd' hread (List.cons_ne_nil _ _), stack.children_eq, stack.children_eq,
      children_text rfl hrest, children_text rfl hrest]
    cases Reader.children (within stack.between stack.room) rest <;> rfl
  · rw [stack.children_eq, children_text rfl hrest] at hcs
    obtain ⟨cs', -, rfl⟩ := exists_of_map_eq_ok hcs
    exact .merged es' l m x y cs'

/-- What is read of a text in front of which another one is put: its children
behind those of the other, or the same stop. -/
theorem children_join {a b : String} {s : Template} (ha : Template.parse stack a = .ok s)
    (hjoint : ¬ Lexer.Straddles a.toList b.toList) :
    let behind := Lexer.tokensFrom .plain (Location.start.advance a.toList) b.toList
    (tokenize (a ++ b)).fault = behind.fault ∧
      ∃ g : List Expr → List Expr,
        stack.children (tokenize (a ++ b)).tokens = (stack.children behind.tokens).map g ∧
          ∀ cs, stack.children behind.tokens = .ok cs → Joins s.children cs (g cs) := by
  intro behind
  obtain ⟨hfault, body, last, htokens, -, hd, hread⟩ := parse_block ha
  obtain ⟨before, plain, ts, h⟩ := Lexer.exists_trailing hfault (parse_mode ha)
  have hjoint' : ¬ Lexer.Straddles plain b.toList :=
    fun hs => hjoint (hs.of_suffix (h.text ▸ List.suffix_append _ _))
  have hbehind : behind.tokens ≠ [] := tokensFrom_plain_ne_nil _ _
  have hplace : Location.start.advance a.toList =
      (Location.start.advance before).advance plain := by
    rw [h.text, Location.advance_append]
  have hall : tokenize (a ++ b) = Lexer.Lexed.prepend ts
      (Lexer.tokensFrom .plain (Location.start.advance before) (plain ++ b.toList)) := by
    rw [← h.read, ← List.append_assoc, ← h.text, ← String.toList_append]
    rfl
  have hfirst : ts ++ (Lexer.tokensFrom .plain (Location.start.advance before) plain).tokens =
      body ++ [last] := by
    have hread := h.read plain
    rw [← h.text] at hread
    exact (congrArg Lexed.tokens hread).symm.trans htokens
  -- where plain text does not meet plain text, the tokens stand one after another
  have hapart : tokenize (a ++ b) = Lexer.Lexed.prepend body behind →
      (tokenize (a ++ b)).fault = behind.fault ∧ ∃ g : List Expr → List Expr,
        stack.children (tokenize (a ++ b)).tokens = (stack.children behind.tokens).map g ∧
          ∀ cs, stack.children behind.tokens = .ok cs → Joins s.children cs (g cs) := by
    intro heq
    rw [heq]
    exact ⟨rfl, (s.children ++ ·), children_block hd hread hbehind, fun cs _ => .apart _ cs⟩
  by_cases hplain : plain = []
  · subst hplain
    rw [Lexer.tokensFrom_nil] at hfirst
    obtain rfl : ts = body := (List.append_inj' hfirst rfl).1
    refine hapart ?_
    rw [hall, List.nil_append, ← Location.advance_nil (Location.start.advance before), ← hplace]
  · rw [Lexer.tokensFrom_lastText hplain h.noMark, Lexer.tokensFrom_nil] at hfirst
    have hends : ∀ t u : Token, ts ++ [t, u] = ts ++ [t] ++ [u] := by simp
    obtain rfl : ts ++ [⟨.text, String.ofList plain, Location.start.advance before⟩] = body :=
      (List.append_inj' ((hends _ _).symm.trans hfirst) rfl).1
    rw [Lexer.tokensFrom_text hplain h.noMark hjoint', ← hplace] at hall
    by_cases hb : Lexer.plainText b.toList = []
    · refine hapart ?_
      rw [hall, hb, List.append_nil, Location.advance_nil, List.length_nil, List.drop_zero]
      simp [Lexer.Lexed.prepend, Lexer.Lexed.cons, behind]
    · rw [hall, String.ofList_append]
      have heq : behind = _ := Lexer.tokensFrom_plainText hb _
      rw [heq]
      exact ⟨rfl, children_merged hd hread.left (tokensFrom_plain_ne_nil _ _)⟩

end Reader

/-- A text behind one that is read as a template is read as it is alone, with
its places moved: its children follow those of the template, or it fails for
the same reason. -/
theorem parse_append {stack : Reader.Stack} {a b : String} {s : Template}
    (ha : Template.parse stack a = .ok s) (hjoint : ¬ Lexer.Straddles a.toList b.toList) :
    (∀ t, Template.parse stack b = .ok t → ∃ u, Template.parse stack (a ++ b) = .ok u ∧
      Joins s.children (t.children.map (Expr.relocate (Location.behind a.toList))) u.children) ∧
    ∀ failure, Template.parse stack b = .error failure →
      Template.parse stack (a ++ b) = .error (failure.relocate (Location.behind a.toList)) := by
  have hshift := Location.behind_shift a.toList
  obtain ⟨hfault, g, hg, hjoins⟩ := Reader.children_join ha hjoint
  have hmoved : Lexer.tokensFrom .plain (Location.start.advance a.toList) b.toList =
      (tokenize b).relocate (Location.behind a.toList) := by
    rw [← Location.behind_start]
    exact Lexer.tokensFrom_relocate hshift .plain (Nat.le_refl 1) b.toList
  rw [hmoved] at hfault hg hjoins
  have hpaired := Reader.children_relocate
    (Reader.keepsTouching_of_shift hshift (tokenize b).tokens) stack
  change Reader.Paired _ _ _ (stack.children (Lexed.relocate _ (tokenize b)).tokens) at hpaired
  unfold Template.parse
  dsimp only
  rw [hg, hfault]
  generalize stack.children (tokenize b).tokens = x at hpaired
  generalize stack.children ((tokenize b).relocate (Location.behind a.toList)).tokens = y
    at hpaired hjoins
  cases hpaired with
  | ok hes =>
      subst hes
      refine ⟨fun t ht => ⟨_, rfl, ?_⟩, nofun⟩
      obtain rfl := Except.ok.inj ht
      exact hjoins _ rfl
  | @both stop _ hstop =>
      obtain rfl : _ = stop.relocate _ := hstop
      refine ⟨nofun, fun failure hfailure => ?_⟩
      obtain rfl := Except.error.inj hfailure
      exact congrArg Except.error (Reader.Stop.toFailure_relocate _ _ stop)
  | alone hstop => exact hstop.elim

end Inlay
