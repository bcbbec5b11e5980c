import Inlay.Proofs.Adjacency
import Inlay.Proofs.Joining

/-!
# Texts cut after a token

Inside an expression a text may be cut after a token and go on otherwise: the
tokens up to the cut stay what they are (`exists_cut`). A lexeme is read to its end
by looking at the character behind it. The exponent of a number alone looks
further, past an `e` and a sign. A blank is no part of one wherever it is put
(`exponent_respaced`). Anything else may complete an exponent, but then the number has
a name right behind it, and tokens that derive a phrase never meet like that
(`Derives.meets`).
-/

namespace Inlay

namespace Lexer

/-! ## The character behind a lexeme -/

theorem takeWhile_next {p : Char → Bool} {xs s : List Char} (s' : List Char)
    (h : (xs ++ s).takeWhile p = xs) (hs : s.head? = s'.head?) : (xs ++ s').takeWhile p = xs := by
  have hx : ∀ c ∈ xs, p c = true := fun c hc => List.mem_takeWhile_imp (h.symm ▸ hc)
  rw [List.takeWhile_append_of_pos hx] at h ⊢
  have hnil : s.takeWhile p = [] := List.append_right_eq_self.mp h
  have hnil' : s'.takeWhile p = [] := by
    cases s with
    | nil =>
        rw [List.head?_eq_none_iff.mp hs.symm]
        rfl
    | cons d s =>
        obtain ⟨more, rfl⟩ := List.head?_eq_some_iff.mp hs.symm
        rw [List.takeWhile_cons] at hnil ⊢
        split at hnil
        · cases hnil
        · rename_i hd
          rw [if_neg hd]
  rw [hnil', List.append_nil]

theorem fractionOf_next {xs s : List Char} (s' : List Char) (h : fractionOf (xs ++ s) = xs)
    (hs : s.head? = s'.head?) : fractionOf (xs ++ s') = xs := by
  cases xs with
  | nil =>
      cases s' with
      | nil => rfl
      | cons d s' =>
          obtain ⟨more, rfl⟩ := List.head?_eq_some_iff.mp hs
          by_cases hd : d = '.'
          · subst hd
            cases h
          · unfold fractionOf
            split
            · rename_i heq
              exact absurd (List.cons.inj heq).1 hd
            · rfl
  | cons c xs =>
      have hc : c = '.' := by
        by_contra hc
        unfold fractionOf at h
        split at h
        · rename_i heq
          exact hc (List.cons.inj heq).1
        · cases h
      subst hc
      have hdigits : (xs ++ s).takeWhile isDigit = xs := (List.cons.inj h).2
      exact congrArg ('.' :: ·) (takeWhile_next s' hdigits hs)

theorem exponent_other {d : Char} (hd : d ≠ 'e' ∧ d ≠ 'E') (rest : List Char) :
    exponent (d :: rest) = [] := by
  have hmark : (d == 'e' || d == 'E') = false := by simp [hd]
  simp only [exponent, hmark]
  rfl

/-- An exponent needs a digit behind its mark and its sign. -/
theorem exponent_eq_nil {mark sign : Char} {more : List Char} :
    exponent (mark :: sign :: more) = [] ↔ mark = 'e' ∨ mark = 'E' →
      (if sign == '+' || sign == '-' then more else sign :: more).takeWhile isDigit = [] := by
  simp only [exponent]
  split_ifs <;> simp_all

theorem digits_respaced {b : Char} (hb : isGap b = true) {s x : List Char} (y : List Char)
    (h : (s ++ x).takeWhile isDigit = []) : (s ++ b :: y).takeWhile isDigit = [] := by
  cases s with
  | nil => exact List.takeWhile_cons_of_neg (by simp [isDigit_blank hb])
  | cons c s =>
      have hc : ¬ isDigit c = true := fun hc => by simp [hc] at h
      exact List.takeWhile_cons_of_neg hc

/-- Where no exponent starts, none does with a blank put in. -/
theorem exponent_respaced {b : Char} (hb : isGap b = true) {s x : List Char} (y : List Char)
    (h : exponent (s ++ x) = []) : exponent (s ++ b :: y) = [] := by
  match s with
  | [] => exact exponent_blank hb .none y
  | [mark] =>
      have hsign : (b == '+' || b == '-') = false := by
        rcases isGap_iff.mp hb with rfl | rfl | rfl | rfl <;> rfl
      refine exponent_eq_nil.mpr fun _ => ?_
      rw [hsign]
      exact digits_respaced hb (s := []) (x := []) y rfl
  | mark :: sign :: more =>
      refine exponent_eq_nil.mpr fun hmark => ?_
      have hdigits := exponent_eq_nil.mp h hmark
      split_ifs at hdigits ⊢
      · exact digits_respaced hb y hdigits
      · exact digits_respaced hb (s := sign :: more) y hdigits

theorem exponent_next {xs rest rest' : List Char} {d : Char}
    (h : exponent (xs ++ d :: rest) = xs)
    (hd : exponent (d :: rest) = [] → exponent (d :: rest') = []) :
    exponent (xs ++ d :: rest') = xs := by
  have hpower : IsPower xs := h ▸ exponent_isPower (xs ++ d :: rest)
  have hstop : (d :: rest).takeWhile isDigit = [] → (d :: rest').takeWhile isDigit = [] := by
    simp [List.takeWhile_cons]
  cases hpower with
  | none => exact hd h
  | @unsigned mark digits hm hdigits =>
      rw [List.cons_append, exponent_unsigned hm hdigits] at h ⊢
      rw [hstop (List.append_right_eq_self.mp (List.cons.inj h).2), List.append_nil]
  | @signed mark sign digits hm hs hdigits =>
      rw [List.cons_append, List.cons_append, exponent_signed hm hs hdigits] at h ⊢
      have hrun := List.append_right_eq_self.mp (List.cons.inj (List.cons.inj h).2).2
      rw [hstop hrun, List.append_nil]

/-- A number is read to its end by the character behind it, if that does not start
an exponent in the other text when it does not in this one. -/
theorem number_next {kind : TokenKind} {more rest rest' : List Char} {d : Char}
    (h : number (more ++ d :: rest) = (kind, more))
    (hd : exponent (d :: rest) = [] → exponent (d :: rest') = []) :
    number (more ++ d :: rest') = (kind, more) := by
  obtain ⟨whole, fraction, power, hw, hf, hp, heq⟩ := number_eq (more ++ d :: rest)
  obtain ⟨hkind, hmore⟩ := Prod.mk.inj (heq.symm.trans h)
  have hall : ∀ rest, more ++ d :: rest = whole ++ (fraction ++ (power ++ d :: rest)) := by
    intro rest
    rw [← hmore]
    simp
  have hhead : (power ++ d :: rest).head? = (power ++ d :: rest').head? := by cases power <;> rfl
  have hhead' : (fraction ++ (power ++ d :: rest)).head? =
      (fraction ++ (power ++ d :: rest')).head? := by
    cases fraction with
    | nil => exact hhead
    | cons => rfl
  rw [hall, List.drop_left] at hf hp
  rw [List.drop_left] at hp
  rw [hall] at hw
  have hw' := takeWhile_next _ hw.symm hhead'
  have hf' := fractionOf_next _ hf.symm hhead
  have hp' := exponent_next hp.symm hd
  obtain ⟨whole', fraction', power', hw₁, hf₁, hp₁, heq'⟩ := number_eq (more ++ d :: rest')
  rw [hall] at hw₁ hf₁ hp₁
  obtain rfl : whole' = whole := hw₁.trans hw'
  rw [List.drop_left] at hf₁ hp₁
  obtain rfl : fraction' = fraction := hf₁.trans hf'
  rw [List.drop_left] at hp₁
  obtain rfl : power' = power := hp₁.trans hp'
  rw [heq', hkind, hmore]

/-- A string is closed by a quote that no other follows. -/
theorem quotedTail_next {tail rest rest' : List Char} {d : Char}
    (h : quotedTail (tail ++ d :: rest) = some tail) :
    quotedTail (tail ++ d :: rest') = some tail := by
  generalize hs : tail ++ d :: rest = s at h
  fun_induction quotedTail s generalizing tail with
  | case1 => cases h
  | case2 s ih =>
      obtain ⟨inner, hinner, rfl⟩ := Option.map_eq_some_iff.mp h
      obtain rfl := (List.cons.inj (List.cons.inj hs).2).2
      rw [List.cons_append, List.cons_append, quotedTail, ih rfl hinner]
      rfl
  | case3 s hquote =>
      obtain rfl := Option.some.inj h
      obtain rfl := (List.cons.inj hs).2
      rw [List.cons_append, List.nil_append, quotedTail.eq_3]
      intro more heq
      exact hquote rest (congrArg (· :: rest) (List.cons.inj heq).1)
  | case4 c s hquote hc ih =>
      obtain ⟨inner, hinner, rfl⟩ := Option.map_eq_some_iff.mp h
      obtain rfl := (List.cons.inj hs).2
      rw [List.cons_append, quotedTail.eq_4, ih rfl hinner]
      · rfl
      · intro _ h _
        exact hc h
      · exact hc

/-- A lexeme is read to its end by the character behind it, unless it is a number
and that character might start its exponent. -/
theorem lexeme_next {c d : Char} {more rest rest' : List Char} {kind : TokenKind}
    (h : lexeme c (more ++ d :: rest) = .ok (kind, more))
    (hd : isDigit c = true → exponent (d :: rest) = [] → exponent (d :: rest') = []) :
    lexeme c (more ++ d :: rest') = .ok (kind, more) := by
  have hhead : (more ++ d :: rest).head? = (more ++ d :: rest').head? := by cases more <;> rfl
  have hclose : closingMark.isPrefixOf (c :: (more ++ d :: rest)) =
      closingMark.isPrefixOf (c :: (more ++ d :: rest')) := by
    cases more <;> simp [closingMark, List.isPrefixOf]
  unfold lexeme at h ⊢
  rw [hhead, hclose] at h
  split_ifs at h ⊢ with _ hword hdigit hquote
  · exact h
  · obtain ⟨hkind, hrun⟩ := Prod.mk.inj (Except.ok.inj h)
    have hrun' := takeWhile_next (d :: rest') hrun rfl
    rw [hrun] at hkind
    dsimp only
    rw [hrun', hkind]
  · exact congrArg _ (number_next (Except.ok.inj h) (hd hdigit))
  · split at h
    · rename_i tail htail
      obtain ⟨rfl, rfl⟩ := Prod.mk.inj (Except.ok.inj h)
      rw [quotedTail_next htail]
    · cases h
  · exact h
  · exact h
  · exact h

/-! ## Cuts -/

/-- What may come behind a token in another text: a blank, or a digit behind a
minus, if no name stands right behind a number before it. -/
inductive Resumes (before : List Token) (last : Token) : List Char → Prop
  | gap {b : Char} (hb : isGap b = true) (rest : List Char) : Resumes before last (b :: rest)
  | digit {c : Char} (hmeets : (before ++ [last]).IsChain Grammar.Meets)
      (hk : last.kind = .minus) (hc : isDigit c = true) (rest : List Char) :
      Resumes before last (c :: rest)

theorem Resumes.of_append {us before : List Token} {last : Token} {more : List Char}
    (h : Resumes (us ++ before) last more) : Resumes before last more := by
  cases h with
  | gap hb rest => exact .gap hb rest
  | digit hmeets hk hc rest =>
      rw [List.append_assoc] at hmeets
      exact .digit hmeets.right_of_append hk hc rest

/-- A text cut right behind a token: its tokens up to there are the same in every
text that goes on otherwise, and are its own. -/
structure CutAfter (mode : Mode) (place : Location) (cs front : List Char) (before : List Token)
    (last : Token) : Prop where
  text : front <+: cs
  ne_nil : front ≠ []
  ends : ∃ source, front = source ++ last.source ∧ last.location = place.advance source
  starts : mode = .plain → openingMark <+: cs → openingMark <+: front
  read : ∀ more, Resumes before last more ∨ cs = front ++ more →
    tokensFrom mode place (front ++ more) =
      Lexed.prepend (before ++ [last]) (tokensFrom .expression (place.advance front) more)

/-- A name is read where an exponent might have started. -/
theorem tokensFrom_mark {d : Char} (hd : d = 'e' ∨ d = 'E') (place : Location)
    (rest : List Char) :
    ∃ t more, (tokensFrom .expression place (d :: rest)).tokens = t :: more ∧
      t.kind = .identifier := by
  have hgap : isGap d = false := by rcases hd with rfl | rfl <;> rfl
  have hlexeme : lexeme d rest = .ok (.identifier, rest.takeWhile isWordPart) := by
    rcases hd with rfl | rfl <;> rfl
  rw [tokensFrom]
  simp only [hgap, hlexeme]
  exact ⟨_, _, rfl, rfl⟩

theorem CutAfter.first {place : Location} {c : Char} {more rest : List Char} {kind : TokenKind}
    (hgap : ¬ isGap c = true) (hl : Lexer.lexeme c (more ++ rest) = .ok (kind, more))
    (hk : kind ≠ .closing) :
    CutAfter .expression place (c :: (more ++ rest)) (c :: more) []
      ⟨kind, tokenText kind (c :: more), place⟩ where
  text := List.prefix_append (c :: more) rest
  ne_nil := List.cons_ne_nil c more
  ends := ⟨[], ((lexeme_sound hl).1.source_eq place).symm, rfl⟩
  starts := nofun
  read behind hbehind := by
    have hlex := (lexeme_sound hl).1
    rcases hbehind with (⟨hb, rest⟩ | ⟨-, hminus, hc, rest⟩) | hown
    · rw [tokensFrom_lexeme hb hlex hk, tokensFrom_gap hb]
      rfl
    · obtain rfl : kind = .minus := hminus
      rw [hlex.eq_spelling rfl]
      exact tokensFrom_minus hc place rest
    · obtain rfl : rest = behind := by simpa using hown
      have hstep := tokensFrom_step hgap hl place
      rw [modeAfter_inside hk] at hstep
      exact hstep

/-- A text that is cut may stand behind another step of the reading. -/
theorem CutAfter.behind {mode mode' : Mode} {place : Location} {rest front : List Char}
    {before : List Token} {last : Token} (source : List Char) (us : List Token)
    (h : CutAfter mode' (place.advance source) rest front before last)
    (hstarts : mode = .plain → openingMark <+: source ++ rest → openingMark <+: source ++ front)
    (hstep : ∀ more, Resumes (us ++ before) last more ∨ rest = front ++ more →
      tokensFrom mode place (source ++ (front ++ more)) =
        Lexed.prepend us (tokensFrom mode' (place.advance source) (front ++ more))) :
    CutAfter mode place (source ++ rest) (source ++ front) (us ++ before) last where
  text := (List.prefix_append_right_inj source).mpr h.text
  ne_nil := List.append_ne_nil_of_right_ne_nil source h.ne_nil
  ends := by
    obtain ⟨inner, hfront, hplace⟩ := h.ends
    exact ⟨source ++ inner, by rw [hfront, List.append_assoc],
      by rw [hplace, Location.advance_append]⟩
  starts := hstarts
  read more hmore := by
    rw [List.append_assoc, List.append_cancel_left_eq] at hmore
    rw [List.append_assoc, hstep more hmore, h.read more (hmore.imp_left Resumes.of_append),
      ← Location.advance_append]
    simp [Lexed.prepend]

/-- A number is not followed by what might start its exponent, where the tokens
do not meet. -/
theorem CutAfter.not_mark {place : Location} {c : Char} {more rest front : List Char}
    {kind : TokenKind} {u : Token} {before after : List Token} {last : Token}
    (hl : Lexer.lexeme c (more ++ rest) = .ok (kind, more)) (hu : u.kind = kind)
    (h : CutAfter (modeAfter kind) (place.advance (c :: more)) rest front before last)
    (htokens : (tokensFrom (modeAfter kind) (place.advance (c :: more)) rest).tokens =
      before ++ last :: after)
    (hmeets : (u :: (before ++ [last])).IsChain Grammar.Meets) (hc : isDigit c = true) :
    ∀ d ∈ front.head?, d ≠ 'e' ∧ d ≠ 'E' := by
  refine fun d hd => not_or.mp fun hmark => ?_
  obtain ⟨front', rfl⟩ := List.head?_eq_some_iff.mp hd
  obtain ⟨rest, rfl⟩ := h.text
  have hkind : kind = .integer ∨ kind = .float := by
    rw [lexeme_digit hc] at hl
    exact number_kind (Except.ok.inj hl)
  have hafter : modeAfter kind = .expression := by rcases hkind with rfl | rfl <;> rfl
  obtain ⟨v, vs, hv, hname⟩ := tokensFrom_mark hmark (place.advance (c :: more)) (front' ++ rest)
  rw [hafter, List.cons_append, hv] at htokens
  refine (List.isChain_cons.mp hmeets).1 v ?_ (hu ▸ hkind) hname
  have hhead := congrArg List.head? htokens
  cases before <;> exact hhead.symm

/-- A lexeme in front of a text that is cut. -/
theorem CutAfter.lexeme {place : Location} {c : Char} {more rest front : List Char}
    {kind : TokenKind} {before after : List Token} {last : Token} (hgap : ¬ isGap c = true)
    (hl : Lexer.lexeme c (more ++ rest) = .ok (kind, more))
    (h : CutAfter (modeAfter kind) (place.advance (c :: more)) rest front before last)
    (htokens : (tokensFrom (modeAfter kind) (place.advance (c :: more)) rest).tokens =
      before ++ last :: after) :
    CutAfter .expression place (c :: (more ++ rest)) (c :: (more ++ front))
      (⟨kind, tokenText kind (c :: more), place⟩ :: before) last := by
  refine h.behind (c :: more) [_] nofun fun behind hbehind => ?_
  have hl' : Lexer.lexeme c (more ++ (front ++ behind)) = .ok (kind, more) := by
    rcases hbehind with hresumes | rfl
    · have hmark := h.not_mark hl (u := ⟨kind, tokenText kind (c :: more), place⟩) rfl htokens
      obtain ⟨d, front', rfl⟩ := List.exists_cons_of_ne_nil h.ne_nil
      obtain ⟨tail, rfl⟩ := h.text
      refine lexeme_next hl fun hc hown => ?_
      cases hresumes with
      | gap hb rest => exact exponent_respaced (s := d :: front') hb rest hown
      | digit hmeets => exact exponent_other (hmark hmeets hc d rfl) _
    · exact hl
  exact tokensFrom_step hgap hl' place

/-- A text may be cut behind each token that the expression goes on after. -/
theorem exists_cut {mode : Mode} {place : Location} {cs : List Char} {before after : List Token}
    {last t : Token} (h : (tokensFrom mode place cs).tokens = before ++ last :: t :: after)
    (hmode : mode.through (before ++ [last]) = .expression) :
    ∃ front, CutAfter mode place cs front before last := by
  fun_induction tokensFrom mode place cs generalizing before with
  | case1 => cases before <;> simp at h
  | @case2 place c rest plain hempty after' ih =>
      have hmark := eq_mark_of_plainText (List.isEmpty_iff.mp hempty)
      cases before with
      | nil =>
          obtain ⟨rfl, -⟩ := List.cons.inj h
          refine ⟨openingMark, hmark ▸ List.prefix_append .., by simp [openingMark],
            ⟨[], by simp [Token.source], rfl⟩, fun _ _ => List.prefix_refl _, fun more _ => ?_⟩
          rw [tokensFrom_opening]
          rfl
      | cons u before =>
          obtain ⟨rfl, htail⟩ := List.cons.inj h
          obtain ⟨front, hcut⟩ := ih htail hmode
          rw [hmark]
          exact ⟨_, hcut.behind _ [_] (fun _ _ => List.prefix_append ..) fun more _ =>
            tokensFrom_opening place (front ++ more)⟩
  | @case3 place c rest plain hempty ih =>
      have hne : plain ≠ [] := fun h => hempty (List.isEmpty_iff.mpr h)
      have hwhole : plain ++ (c :: rest).drop plain.length = c :: rest := plainText_append_drop _
      rw [drop_plainText hne] at ih h
      cases before with
      | nil =>
          -- plain text leaves the mode as it is
          obtain ⟨rfl, -⟩ := List.cons.inj h
          cases hmode
      | cons u before =>
          obtain ⟨rfl, htail⟩ := List.cons.inj h
          obtain ⟨front, hcut⟩ := ih htail hmode
          have hmark : openingMark <+: (c :: rest).drop plain.length := by
            refine (plainText_stops (c :: rest)).resolve_left fun hnil => ?_
            exact hcut.ne_nil (List.prefix_nil.mp (hnil ▸ hcut.text))
          have hstarts : ¬ openingMark <+: c :: rest := by
            rintro ⟨tail, htail⟩
            exact hne (by rw [← plainText_mark tail, htail])
          rw [← hwhole] at hstarts ⊢
          exact ⟨_, hcut.behind _ [_] (fun _ h => absurd h hstarts) fun more _ =>
            tokensFrom_textMark hne (plainText_no_mark _) (hcut.starts rfl hmark) place more⟩
  | case4 place c rest hgap ih =>
      obtain ⟨front, hcut⟩ := ih h hmode
      exact ⟨_, hcut.behind [c] [] (fun h => by cases h) fun more _ =>
        tokensFrom_gap hgap place (front ++ more)⟩
  | case5 => simp at h
  | @case6 place c rest hgap kind more hl source ih =>
      obtain ⟨hlex, tail, rfl⟩ := lexeme_sound hl
      rw [List.drop_left] at ih h
      cases before with
      | nil =>
          obtain ⟨rfl, -⟩ := List.cons.inj h
          refine ⟨_, CutAfter.first hgap hl ?_⟩
          rintro rfl
          cases hmode
      | cons u before =>
          obtain ⟨rfl, htail⟩ := List.cons.inj h
          have hmode' : (modeAfter kind).through (before ++ [last]) = .expression := by
            rw [← step_lexeme hlex]
            exact hmode
          obtain ⟨front, hcut⟩ := ih htail hmode'
          exact ⟨_, hcut.lexeme hgap hl htail⟩

end Lexer

end Inlay
