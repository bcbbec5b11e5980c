import Inlay.Proofs.Lossless
import Inlay.Proofs.Parsing
import Inlay.Proofs.ReaderStops
import Inlay.Proofs.Relexing

/-!
# What reading a text comes to

Every text is read as a template, or rejected, or nests too deep, with one
exception: an integer of more digits than a numeral may have ends the reading
with a failure of its own, which no message of the reader is about. All else
that can go wrong is accounted for by a token or by the lexical fault that cut
the tokens short; the ending token is never passed.

For a text that is a template but for its integers, it is the integers that
decide: it is read if all are accepted, and fails at the first that is not.
-/

namespace Inlay

open Grammar

namespace Reader

/-- Reading the tokens of a text, beside reading them with zeros. -/
theorem tokens_zeroed (stack : Stack) (text : String) :
    Paired (zeroedStops (tokenize text).tokens) (fun _ _ => IntegersFit (tokenize text).tokens)
      (stack.children (tokenize text).tokens)
      (stack.children ((tokenize text).tokens.map Token.zeroed)) := by
  have hrun := Lexer.tokensFrom_run .plain .start text.toList
  change Lexer.Run .plain .start text.toList (tokenize text) at hrun
  have sim := similar_zeroed (Lexer.run_formed hrun)
  refine (children_paired sim (within_paired sim stack.between stack.room) (.start _)).imp ?_
  rintro - - ⟨-, last, more, ⟨used, heq, hpassed⟩, hlast⟩
  obtain ⟨before, final, hall, -, hbefore⟩ : ∃ (before : List Token) (final : Token),
      (tokenize text).tokens = before ++ [final] ∧ final.kind = .ending ∧
        ∀ t ∈ before, t.kind ≠ .ending := by
    cases hfault : (tokenize text).fault with
    | none => exact Lexer.run_ending hrun hfault
    | some fault =>
        exact absurd hlast (Lexer.run_no_ending hrun (by simp [hfault]) last (by simp [heq]))
  -- the ending token that was reached is the one at the end
  obtain rfl : more = [] := by
    rcases List.eq_nil_or_concat more with hnil | ⟨front, back, rfl⟩
    · exact hnil
    · rw [hall, List.concat_eq_append, ← List.cons_append, ← List.append_assoc] at heq
      obtain ⟨rfl, -⟩ := List.append_inj' heq rfl
      exact absurd hlast (hbefore last (by simp))
  rw [heq]
  exact hpassed.fit.append hpassed.noMinus (.other (by simp [hlast]))

end Reader

/-- What can keep a text from being read as a template, each with what it is
about: the fault that ended the tokens, one of the tokens, or the first integer
that is not accepted. -/
inductive ParseFailure.Accounted (text : String) : ParseFailure → Prop
  | lexical {cause : LexicalFault} {l : Location} (h : (tokenize text).fault = some (cause, l)) :
      Accounted text (.rejected (.lexical cause) l)
  | tooDeep {t : Token} (ht : t ∈ (tokenize text).tokens) : Accounted text (.tooDeep t.location)
  | expected (what : Expectation) {t : Token} (ht : t ∈ (tokenize text).tokens) :
      Accounted text (.rejected (.expected what t.description) t.location)
  | duplicate {t : Token} (ht : t ∈ (tokenize text).tokens) (hk : t.kind = .identifier) :
      Accounted text (.rejected (.duplicateParameter t.text) t.location)
  | float {before : List Token} {negative : Bool} {t : Token} {l : Location}
      (h : NumberIn (tokenize text).tokens before negative t l) (hk : t.kind = .float) :
      Accounted text (.rejected (.floatOutOfRange (signed negative t.text)) l)
  | integer {before : List Token} {negative : Bool} {t : Token} {l : Location}
      (h : NumberIn (tokenize text).tokens before negative t l) (hk : t.kind = .integer)
      (hfit : IntegersFit before) (hno : ¬ Accepted negative t) :
      Accounted text (Reader.integerFailure negative t l)

namespace Reader

theorem Blames.accounted {text : String} {stop : Stop} (h : Blames (tokenize text).tokens stop) :
    (stop.toFailure (tokenize text).fault).Accounted text := by
  cases h with
  | cutShort hend =>
      cases hfault : (tokenize text).fault with
      | none =>
          obtain ⟨before, last, heq, hlast, -⟩ :=
            Lexer.run_ending (Lexer.tokensFrom_run .plain .start text.toList) hfault
          change (tokenize text).tokens = _ at heq
          exact absurd hlast (hend last (by simp [heq]))
      | some fault => exact .lexical hfault
  | tooDeep ht => exact .tooDeep ht
  | expected what ht => exact .expected what ht
  | duplicate ht hk => exact .duplicate ht hk
  | float hin hk => exact .float hin hk

theorem Refuses.accounted {text : String} {stop : Stop}
    (h : Refuses (tokenize text).tokens stop) :
    (stop.toFailure (tokenize text).fault).Accounted text := by
  cases h with
  | integer hin hk hfit hno => exact .integer hin hk hfit hno

end Reader

/-- Every failure is accounted for. -/
theorem parse_accounted {stack : Reader.Stack} {text : String} {failure : ParseFailure}
    (h : Template.parse stack text = .error failure) : failure.Accounted text := by
  have hpaired := Reader.tokens_zeroed stack text
  unfold Template.parse at h
  dsimp only at h
  generalize stack.children (tokenize text).tokens = x at h hpaired
  generalize stack.children ((tokenize text).tokens.map Token.zeroed) = y at hpaired
  cases hpaired with
  | ok => cases h
  | both hb => exact Except.error.inj h ▸ Reader.Blames.accounted hb
  | alone hr => exact Except.error.inj h ▸ Reader.Refuses.accounted hr

/-! ## An integer by itself -/

/-- The tokens of an integer at a place, with the minus that may stand before it. -/
def signedTokens (negative : Bool) (text : String) (l : Location) : List Token :=
  if negative then [⟨.minus, "-", l⟩, ⟨.integer, text, l.next⟩] else [⟨.integer, text, l⟩]

/-- The tokens of an integer that is all of an expression. -/
theorem tokenize_signed (negative : Bool) {ds : List Char} (hd : Lexer.IsDigits ds) :
    ∃ l m, tokenize ("<%= " ++ signed negative (String.ofList ds) ++ " %>") =
      ⟨⟨.opening, "<%=", .start⟩ :: (signedTokens negative (String.ofList ds) ⟨1, 5⟩ ++
        [⟨.closing, "%>", l⟩, ⟨.ending, "", m⟩]), none, .plain⟩ := by
  have htext : ("<%= " ++ signed negative (String.ofList ds) ++ " %>").toList =
      Lexer.openingMark ++ ' ' :: ((signed negative (String.ofList ds)).toList ++
        ' ' :: (Lexer.closingMark ++ [])) := by
    simp [Lexer.openingMark, Lexer.closingMark]
  unfold tokenize
  rw [htext, Lexer.tokensFrom_opening, Lexer.tokensFrom_gap rfl]
  cases negative with
  | false =>
      rw [signed, if_neg (by simp), String.toList_ofList,
        Lexer.tokensFrom_lexeme rfl (.integer hd) (by simp), Lexer.tokensFrom_closing,
        Lexer.tokensFrom_nil]
      exact ⟨_, _, rfl⟩
  | true =>
      obtain ⟨d, more, rfl⟩ := List.exists_cons_of_ne_nil hd.1
      have hminus : (signed true (String.ofList (d :: more))).toList = '-' :: d :: more := by
        simp [signed]
      rw [hminus, List.cons_append, List.cons_append,
        Lexer.tokensFrom_minus (hd.2 d List.mem_cons_self), ← List.cons_append,
        Lexer.tokensFrom_lexeme rfl (.integer hd) (by simp), Lexer.tokensFrom_closing,
        Lexer.tokensFrom_nil]
      exact ⟨_, _, rfl⟩

namespace Reader

/-- An integer that is not accepted is no primary expression, whatever follows. -/
theorem primary_refused (one : Construct → ExprReader) {negative : Bool} {text : String}
    {l : Location} (hd : Lexer.IsDigits text.toList) (hno : ¬ Accepted negative ⟨.integer, text, l⟩)
    (u : Token) (rest : List Token) :
    primary one (signedTokens negative text l ++ u :: rest) =
      .error (.failure (integerFailure negative ⟨.integer, text, l⟩ l)) := by
  have hnumber (l' : Location) : number negative ⟨.integer, text, l'⟩ l =
      .error (.failure (integerFailure negative ⟨.integer, text, l⟩ l)) := by
    rcases number_integer negative l (t := ⟨.integer, text, l'⟩) rfl hd with ⟨hok, -⟩ | ⟨-, heq⟩
    · exact absurd hok hno
    · exact heq
  cases negative with
  | false =>
      change (number false ⟨.integer, text, l⟩ l >>= _) = _
      rw [hnumber]
      rfl
  | true =>
      have hminus : primary one (signedTokens true text l ++ u :: rest) =
          negativeNumber (⟨.minus, "-", l⟩ :: ⟨.integer, text, l.next⟩ :: u :: rest) := rfl
      rw [hminus]
      change (if _ then number true ⟨.integer, text, l.next⟩ l >>= _ else _) = _
      rw [hnumber, if_pos ⟨.inl rfl, rfl⟩]
      rfl

/-- An expression that starts with an integer which is not accepted fails there,
whatever follows. -/
theorem within_refused {negative : Bool} {text : String} {l : Location}
    (hd : Lexer.IsDigits text.toList) (hno : ¬ Accepted negative ⟨.integer, text, l⟩)
    (between : Construct → Nat) {free : Nat} (hfree : 0 < free) (u : Token) (rest : List Token) :
    within between free (signedTokens negative text l ++ u :: rest) =
      .error (.failure (integerFailure negative ⟨.integer, text, l⟩ l)) := by
  have hkind : kind (signedTokens negative text l ++ u :: rest) ≠ .fnWord := by
    cases negative <;> simp [signedTokens, kind]
  obtain ⟨free, rfl⟩ := Nat.exists_eq_succ_of_ne_zero (Nat.ne_of_gt hfree)
  rw [within_succ, if_neg hkind, primary_refused _ hd hno]
  rfl

theorem children_refused {one : ExprReader} {opening : Token} {ts : List Token} {stop : Stop}
    (ho : opening.kind = .opening) (hne : ts ≠ []) (h : one ts = .error stop) :
    children one (opening :: ts) = .error stop := by
  rw [children_expression ho hne, h]
  rfl

end Reader

theorem parse_signed_refused (stack : Reader.Stack) (negative : Bool) {ds : List Char}
    (hd : Lexer.IsDigits ds)
    (hno : ¬ Accepted negative ⟨.integer, String.ofList ds, ⟨1, 5⟩⟩) :
    Template.parse stack ("<%= " ++ signed negative (String.ofList ds) ++ " %>") =
      .error (Reader.integerFailure negative ⟨.integer, String.ofList ds, ⟨1, 5⟩⟩ ⟨1, 5⟩) := by
  obtain ⟨l, m, htokens⟩ := tokenize_signed negative hd
  have hexpression := Reader.within_refused (by rwa [String.toList_ofList]) hno stack.between
    stack.positive ⟨.closing, "%>", l⟩ [⟨.ending, "", m⟩]
  unfold Template.parse
  dsimp only
  rw [htokens, stack.children_eq, Reader.children_refused rfl (by simp) hexpression]
  rfl

theorem parse_digits_refused (stack : Reader.Stack) {ds : List Char} (hd : Lexer.IsDigits ds)
    (hno : ¬ Accepted false ⟨.integer, String.ofList ds, ⟨1, 5⟩⟩) :
    Template.parse stack ("<%= " ++ String.ofList ds ++ " %>") =
      .error (Reader.integerFailure false ⟨.integer, String.ofList ds, ⟨1, 5⟩⟩ ⟨1, 5⟩) :=
  parse_signed_refused stack false hd hno

/-! ## Rejections -/

namespace Reader

theorem integerFailure_eq_rejected {negative : Bool} {t : Token} {l m : Location}
    {cause : ParseCause} (h : integerFailure negative t l = .rejected cause m) :
    l = m ∧ cause = .integerOutOfRange (signed negative t.text) ∧
      t.text.toList.length ≤ Numeral.digitLimit := by
  unfold integerFailure at h
  split at h
  · cases h
  · rename_i hshort
    obtain ⟨rfl, rfl⟩ := ParseFailure.rejected.inj h
    exact ⟨rfl, rfl, Nat.not_lt.mp hshort⟩

end Reader

/-- A rejection is at the place of a token or of the lexical fault. -/
theorem ParseFailure.Accounted.place {text : String} {cause : ParseCause} {l : Location}
    (h : (ParseFailure.rejected cause l).Accounted text) :
    (∃ t ∈ (tokenize text).tokens, t.location = l) ∨
      ∃ fault, cause = .lexical fault ∧ (tokenize text).fault = some (fault, l) := by
  generalize hf : ParseFailure.rejected cause l = failure at h
  cases h with
  | lexical hfault =>
      obtain ⟨rfl, rfl⟩ := ParseFailure.rejected.inj hf
      exact .inr ⟨_, rfl, hfault⟩
  | tooDeep => cases hf
  | expected what ht =>
      obtain ⟨-, rfl⟩ := ParseFailure.rejected.inj hf
      exact .inl ⟨_, ht, rfl⟩
  | duplicate ht =>
      obtain ⟨-, rfl⟩ := ParseFailure.rejected.inj hf
      exact .inl ⟨_, ht, rfl⟩
  | float hin =>
      obtain ⟨-, rfl⟩ := ParseFailure.rejected.inj hf
      exact .inl hin.place
  | integer hin =>
      obtain ⟨rfl, -, -⟩ := Reader.integerFailure_eq_rejected hf.symm
      exact .inl hin.place

/-- Reading is given up at a token. -/
theorem ParseFailure.Accounted.depth {text : String} {l : Location}
    (h : (ParseFailure.tooDeep l).Accounted text) :
    ∃ t ∈ (tokenize text).tokens, t.location = l := by
  generalize hf : ParseFailure.tooDeep l = failure at h
  cases h with
  | tooDeep ht =>
      obtain rfl := ParseFailure.tooDeep.inj hf
      exact ⟨_, ht, rfl⟩
  | integer =>
      unfold Reader.integerFailure at hf
      split at hf <;> cases hf
  | _ => cases hf

/-- How reading a text ends, as far as the integers in it have a part in it. -/
structure ParseOutcome (stack : Reader.Stack) (text : String) : Prop where
  /-- A failure is a rejection at a place or for depth, unless the first integer
  that is not accepted has more digits than are ever read. -/
  failure : ∀ failure, Template.parse stack text = .error failure →
    (∃ cause l, failure = .rejected cause l) ∨ (∃ l, failure = .tooDeep l) ∨
    ∃ before negative t l, NumberIn (tokenize text).tokens before negative t l ∧
      t.kind = .integer ∧ IntegersFit before ∧ Numeral.digitLimit < t.text.toList.length ∧
      failure = .numeralTooLong t.text.toList.length
  /-- What is rejected as out of range is an integer of the text that is, and it
  is rejected where it stands. -/
  outOfRange : ∀ word l,
    Template.parse stack text = .error (.rejected (.integerOutOfRange word) l) →
    ∃ before negative t, NumberIn (tokenize text).tokens before negative t l ∧
      t.kind = .integer ∧ word = signed negative t.text ∧
      ¬ FitsInt64 (signedValue negative t.text)
  /-- No text is read that holds an integer which is not accepted. -/
  read : ∀ t, Template.parse stack text = .ok t → IntegersFit (tokenize text).tokens
  /-- A text that would be read if its integers were zeros is read, or fails at
  the first integer that is not accepted. -/
  decided : ∀ es, stack.children ((tokenize text).tokens.map Token.zeroed) = .ok es →
    (∃ t, Template.parse stack text = .ok t) ∨
    ∃ before negative t l, NumberIn (tokenize text).tokens before negative t l ∧
      t.kind = .integer ∧ IntegersFit before ∧ ¬ Accepted negative t ∧
      Template.parse stack text = .error (Reader.integerFailure negative t l)

theorem parse_outcome (stack : Reader.Stack) (text : String) : ParseOutcome stack text where
  failure := by
    intro failure h
    cases parse_accounted h with
    | lexical | expected | duplicate | float => exact .inl ⟨_, _, rfl⟩
    | tooDeep => exact .inr (.inl ⟨_, rfl⟩)
    | integer hin hk hfit =>
        unfold Reader.integerFailure
        split
        · rename_i hlong
          exact .inr (.inr ⟨_, _, _, _, hin, hk, hfit, hlong, rfl⟩)
        · exact .inl ⟨_, _, rfl⟩
  outOfRange := by
    intro word l h
    generalize hf : ParseFailure.rejected (.integerOutOfRange word) l = failure at h
    cases parse_accounted h with
    | integer hin hk hfit hno =>
        obtain ⟨rfl, hcause, hshort⟩ := Reader.integerFailure_eq_rejected hf.symm
        obtain rfl := ParseCause.integerOutOfRange.inj hcause
        exact ⟨_, _, _, hin, hk, rfl, fun hrange => hno ⟨hshort, hrange⟩⟩
    | _ => cases hf
  read := by
    intro t h
    have hpaired := Reader.tokens_zeroed stack text
    rw [parse_eq_ok_iff.mp h] at hpaired
    generalize stack.children ((tokenize text).tokens.map Token.zeroed) = y at hpaired
    cases hpaired with
    | ok hfit => exact hfit
  decided := by
    intro es h
    have hpaired := Reader.tokens_zeroed stack text
    rw [h] at hpaired
    unfold Template.parse
    dsimp only
    generalize stack.children (tokenize text).tokens = x at hpaired
    cases hpaired with
    | ok => exact .inl ⟨_, rfl⟩
    | alone hr =>
        cases hr with
        | integer hin hk hfit hno => exact .inr ⟨_, _, _, _, hin, hk, hfit, hno, rfl⟩

/-- An integer of 4301 digits is neither read nor rejected. -/
theorem parse_tooLong :
    Template.parse .usual ("<%= " ++ String.ofList (List.replicate 4301 '1') ++ " %>") =
      .error (.numeralTooLong 4301) := by
  have hd : Lexer.IsDigits (List.replicate 4301 '1') :=
    ⟨List.ne_nil_of_length_pos (by rw [List.length_replicate]; decide),
      fun d h => by rw [List.eq_of_mem_replicate h]; rfl⟩
  have hlength : (String.ofList (List.replicate 4301 '1')).toList.length = 4301 := by
    rw [String.toList_ofList, List.length_replicate]
  have hlong : Numeral.digitLimit < 4301 := by decide
  have hno : ¬ Accepted false ⟨.integer, String.ofList (List.replicate 4301 '1'), ⟨1, 5⟩⟩ :=
    fun h => Nat.not_le.mpr hlong (hlength ▸ h.1)
  rw [parse_digits_refused .usual hd hno, Reader.integerFailure, hlength, if_pos hlong]

end Inlay
