import Mathlib.Algebra.Group.Nat.Defs
import Mathlib.Data.List.TakeWhile
import Mathlib.Tactic.SplitIfs
import Inlay.Yaml

/-!
# What a text shows for its faults

Most texts that are no data are malformed. Of the others, some are refused before their
nodes are there: an escape spells a number that is no code point, or a version has more
digits than are read. Both can be seen in the text itself (`Shows`), and so wherever a
reader of a part of the text fails, the whole text shows why. What else ends the reading
are collections that nest too deep, which the tokens show (`ofText?_failsOnly`).
-/

namespace Inlay

/-! ## Failing in few ways -/

/-- Faults, if any, are of a kind. -/
def FailsOnly {ε α : Type} (P : ε → Prop) (x : Except ε α) : Prop := ∀ f, x = .error f → P f

/-- Faults are of a kind, and results of another. -/
structure Gives {ε α : Type} (P : ε → Prop) (Q : α → Prop) (x : Except ε α) : Prop where
  fails : FailsOnly P x
  result : ∀ a, x = .ok a → Q a

section

variable {ε α β : Type} {P : ε → Prop} {Q : α → Prop} {R : β → Prop} {x : Except ε α}

namespace FailsOnly

theorem ok (a : α) : FailsOnly P (.ok a) := fun _ h => nomatch h

theorem error {f : ε} (h : P f) : FailsOnly P (.error f : Except ε α) := by
  rintro _ ⟨⟩
  exact h

theorem map (h : FailsOnly P x) (g : α → β) : FailsOnly P (x.map g) := by
  cases x with
  | ok a => exact ok _
  | error f => exact error (h f rfl)

theorem bind {g : α → Except ε β} (h : FailsOnly P x)
    (hg : ∀ a, x = .ok a → FailsOnly P (g a)) : FailsOnly P (x >>= g) := by
  cases x with
  | ok a => exact hg a rfl
  | error f => exact error (h f rfl)

theorem ite {c : Prop} [Decidable c] {y : Except ε α} (hx : FailsOnly P x)
    (hy : FailsOnly P y) : FailsOnly P (if c then x else y) := by
  split_ifs
  · exact hx
  · exact hy

/-- A check that ends what comes after it. -/
theorem check {c : Prop} [Decidable c] {f : ε} (hf : c → P f) {g : Unit → Except ε α}
    (h : FailsOnly P (g ())) :
    FailsOnly P (if c then (throw f >>= g : Except ε α) else g ()) := by
  split_ifs with hc
  · exact error (hf hc)
  · exact h

/-- A fault that is passed on. -/
theorem rethrow {f : ε} (h : FailsOnly P x) (hx : x = .error f) :
    FailsOnly P (.error f : Except ε β) :=
  error (h f hx)

theorem mapM {f : α → Except ε β} {as : List α} (h : ∀ a ∈ as, FailsOnly P (f a)) :
    FailsOnly P (as.mapM f) := by
  induction as with
  | nil => exact ok []
  | cons a as ih =>
      obtain ⟨ha, has⟩ := List.forall_mem_cons.mp h
      rw [List.mapM_cons]
      exact ha.bind fun _ _ => (ih has).bind fun _ _ => ok _

theorem mono {P' : ε → Prop} (h : FailsOnly P x) (hP : ∀ f, P f → P' f) : FailsOnly P' x :=
  fun f hf => hP f (h f hf)

end FailsOnly

namespace Gives

theorem ok {a : α} (h : Q a) : Gives P Q (.ok a : Except ε α) :=
  ⟨.ok a, by rintro _ ⟨⟩; exact h⟩

theorem error {f : ε} (h : P f) : Gives P Q (.error f) := ⟨.error h, fun _ h => nomatch h⟩

theorem bind {g : α → Except ε β} (h : Gives P Q x) (hg : ∀ a, Q a → Gives P R (g a)) :
    Gives P R (x >>= g) := by
  cases x with
  | ok a => exact hg a (h.result a rfl)
  | error f => exact error (h.fails f rfl)

theorem map {g : α → β} (h : Gives P Q x) (hg : ∀ a, Q a → R (g a)) : Gives P R (x.map g) := by
  cases x with
  | ok a => exact ok (hg a (h.result a rfl))
  | error f => exact error (h.fails f rfl)

end Gives

end

namespace Yaml

/-! ## What texts show -/

/-- What a text shows for a fault: nothing more for being malformed, else an escape of a
number that is no code point, or more digits in a row than are read. -/
inductive Shows (cs : List Char) : Fault → Prop
  | malformed (reason : Malformed) : Shows cs (.malformed reason)
  | codePoint {digits : List Char} {f : Fault} (h : '\\' :: 'U' :: digits <:+: cs)
      (hdigits : ∀ d ∈ digits, isHexDigit d = true) (hlength : digits.length = 8)
      (hcode : Quoted.charOfCode (Text.hexNumber digits) = .error f) : Shows cs f
  | version {digits : List Char} (h : digits <:+: cs) (hdigits : ∀ d ∈ digits, isDigit d = true)
      (hlong : Numeral.digitLimit < digits.length) : Shows cs (.numeralTooLong digits.length)

theorem Shows.mono {cs ds : List Char} {f : Fault} (h : Shows cs f) (hwithin : cs <:+: ds) :
    Shows ds f := by
  cases h with
  | malformed reason => exact .malformed reason
  | codePoint h hdigits hlength hcode =>
      exact .codePoint (h.trans hwithin) hdigits hlength hcode
  | version h hdigits hlong => exact .version (h.trans hwithin) hdigits hlong

/-- A reading of glyphs that fails only with what their characters show. -/
def Shown {α : Type} (gs : List Glyph) (x : Except Fault α) : Prop :=
  FailsOnly (Shows (chars gs)) x

namespace Shown

variable {α : Type} {gs hs : List Glyph} {x : Except Fault α}

theorem of_suffix (h : Shown gs x) (hsuffix : gs <:+ hs) : Shown hs x :=
  FailsOnly.mono h fun _ hf => hf.mono (hsuffix.map _).isInfix

theorem of_drop (n : Nat) (h : Shown (gs.drop n) x) : Shown gs x :=
  h.of_suffix (List.drop_suffix n gs)

theorem cons {g : Glyph} (h : Shown gs x) : Shown (g :: gs) x :=
  h.of_suffix (List.suffix_cons g gs)

end Shown

/-! ## Quoted scalars -/

theorem breaks_shown (fresh : Bool) (gs hs : List Glyph) : Shown hs (Quoted.breaks fresh gs) := by
  induction gs generalizing fresh with
  | nil => exact .ok _
  | cons g rest ih =>
      unfold Quoted.breaks
      split_ifs
      · exact .error (.malformed _)
      · exact (ih _).map _
      · exact (ih _).map _
      · exact .ok _

theorem gap_shown (gs hs : List Glyph) : Shown hs (Quoted.gap gs) := by
  unfold Quoted.gap
  dsimp only
  split
  · exact .error (.malformed _)
  · split_ifs
    · exact (breaks_shown _ _ _).map _
    · exact .ok _

theorem hexDigit?_lt {c : Char} {d : Nat} (h : Text.hexDigit? c = some d) : d < 16 := by
  unfold Text.hexDigit? at h
  split_ifs at h with hdigit hlower hupper
  all_goals
    obtain rfl := Option.some.inj h
  · have hrange : 48 ≤ c.toNat ∧ c.toNat ≤ 57 := hdigit
    have hzero : '0'.toNat = 48 := rfl
    omega
  · have hrange : 97 ≤ c.toNat ∧ c.toNat ≤ 102 := hlower
    have ha : 'a'.toNat = 97 := rfl
    omega
  · have hrange : 65 ≤ c.toNat ∧ c.toNat ≤ 70 := hupper
    have ha : 'A'.toNat = 65 := rfl
    omega

/-- So many hexadecimal digits spell a number below that power of sixteen. -/
theorem hexNumber_lt (digits : List Char) : Text.hexNumber digits < 16 ^ digits.length := by
  suffices hfold : ∀ n k, n < 16 ^ k → digits.foldl
      (fun n c => 16 * n + (Text.hexDigit? c).getD 0) n < 16 ^ (k + digits.length) by
    simpa [Text.hexNumber] using hfold 0 0
  induction digits with
  | nil => exact fun n k h => h
  | cons d digits ih =>
      intro n k h
      have hd : (Text.hexDigit? d).getD 0 < 16 := by
        cases hdigit : Text.hexDigit? d with
        | none => decide
        | some value => exact hexDigit?_lt hdigit
      have hnext := ih (16 * n + (Text.hexDigit? d).getD 0) (k + 1) (by rw [pow_succ]; omega)
      rwa [List.foldl_cons, List.length_cons, Nat.add_comm digits.length, ← Nat.add_assoc]

theorem runOf_initial (p : Char → Bool) (gs : List Glyph) : runOf p gs <+: chars gs :=
  (List.takeWhile_prefix _).map _

theorem runOf_mem {p : Char → Bool} {gs : List Glyph} {c : Char} (h : c ∈ runOf p gs) :
    p c = true := by
  obtain ⟨g, hg, rfl⟩ := List.mem_map.mp h
  exact List.mem_takeWhile_imp (p := fun g : Glyph => p g.char) hg

/-- A number that is no code point is the escape of eight digits. -/
theorem code_shown {g h : Glyph} {rest : List Glyph} {width : Nat} {f : Fault}
    (hg : g.char = '\\') (hwidth : Quoted.escapeWidth? h.char = some width)
    (hlength : width ≤ (runOf isHexDigit (rest.take width)).length)
    (hcode : Quoted.charOfCode (Text.hexNumber (runOf isHexDigit (rest.take width))) = .error f) :
    Shows (chars (g :: h :: rest)) f := by
  have htaken : (chars (rest.take width)).length ≤ width := by
    rw [chars, List.length_map, List.length_take]
    exact Nat.min_le_left _ _
  have hmost : (runOf isHexDigit (rest.take width)).length ≤ width :=
    (runOf_initial _ _).length_le.trans htaken
  have hnumber := hexNumber_lt (runOf isHexDigit (rest.take width))
  rw [Nat.le_antisymm hmost hlength] at hnumber
  have hshort (hpower : 16 ^ width ≤ 0x110000) : False := by
    rw [Quoted.charOfCode, if_pos (by omega)] at hcode
    cases hcode
  unfold Quoted.escapeWidth? at hwidth
  split at hwidth
  · cases hwidth
    exact (hshort (by decide)).elim
  · cases hwidth
    exact (hshort (by decide)).elim
  · rename_i hchar
    cases hwidth
    refine .codePoint (List.IsPrefix.isInfix ?_) (fun _ hd => runOf_mem hd)
      (Nat.le_antisymm hmost hlength) hcode
    rw [chars, List.map_cons, List.map_cons, hg, hchar]
    refine List.cons_prefix_cons.mpr ⟨rfl, List.cons_prefix_cons.mpr ⟨rfl, ?_⟩⟩
    exact (runOf_initial _ _).trans ((List.take_prefix _ _).map _)
  · cases hwidth

/-- An escape that fails starts with the backslash before it. -/
theorem escape_shown {g : Glyph} (hg : g.char = '\\') (gs : List Glyph) :
    Shown (g :: gs) (Quoted.escape gs) := by
  cases gs with
  | nil => exact .error (.malformed _)
  | cons h rest =>
      unfold Quoted.escape
      cases hchar : Quoted.escapedChar? h.char with
      | some c =>
          simp only [hchar]
          exact .ok _
      | none =>
          cases hwidth : Quoted.escapeWidth? h.char with
          | none =>
              simp only [hchar, hwidth]
              split_ifs
              · exact (breaks_shown _ _ _).map _
              · exact .error (.malformed _)
          | some width =>
              simp only [hchar, hwidth]
              split_ifs with hshort
              · exact .error (.malformed _)
              · refine FailsOnly.map (fun f hcode => ?_) _
                exact code_shown hg hwidth (Nat.not_lt.mp hshort) hcode

theorem text_shown (double : Bool) (gs : List Glyph) : Shown gs (Quoted.text double gs) := by
  fun_induction Quoted.text double gs with
  | case1 => exact .error (.malformed _)
  | case2 g rest c _ _ ih => exact (ih.of_drop 1).cons.map _
  | case3 => exact .ok _
  | case4 g rest c _ hescape f hf =>
      have hg : g.char = '\\' := (by simpa using hescape : double = true ∧ g.char = '\\').2
      exact (escape_shown hg rest).rethrow hf
  | case5 g rest c _ _ e _ ih => exact (ih.of_drop e.count).cons.map _
  | case6 g rest c _ _ _ f hf => exact (gap_shown _ _).rethrow hf
  | case7 g rest c _ _ _ e _ ih => exact (ih.of_drop (e.count - 1)).cons.map _
  | case8 g rest c _ _ _ ih => exact ih.cons.map _

/-! ## Block scalars -/

theorem emptyLine_shown (reason : Malformed) (gs hs : List Glyph) :
    Shown hs (BlockScalar.emptyLine reason gs) := by
  unfold BlockScalar.emptyLine
  dsimp only
  split
  · exact .ok _
  · exact .ite (.ok _) (.error (.malformed _))

theorem header_shown (gs hs : List Glyph) : Shown hs (BlockScalar.header gs) := by
  have hsigns : Shown hs (BlockScalar.signs gs) := .ite (.error (.malformed _)) (.ok _)
  unfold BlockScalar.header
  split
  · exact hsigns.rethrow ‹_›
  · exact (emptyLine_shown _ _ _).map _

theorem read_shown (isFolded : Bool) (least : Nat) (gs hs : List Glyph) :
    Shown hs (BlockScalar.read isFolded least gs) :=
  (header_shown gs hs).map _

/-! ## Names -/

theorem anchor_shown (gs hs : List Glyph) : Shown hs (Name.anchor gs) :=
  .ite (.error (.malformed _)) (.ok _)

theorem handle_shown (reason : Malformed) (gs hs : List Glyph) :
    Shown hs (Name.handle reason gs) := by
  unfold Name.handle
  split
  · exact .error (.malformed _)
  · exact .ite (.error (.malformed _)) (.ite (.ok _) (.ite (.ok _) (.error (.malformed _))))

theorem escapedBytes_shown (reason : Malformed) (gs hs : List Glyph) :
    Shown hs (Name.escapedBytes reason gs) := by
  fun_induction Name.escapedBytes reason gs with
  | case1 => exact .ok _
  | case2 _ _ _ _ _ _ ih => exact ih.map _
  | case3 => exact .error (.malformed _)
  | case4 => exact .error (.malformed _)
  | case5 => exact .ok _

theorem uriFrom_shown (reason : Malformed) (gs hs : List Glyph) :
    Shown hs (Name.uriFrom reason gs) := by
  fun_induction Name.uriFrom reason gs with
  | case1 => exact .ok _
  | case2 g rest _ f hbytes =>
      simp only [hbytes]
      exact (escapedBytes_shown _ _ _).rethrow hbytes
  | case3 g rest _ bytes fault htext hbytes =>
      simp only [hbytes, htext]
      exact .error (.malformed _)
  | case4 g rest _ bytes cs htext hbytes ih =>
      simp only [hbytes, htext]
      exact ih.map _
  | case5 _ _ _ _ ih => exact ih.map _
  | case6 => exact .ok _

theorem uri_shown (reason : Malformed) (gs hs : List Glyph) : Shown hs (Name.uri reason gs) := by
  unfold Name.uri
  split
  · exact (uriFrom_shown _ _ _).rethrow ‹_›
  · exact .ite (.error (.malformed _)) (.ok _)

theorem tag_shown (gs hs : List Glyph) : Shown hs (Name.tag gs) := by
  unfold Name.tag
  extract_lets finish
  have hfinish (x : Option (List Char) × List Char × Nat) : Shown hs (pure x >>= finish) :=
    .ite (.ok _) (.error (.malformed _))
  refine .ite ?_ (.ite (hfinish _) (.ite ?_ ?_))
  · refine .bind (uri_shown _ _ _) fun name _ => .ite (hfinish _) ?_
    exact .error (.malformed _)
  · exact .check (fun _ => .malformed _) (.bind (uri_shown _ _ _) fun _ _ => hfinish _)
  · exact .bind (uri_shown _ _ _) fun _ _ => hfinish _

theorem versionNumber_shown (gs : List Glyph) : Shown gs (Name.versionNumber gs) := by
  unfold Name.versionNumber
  dsimp only
  split_ifs with hnone hlong
  · exact .error (.malformed _)
  · exact .error (.version (runOf_initial isDigit gs).isInfix (fun _ hd => runOf_mem hd) hlong)
  · exact .ok _

theorem directive_shown (gs : List Glyph) : Shown gs (Name.directive gs) := by
  unfold Name.directive
  extract_lets name after spaces value finish
  have hfinish (x : Directive × Nat) : Shown gs (pure x >>= finish) := by
    change Shown gs (BlockScalar.emptyLine .badDirective (after.drop x.2) >>= _)
    exact .bind (emptyLine_shown _ _ _) fun _ _ => .ok _
  have hversion (n : Nat) : Shown gs (Name.versionNumber (value.drop n)) :=
    (((versionNumber_shown _).of_drop n).of_drop spaces).of_drop name.length
  refine .check (fun _ => .malformed _) (.ite ?_ (.ite ?_ (hfinish _)))
  · refine .bind (hversion 0) fun _ _ => .check (fun _ => .malformed _) ?_
    exact .bind (hversion _) fun _ _ => .check (fun _ => .malformed _) (hfinish _)
  · refine .bind (handle_shown _ _ _) fun _ _ => .check (fun _ => .malformed _) ?_
    exact .bind (uri_shown _ _ _) fun _ _ => .check (fun _ => .malformed _) (hfinish _)

/-! ## Tokens -/

namespace Lexer

variable {gs : List Glyph}

theorem giveUpKey_shown (s : State) (gs : List Glyph) : Shown gs s.giveUpKey := by
  unfold State.giveUpKey
  split
  · exact .ok _
  · exact .ite (.error (.malformed _)) (.ok _)

theorem noteKey_shown (s : State) (g : Glyph) (gs : List Glyph) : Shown gs (s.noteKey g) :=
  .ite ((giveUpKey_shown _ _).map _) (.ok _)

theorem openingMark_shown (s : State) (g : Glyph) (opening t : Token) (reason : Malformed)
    (keyAllowed : Bool) (gs : List Glyph) :
    Shown gs (openingMark s g opening t reason keyAllowed) :=
  .ite (.error (.malformed _)) ((giveUpKey_shown _ _).map _)

theorem colon_shown (s : State) (g : Glyph) (gs : List Glyph) : Shown gs (colon s g) := by
  unfold colon
  split
  · exact .ok _
  · exact openingMark_shown _ _ _ _ _ _ _

theorem keyLike_shown (s : State) (g : Glyph) {read : Except Fault (Token × Nat)}
    (h : Shown gs read) : Shown gs (keyLike s g read) := by
  unfold keyLike
  split
  · exact (noteKey_shown s g gs).rethrow ‹_›
  · exact h.map _

theorem blockScalar_shown (s : State) (isFolded : Bool) (rest gs : List Glyph) :
    Shown gs (blockScalar s isFolded rest) := by
  unfold blockScalar
  dsimp only
  split
  · exact (giveUpKey_shown s gs).rethrow ‹_›
  · exact (read_shown _ _ _ _).map _

/-- A token that cannot be read is one whose characters show why. -/
theorem step_shown (s : State) (g : Glyph) (rest : List Glyph) :
    Shown (g :: rest) (step s g rest) := by
  have hgiveUp (s : State) : Shown (g :: rest) s.giveUpKey := giveUpKey_shown _ _
  have hnote : Shown (g :: rest) (s.noteKey g) := noteKey_shown _ _ _
  have hquoted (double : Bool) : Shown (g :: rest) (Quoted.text double rest) :=
    (text_shown _ _).cons
  unfold step
  extract_lets c atMargin
  refine .ite ?_ <| .ite ((hgiveUp _).map _) <| .ite ((hgiveUp _).map _) <|
    .ite (hnote.map _) <| .ite (hnote.map _) <| .ite ((hgiveUp _).map _) <|
    .ite ((hgiveUp _).map _) <| .ite ((hgiveUp _).map _) <|
    .ite (openingMark_shown _ _ _ _ _ _ _) <| .ite (openingMark_shown _ _ _ _ _ _ _) <|
    .ite (colon_shown _ _ _) <| .ite (keyLike_shown _ _ ((anchor_shown _ _).map _)) <|
    .ite (keyLike_shown _ _ ((anchor_shown _ _).map _)) <|
    .ite (keyLike_shown _ _ (tag_shown _ _)) <| .ite (blockScalar_shown _ _ _ _) <|
    .ite (blockScalar_shown _ _ _ _) <| .ite (keyLike_shown _ _ ((hquoted false).map _)) <|
    .ite (keyLike_shown _ _ ((hquoted true).map _)) <| .ite (hnote.map _) <|
    .error (.malformed _)
  split
  · exact (hgiveUp _).rethrow ‹_›
  · exact (directive_shown _).cons.rethrow ‹_›
  · exact .ok _

theorem approach_shown (s : State) (broken : Bool) (g : Glyph) (gs : List Glyph) :
    Shown gs (approach s broken g) := by
  refine FailsOnly.map ?_ _
  exact .ite (.error (.malformed _)) (.ok _)

theorem finish_shown (s : State) (gs : List Glyph) : Shown gs (finish s) :=
  .ite (.error (.malformed _)) (.ok _)

/-- What cuts tokens short is shown by the characters from there on. -/
theorem tokensFrom_shows (s : State) (gs : List Glyph) {f : Fault}
    (h : (tokensFrom s gs).fault? = some f) : Shows (chars gs) f := by
  have hbehind {gs hs : List Glyph} {n : Nat} (hdrop : gs.drop n = hs) : hs <:+ gs :=
    hdrop ▸ List.drop_suffix n gs
  fun_induction tokensFrom s gs with
  | case1 => cases h
  | case2 s gs _ _ f' hf =>
      cases h
      exact finish_shown s gs f hf
  | case3 s gs gap g rest hdrop f' hf =>
      cases h
      exact (approach_shown s _ g _).of_suffix (hbehind hdrop) f hf
  | case4 s gs gap g rest hdrop near _ f' hf =>
      cases h
      exact (step_shown near g rest).of_suffix (hbehind hdrop) f hf
  | case5 s gs gap g rest hdrop near _ s' count _ ih =>
      have hsuffix := ((List.drop_suffix count rest).trans (List.suffix_cons g rest)).trans
        (hbehind hdrop)
      exact (ih h).mono (hsuffix.map _).isInfix

end Lexer

/-! ## Whole texts -/

theorem prefix_of_normalized {xs cs : List Char} (hxs : '\n' ∉ xs)
    (h : xs <+: Text.normalizeLineEnds cs) : xs <+: cs := by
  -- a line feed is no head of the part, so nothing that reads as one is passed over
  fun_induction Text.normalizeLineEnds cs generalizing xs with
  | case1 => exact h
  | case2 rest | case3 rest =>
      rcases List.prefix_cons_iff.mp h with rfl | ⟨ys, rfl, -⟩
      · exact List.nil_prefix
      · exact absurd List.mem_cons_self hxs
  | case4 c rest _ _ ih =>
      rcases List.prefix_cons_iff.mp h with rfl | ⟨ys, rfl, hys⟩
      · exact List.nil_prefix
      · have hys' : ys <+: rest := ih (fun hmem => hxs (List.mem_cons_of_mem _ hmem)) hys
        exact List.cons_prefix_cons.mpr ⟨rfl, hys'⟩

/-- What lies on one line is there before line ends are read as line feeds. -/
theorem infix_of_normalized {xs cs : List Char} (hxs : '\n' ∉ xs)
    (h : xs <:+: Text.normalizeLineEnds cs) : xs <:+: cs := by
  fun_induction Text.normalizeLineEnds cs with
  | case1 => exact h
  | case2 rest ih =>
      rcases List.infix_cons_iff.mp h with h | h
      · have hstart : xs <+: '\r' :: '\n' :: rest := prefix_of_normalized hxs h
        exact hstart.isInfix
      · exact ((ih h).trans (List.suffix_cons _ _).isInfix).trans (List.suffix_cons _ _).isInfix
  | case3 rest hne ih =>
      rcases List.infix_cons_iff.mp h with h | h
      · have hstart : xs <+: '\r' :: rest :=
          prefix_of_normalized hxs (by rwa [Text.normalizeLineEnds]; exact hne)
        exact hstart.isInfix
      · exact (ih h).trans (List.suffix_cons _ _).isInfix
  | case4 c rest hne hne' ih =>
      rcases List.infix_cons_iff.mp h with h | h
      · have hstart : xs <+: c :: rest :=
          prefix_of_normalized hxs (by rwa [Text.normalizeLineEnds] <;> assumption)
        exact hstart.isInfix
      · exact (ih h).trans (List.suffix_cons _ _).isInfix

theorem Shows.of_normalized {cs : List Char} {f : Fault} (h : Shows (Text.normalizeLineEnds cs) f) :
    Shows cs f := by
  cases h with
  | malformed reason => exact .malformed reason
  | codePoint h hdigits hlength hcode =>
      refine .codePoint (infix_of_normalized ?_ h) hdigits hlength hcode
      simpa using fun hmem => absurd (hdigits _ hmem) (by decide)
  | version h hdigits hlong =>
      exact .version (infix_of_normalized (fun hmem => absurd (hdigits _ hmem) (by decide)) h)
        hdigits hlong

theorem chars_placeFrom (index line column : Nat) (cs : List Char) :
    chars (placeFrom index line column cs) = cs := by
  induction cs generalizing index line column with
  | nil => rfl
  | cons c cs ih =>
      rw [placeFrom, chars, List.map_cons]
      split_ifs
      all_goals exact congrArg (c :: ·) (ih _ _ _)

theorem chars_glyphs_suffix (cs : List Char) :
    ∃ ds, ds <:+ cs ∧ chars (glyphs cs) = Text.normalizeLineEnds ds := by
  unfold glyphs
  cases cs with
  | nil => exact ⟨[], List.nil_suffix, rfl⟩
  | cons c cs =>
      by_cases hmark : c = byteOrderMark
      · exact ⟨cs, List.suffix_cons c cs, by simp only [if_pos hmark, chars_placeFrom]⟩
      · exact ⟨c :: cs, List.suffix_rfl, by simp only [if_neg hmark, chars_placeFrom]⟩

theorem tokenize_shows {text : String} {f : Fault} (h : (tokenize text).fault? = some f) :
    Shows text.toList f := by
  unfold tokenize at h
  dsimp only at h
  split at h
  · cases h
    exact .malformed _
  · have hshows := Lexer.tokensFrom_shows _ _ h
    obtain ⟨cs, hsuffix, hchars⟩ := chars_glyphs_suffix text.toList
    rw [hchars] at hshows
    exact hshows.of_normalized.mono hsuffix.isInfix

/-! ## Nodes -/

namespace NodeReader

variable {α β : Type} {P : Fault → Prop}

/-- A reader that fails only with faults of a kind where running out of tokens is one, and
leaves it one. -/
def Keeps (P : Fault → Prop) (r : Reader α) : Prop :=
  ∀ s : State, P s.fault → FailsOnly P (r s) ∧ ∀ a s', r s = .ok (a, s') → P s'.fault

namespace Keeps

theorem pure (a : α) : Keeps P (pure a : Reader α) :=
  fun _ hs => ⟨.ok _, by rintro _ _ ⟨⟩; exact hs⟩

theorem bind {r : Reader α} {g : α → Reader β} (h : Keeps P r) (hg : ∀ a, Keeps P (g a)) :
    Keeps P (r >>= g) := by
  intro s hs
  obtain ⟨hfails, hkeeps⟩ := h s hs
  change FailsOnly P (r s >>= fun x => g x.1 x.2) ∧
    ∀ b s', (r s >>= fun x => g x.1 x.2) = .ok (b, s') → P s'.fault
  cases hr : r s with
  | error f => exact ⟨.error (hfails f hr), fun _ _ h => nomatch h⟩
  | ok x => exact hg x.1 x.2 (hkeeps x.1 x.2 hr)

theorem get : Keeps P (get : Reader State) := fun _ hs => ⟨.ok _, by rintro _ _ ⟨⟩; exact hs⟩

theorem modify {g : State → State} (hg : ∀ s, (g s).fault = s.fault) :
    Keeps P (modify g : Reader Unit) :=
  fun s hs => ⟨.ok _, by rintro _ _ ⟨⟩; exact (hg s).symm ▸ hs⟩

theorem ite {c : Prop} [Decidable c] {r q : Reader α} (hr : Keeps P r) (hq : Keeps P q) :
    Keeps P (if c then r else q) := by
  split_ifs
  · exact hr
  · exact hq

/-- A part that may be left out. -/
theorem optional {c : Prop} [Decidable c] {r : Reader α} {a : α} {g : α → Reader β}
    (h : Keeps P r) (hg : ∀ a, Keeps P (g a)) :
    Keeps P (if c then r >>= g else Pure.pure a >>= g) :=
  .ite (.bind h hg) (.bind (.pure a) hg)

end Keeps

theorem peek_keeps : Keeps P peek := by
  rintro ⟨tokens, fault, anchors, handles⟩ hs
  cases tokens with
  | nil => exact ⟨.error hs, fun _ _ h => nomatch h⟩
  | cons t rest => exact ⟨.ok _, by rintro _ _ ⟨⟩; exact hs⟩

theorem pass_keeps : Keeps P pass := .modify fun _ => rfl

theorem skip_keeps (t : Token) : Keeps P (skip t) := by
  refine .bind peek_keeps fun _ => .ite ?_ (.pure _)
  exact .bind pass_keeps fun _ => .pure _

theorem anchor?_keeps : Keeps P anchor? := by
  refine .bind peek_keeps fun t => ?_
  split
  · exact .bind pass_keeps fun _ => .pure _
  · exact .pure _

theorem tag?_keeps : Keeps P tag? := by
  refine .bind peek_keeps fun t => ?_
  split
  · exact .bind pass_keeps fun _ => .pure _
  · exact .pure _

theorem name_keeps (p : Properties) (n : Node) : Keeps P (name p n) := by
  unfold name
  split
  · exact .modify fun _ => rfl
  · exact .pure _

theorem scalar_keeps (p : Properties) (text : String) (plain : Bool) :
    Keeps P (scalar p text plain) :=
  .bind (name_keeps _ _) fun _ => .pure _

variable (hP : ∀ reason, P (.malformed reason))
include hP

theorem fail_keeps (reason : Malformed) : Keeps P (fail reason : Reader α) :=
  fun _ _ => ⟨.error (hP reason), fun _ _ h => nomatch h⟩

theorem expect_keeps (t : Token) : Keeps P (expect t) :=
  .bind (skip_keeps t) fun _ => .ite (fail_keeps hP _) (.pure _)

theorem fullTag_keeps (handle : Option String) (suffix : String) :
    Keeps P (fullTag handle suffix) := by
  unfold fullTag
  split
  · exact .pure _
  · refine .bind .get fun s => ?_
    split
    · exact .pure _
    · exact fail_keeps hP _

theorem properties_keeps : Keeps P properties := by
  unfold properties
  refine .bind anchor?_keeps fun first => .bind tag?_keeps fun tag => ?_
  extract_lets finish
  have hfinish (anchor : Option String) : Keeps P (finish anchor) := by
    dsimp only [finish]
    split
    · exact .bind (fullTag_keeps hP _ _) fun _ => .pure _
    · exact .pure _
  split
  · exact .bind anchor?_keeps hfinish
  · exact hfinish _

theorem checkName_keeps (p : Properties) : Keeps P (checkName p) := by
  unfold checkName
  split
  · exact .bind .get fun s => .ite (fail_keeps hP _) (.pure _)
  · exact .pure _

/-- The rules that call each other. -/
structure RulesKeep (P : Fault → Prop) (steps : Nat) : Prop where
  node : ∀ place, Keeps P (node steps place)
  content : ∀ place p, Keeps P (content steps place p)
  nodeUnless : ∀ place ends, Keeps P (nodeUnless steps place ends)
  blockItems : Keeps P (blockItems steps)
  flushItems : Keeps P (flushItems steps)
  blockEntries : Keeps P (blockEntries steps)
  flowEntries : ∀ first, Keeps P (flowEntries steps first)
  flowItems : ∀ first, Keeps P (flowItems steps first)

theorem content_keeps {steps : Nat} (ih : RulesKeep P steps) (place : Place) (p : Properties) :
    Keeps P (content (steps + 1) place p) := by
  have hsequence {items : Reader (List Node)} (h : Keeps P items) :
      Keeps P (content.sequence p items) :=
    .bind (name_keeps _ _) fun _ => .bind h fun _ => .bind (name_keeps _ _) fun _ => .pure _
  have hmapping {entries : Reader (List (Node × Node))} (h : Keeps P entries) :
      Keeps P (content.mapping p entries) :=
    .bind (name_keeps _ _) fun _ => .bind h fun _ => .bind (name_keeps _ _) fun _ => .pure _
  have hmissing : Keeps P (content.missing p) := .ite (scalar_keeps _ _ _) (fail_keeps hP _)
  rw [content]
  refine .bind peek_keeps fun t => ?_
  split
  · exact .bind pass_keeps fun _ => scalar_keeps _ _ _
  · exact .bind pass_keeps fun _ => hsequence (ih.flowItems true)
  · exact .bind pass_keeps fun _ => hmapping (ih.flowEntries true)
  · exact .ite (.bind pass_keeps fun _ => hsequence ih.blockItems) hmissing
  · exact .ite (.bind pass_keeps fun _ => hmapping ih.blockEntries) hmissing
  · exact .ite (hsequence ih.flushItems) hmissing
  · exact hmissing

theorem rules_keep (steps : Nat) : RulesKeep P steps := by
  induction steps with
  | zero =>
      constructor
      all_goals intros
      all_goals exact fail_keeps hP _
  | succ steps ih =>
      constructor
      case content => exact content_keeps hP ih
      case node =>
        intro place
        rw [node]
        refine .bind peek_keeps fun t => ?_
        split
        · refine .bind pass_keeps fun _ => .bind .get fun s => ?_
          split
          · exact .pure _
          · exact fail_keeps hP _
        · exact .bind (properties_keeps hP) fun p =>
            .bind (checkName_keeps hP p) fun _ => ih.content place p
      case nodeUnless =>
        intro place ends
        rw [nodeUnless]
        exact .bind peek_keeps fun _ => .ite (.pure _) (ih.node place)
      case blockItems =>
        rw [blockItems]
        refine .bind (skip_keeps _) fun _ => .ite ?_ ?_
        · exact .bind (ih.nodeUnless _ _) fun n => .bind ih.blockItems fun ns => .pure _
        · exact .bind (expect_keeps hP _) fun _ => .pure _
      case flushItems =>
        rw [flushItems]
        refine .bind (skip_keeps _) fun _ => .ite ?_ (.pure _)
        exact .bind (ih.nodeUnless _ _) fun n => .bind ih.flushItems fun ns => .pure _
      case blockEntries =>
        rw [blockEntries]
        refine .bind (skip_keeps _) fun _ => .ite ?_ ?_
        · refine .bind (ih.nodeUnless _ _) fun k => .bind (skip_keeps _) fun _ => ?_
          exact .optional (ih.nodeUnless _ _) fun v => .bind ih.blockEntries fun es => .pure _
        · exact .bind (expect_keeps hP _) fun _ => .pure _
      case flowEntries =>
        intro first
        rw [flowEntries]
        refine .bind (skip_keeps _) fun _ => .ite (.pure _) ?_
        extract_lets entry
        have hentry (x : Unit) : Keeps P (entry x) := by
          refine .bind (skip_keeps _) fun _ => .ite ?_ ?_
          · refine .bind (ih.nodeUnless _ _) fun k => .bind (skip_keeps _) fun _ => ?_
            exact .optional (ih.nodeUnless _ _) fun v =>
              .bind (ih.flowEntries false) fun es => .pure _
          · refine .bind (skip_keeps _) fun _ => .ite (.pure _) ?_
            exact .bind (ih.node _) fun k => .bind (ih.flowEntries false) fun es => .pure _
        exact .ite (.bind (expect_keeps hP _) hentry) (hentry ())
      case flowItems =>
        intro first
        rw [flowItems]
        refine .bind (skip_keeps _) fun _ => .ite (.pure _) ?_
        extract_lets item
        have hitem (x : Unit) : Keeps P (item x) := by
          refine .bind (skip_keeps _) fun _ => .ite ?_ ?_
          · refine .bind (ih.nodeUnless _ _) fun k => .bind (skip_keeps _) fun _ => ?_
            exact .optional (ih.nodeUnless _ _) fun v =>
              .bind (ih.flowItems false) fun ns => .pure _
          · refine .bind (skip_keeps _) fun _ => .ite (.pure _) ?_
            exact .bind (ih.node _) fun n => .bind (ih.flowItems false) fun ns => .pure _
        exact .ite (.bind (expect_keeps hP _) hitem) (hitem ())

theorem directives_keeps (steps : Nat) (hasVersion : Bool) :
    Keeps P (directives steps hasVersion) := by
  induction steps generalizing hasVersion with
  | zero => exact .pure _
  | succ steps ih =>
      rw [directives]
      refine .bind peek_keeps fun t => ?_
      split
      · refine .bind pass_keeps fun _ => ?_
        extract_lets next version
        have hversion (x : Unit) : Keeps P (version x) :=
          .ite (.bind (fail_keeps hP _) fun _ => ih true) (ih true)
        exact .ite (.bind (fail_keeps hP _) hversion) (hversion ())
      · refine .bind pass_keeps fun _ => .bind .get fun s => ?_
        extract_lets next
        have hnext (x : Unit) : Keeps P (next x) :=
          .bind (.modify fun _ => rfl) fun _ => ih hasVersion
        exact .ite (.bind (fail_keeps hP _) hnext) (hnext ())
      · exact .bind pass_keeps fun _ => ih hasVersion
      · exact .pure _

omit hP in
theorem documentEnds_keeps (steps : Nat) : Keeps P (documentEnds steps) := by
  induction steps with
  | zero => exact .pure _
  | succ steps ih => exact .bind (skip_keeps _) fun _ => .ite ih (.pure _)

theorem stream_keeps (steps : Nat) : Keeps P (stream steps) := by
  have hnode (place : Place) : Keeps P (node steps place) := (rules_keep hP steps).node place
  have hfinish (n : Node) : Keeps P (stream.finish steps n) :=
    .bind (documentEnds_keeps _) fun _ => .bind peek_keeps fun _ => .ite (.pure _) (fail_keeps hP _)
  unfold stream
  refine .bind peek_keeps fun t => ?_
  split
  case h_1 => exact .pure _
  case h_4 => exact .bind (.modify fun _ => rfl) fun _ => .bind (hnode _) hfinish
  all_goals
    refine .bind (directives_keeps hP _ _) fun _ => .bind (.modify fun _ => rfl) fun _ =>
      .bind (expect_keeps hP _) fun _ => .bind peek_keeps fun t => ?_
    split
    all_goals first | exact .bind (.pure _) hfinish | exact .bind (hnode _) hfinish

end NodeReader

/-! ## Nesting -/

/-- The most collections that are open at once, where `n` of them are at the start. -/
def deepest (n : Nat) : List Token → Nat
  | [] => n
  | t :: rest => max n (deepest (t.openAfter n) rest)

theorem lt_deepest {limit n : Nat} {tokens : List Token} (hn : n ≤ limit)
    (h : (shallowTokens limit n tokens).length < tokens.length) : limit < deepest n tokens := by
  induction tokens generalizing n with
  | nil => cases h
  | cons t rest ih =>
      rw [deepest]
      rw [shallowTokens] at h
      split_ifs at h with hdeep
      · have hrest : t.openAfter n ≤ deepest (t.openAfter n) rest := by
          cases rest with
          | nil => exact Nat.le_refl _
          | cons u rest => exact Nat.le_max_left _ _
        omega
      · have hrest := ih (Nat.not_lt.mp hdeep) (Nat.lt_of_succ_lt_succ h)
        omega

/-- What a text shows for its document not being read. -/
inductive TextShows (text : String) : Fault → Prop
  | characters {f : Fault} (h : Shows text.toList f) : TextShows text f
  | nesting (h : nestingLimit < deepest 0 (tokenize text).tokens) : TextShows text .tooDeep

/-- A text that holds no document shows why. -/
theorem ofText?_failsOnly (text : String) :
    FailsOnly (TextShows text) (Node.ofText? text) := by
  have hlexed : TextShows text ((tokenize text).fault?.getD (.malformed .unexpectedToken)) := by
    cases hfault : (tokenize text).fault? with
    | none => exact .characters (.malformed _)
    | some f => exact .characters (tokenize_shows hfault)
  have hcut : TextShows text
      (((tokenize text).upTo nestingLimit).fault?.getD (.malformed .unexpectedToken)) := by
    unfold Lexed.upTo
    dsimp only
    split_ifs with hdeep
    · exact .nesting (lt_deepest (Nat.zero_le _) hdeep)
    · exact hlexed
  have hmalformed (reason : Malformed) : TextShows text (.malformed reason) :=
    .characters (.malformed reason)
  exact (NodeReader.stream_keeps hmalformed _ _ hcut).1.map _

end Yaml

end Inlay
