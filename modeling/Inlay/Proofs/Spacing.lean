import Mathlib.Logic.Function.Basic
import Inlay.Proofs.CutTexts
import Inlay.Proofs.TruePlaces

/-!
# Blanks between tokens

Between two tokens of an expression there is a gap (`exists_gap`), which is blank and may be
empty. With other blanks in its place (`Gap.refill`) the text has the same tokens: up to the gap
because it may be cut there (`Lexer.exists_cut`), behind it because what stands there is
read as by itself at other places. One map takes all old places to the new ones
(`Gap.exists_moves`); it leaves those up to the gap and moves the others as one, so it is
no `Location.Shift`.

The reader looks at places only to see whether a number touches its minus. Within each
part the map keeps that. Across the gap nothing touches when neither gap is
empty, whatever line feeds they hold. A gap that opens behind a minus leaves it alone,
and such a minus is part of no template (`Grammar.Derives.minusesTouch`).
-/

namespace Inlay

/-! ## Places -/

namespace Location

/-- A map that leaves some places where they are and moves others, from where one map
puts them to where another does. -/
theorem exists_moving {g : Location → Location} (hg : Function.Injective g)
    (g' : Location → Location) {ls ms : List Location} (hapart : ∀ m ∈ ms, g m ∉ ls) :
    ∃ f : Location → Location, (∀ l ∈ ls, f l = l) ∧ ∀ m ∈ ms, f (g m) = g' m := by
  refine ⟨fun l => if l ∈ ls then l else g' (Function.invFun g l), fun l hl => if_pos hl,
    fun m hm => ?_⟩
  dsimp only
  rw [if_neg (hapart m hm), Function.leftInverse_invFun hg m]

end Location

/-! ## Readings behind a gap -/

namespace Lexer

theorem tokensFrom_blanks {gap : List Char} (h : Blank gap) (place : Location)
    (rest : List Char) :
    tokensFrom .expression place (gap ++ rest) =
      tokensFrom .expression (place.advance gap) rest := by
  induction gap generalizing place with
  | nil => rfl
  | cons c gap ih =>
      obtain ⟨hc, hgap⟩ := List.forall_mem_cons.mp h
      rw [List.cons_append, tokensFrom_gap (isGap_iff.mpr hc), ih hgap]
      rfl

/-- The first token of an expression stands behind the blanks before it. -/
theorem location_of_first {place : Location} {cs : List Char} {u : Token} {after : List Token}
    (h : (tokensFrom .expression place cs).tokens = u :: after) :
    u.location = place.advance (cs.takeWhile isGap) := by
  induction cs generalizing place with
  | nil =>
      rw [tokensFrom_nil] at h
      obtain ⟨rfl, -⟩ := List.cons.inj h
      rfl
  | cons c rest ih =>
      by_cases hgap : isGap c = true
      · rw [tokensFrom_gap hgap] at h
        rw [ih h, List.takeWhile_cons_of_pos hgap]
        rfl
      · rw [tokensFrom, if_neg hgap] at h
        rw [List.takeWhile_cons_of_neg hgap]
        cases hl : lexeme c rest with
        | error fault =>
            rw [hl] at h
            cases h
        | ok p =>
            rw [hl] at h
            obtain ⟨rfl, -⟩ := List.cons.inj h
            rfl

/-- What stands behind some text is read as by itself, at the places behind. -/
theorem tokensFrom_behind (cs rest : List Char) :
    tokensFrom .expression (Location.start.advance cs) rest =
      (tokensFrom .expression .start rest).relocate (Location.behind cs) := by
  rw [← Location.behind_start]
  exact tokensFrom_relocate (Location.behind_shift cs) .expression (Nat.le_refl 1) rest

/-- What is read behind a cut are the tokens behind it. -/
theorem CutAfter.tokens_behind {text : String} {front rest : List Char}
    {before after : List Token} {t u : Token}
    (hcut : CutAfter .plain .start text.toList front before t)
    (htext : text.toList = front ++ rest)
    (h : (tokenize text).tokens = before ++ t :: u :: after) :
    (tokensFrom .expression (Location.start.advance front) rest).tokens = u :: after := by
  have hread := hcut.read rest (.inr htext)
  rw [tokenize, htext, hread] at h
  simpa [Lexed.prepend] using h

end Lexer

/-! ## The gap between two tokens -/

/-- What stands between two neighbouring tokens `t` and `u` of an expression: `t` ends
where `old` starts, and `u` starts where it ends. The first may be the mark that opens the
expression, the second the one that closes it or the end of a text that does not. -/
structure Gap (text : String) (front old rest : List Char) (before : List Token) (t u : Token)
    (after : List Token) : Prop where
  spelled : text.toList = front ++ old ++ rest
  tokens : (tokenize text).tokens = before ++ t :: u :: after
  inside : Mode.plain.through (before ++ [t]) = .expression
  left : ∃ source, front = source ++ t.source ∧ t.StandsAt text.toList source.length
  right : u.StandsAt text.toList (front ++ old).length

/-- A gap stands behind each token that an expression goes on after. -/
theorem exists_gap {text : String} {before after : List Token} {t u : Token}
    (htokens : (tokenize text).tokens = before ++ t :: u :: after)
    (hinside : Mode.plain.through (before ++ [t]) = .expression) :
    ∃ front old rest, Gap text front old rest before t u after := by
  obtain ⟨front, hcut⟩ := Lexer.exists_cut htokens hinside
  obtain ⟨behind, htext⟩ := hcut.text
  have hplace := Lexer.location_of_first (hcut.tokens_behind htext.symm htokens)
  rw [← Location.advance_append] at hplace
  obtain ⟨source, hfront, ht⟩ := hcut.ends
  have hsplit : text.toList =
      front ++ behind.takeWhile Lexer.isGap ++ behind.dropWhile Lexer.isGap := by
    rw [List.append_assoc, List.takeWhile_append_dropWhile, htext]
  refine ⟨front, _, _, hsplit, htokens, hinside, ⟨source, hfront, ?_⟩, ?_⟩
  · exact Token.standsAt_of_place (by simp [htokens])
      ((hfront ▸ List.prefix_append ..).trans hcut.text) ht
  · exact Token.standsAt_of_place (by simp [htokens]) (hsplit ▸ List.prefix_append ..) hplace

/-- A text with something in place of a gap. -/
def refilled (front gap rest : List Char) : String := String.ofList (front ++ gap ++ rest)

/-- A number stands right behind a minus. -/
def Touching (old : List Char) (t u : Token) : Prop :=
  old = [] ∧ t.kind = .minus ∧ (u.kind = .integer ∨ u.kind = .float)

namespace Gap

variable {text : String} {front old rest : List Char} {before after : List Token} {t u : Token}
  (h : Gap text front old rest before t u after)
include h

theorem left_place : ∃ source, front = source ++ t.source ∧
    t.location = Location.start.advance source ∧
    ∀ w, t.kind.spelling? = some w → t.source = w := by
  obtain ⟨source, hfront, hstands⟩ := h.left
  refine ⟨source, hfront, ?_, hstands.spelling⟩
  have htext : text.toList = source ++ (t.source ++ old ++ rest) := by simp [h.spelled, hfront]
  rw [hstands.place, htext, Location.ofOffset_length]

theorem minus_next (hk : t.kind = .minus) :
    t.location.next = Location.start.advance front := by
  obtain ⟨source, hfront, hplace, hspelling⟩ := h.left_place
  rw [hfront, hspelling ['-'] (by rw [hk]; rfl), Location.advance_append, ← hplace]
  rfl

theorem right_place : u.location = Location.start.advance (front ++ old) := by
  rw [h.right.place, h.spelled, Location.ofOffset_length]

theorem cut : Lexer.CutAfter .plain .start text.toList front before t := by
  obtain ⟨front', hcut⟩ := Lexer.exists_cut h.tokens h.inside
  obtain ⟨source', rfl, hplace'⟩ := hcut.ends
  obtain ⟨source, hfront, hplace, -⟩ := h.left_place
  have hsource : source' = source := by
    refine Location.eq_of_advance ((List.prefix_append ..).trans hcut.text) ?_
      (hplace'.symm.trans hplace)
    exact ⟨t.source ++ old ++ rest, by simp [h.spelled, hfront]⟩
  rw [hfront, ← hsource]
  exact hcut

/-- What is read behind `t`. -/
theorem tokens_behind : (Lexer.tokensFrom .expression (Location.start.advance front)
    (old ++ rest)).tokens = u :: after :=
  h.cut.tokens_behind (by rw [h.spelled, List.append_assoc]) h.tokens

/-- A gap is what the lexer passes over. -/
theorem blank : Blank old := by
  have hblank : Blank ((old ++ rest).takeWhile Lexer.isGap) :=
    blank_of_gap fun _ hc => List.mem_takeWhile_imp hc
  have hplace := Lexer.location_of_first h.tokens_behind
  rw [← Location.advance_append, h.right_place] at hplace
  have hold : front ++ old <+: text.toList := h.spelled ▸ List.prefix_append ..
  have hpassed : front ++ (old ++ rest).takeWhile Lexer.isGap <+: text.toList := by
    rw [h.spelled, List.append_assoc]
    exact (List.prefix_append_right_inj front).mpr (List.takeWhile_prefix _)
  have hsame := List.append_cancel_left (Location.eq_of_advance hold hpassed hplace)
  rwa [← hsame] at hblank

/-- The tokens up to `t` and those behind it, which are read as by themselves: with the
gap that the text has, and with any other that is not empty. -/
theorem tokenize_refilled {gap : List Char} (hgap : gap ≠ [] ∨ gap = old) (hblank : Blank gap) :
    tokenize (refilled front gap rest) =
      Lexer.Lexed.prepend (before ++ [t])
        ((Lexer.tokensFrom .expression .start rest).relocate (Location.behind (front ++ gap))) := by
  have hread := h.cut.read (gap ++ rest) ?_
  · rw [tokenize, refilled, String.toList_ofList, List.append_assoc, hread,
      Lexer.tokensFrom_blanks hblank, ← Location.advance_append, Lexer.tokensFrom_behind]
  · rcases hgap with hgap | rfl
    · obtain ⟨b, gap, rfl⟩ := List.exists_cons_of_ne_nil hgap
      exact .inl (.gap (Lexer.isGap_iff.mpr (hblank b List.mem_cons_self)) _)
    · exact .inr (by rw [h.spelled, List.append_assoc])

theorem tokenize_eq : tokenize text = Lexer.Lexed.prepend (before ++ [t])
    ((Lexer.tokensFrom .expression .start rest).relocate (Location.behind (front ++ old))) := by
  rw [← h.tokenize_refilled (.inr rfl) h.blank, refilled, ← h.spelled, String.ofList_toList]

theorem tokens_moved : (Lexer.tokensFrom .expression .start rest).tokens.map
    (Token.relocate (Location.behind (front ++ old))) = u :: after := by
  rw [← h.tokens_behind, Lexer.tokensFrom_blanks h.blank, ← Location.advance_append,
    Lexer.tokensFrom_behind]
  rfl

/-- A map of places for another gap: up to `t` all stays where it is, behind the gap
it is where it is read now. -/
structure Moves (front old gap rest : List Char) (before : List Token) (t : Token)
    (f : Location → Location) : Prop where
  stay : ∀ v ∈ before ++ [t], f v.location = v.location
  move : ∀ v ∈ (Lexer.tokensFrom .expression .start rest).tokens,
    f (v.location.behind (front ++ old)) = v.location.behind (front ++ gap)

theorem exists_moves (gap : List Char) : ∃ f, Moves front old gap rest before t f := by
  have hnodup := nodup_places text
  rw [h.tokenize_eq, Lexer.Lexed.prepend, List.map_append] at hnodup
  have hapart : ∀ m ∈ (Lexer.tokensFrom .expression .start rest).tokens.map Token.location,
      m.behind (front ++ old) ∉ (before ++ [t]).map Token.location := by
    intro m hm hl
    obtain ⟨v, hv, rfl⟩ := List.mem_map.mp hm
    refine (List.nodup_append.mp hnodup).2.2 _ hl _ ?_ rfl
    simp only [Lexed.relocate, List.map_map, List.mem_map]
    exact ⟨v, hv, rfl⟩
  obtain ⟨f, hstay, hmove⟩ := Location.exists_moving
    (Location.behind_shift (front ++ old)).injective (Location.behind (front ++ gap)) hapart
  exact ⟨f, fun v hv => hstay _ (List.mem_map_of_mem hv),
    fun v hv => hmove _ (List.mem_map_of_mem hv)⟩

end Gap

namespace Gap.Moves

variable {text : String} {front old gap rest : List Char} {before after : List Token}
  {t u : Token} {f : Location → Location} (h : Gap text front old rest before t u after)
  (hf : Moves front old gap rest before t f)
include h hf

/-- With another gap a text has the tokens that it had, with the places moved. -/
theorem tokenize_eq (hgap : gap ≠ []) (hblank : Blank gap)
    (hfault : (tokenize text).fault = none) :
    tokenize (refilled front gap rest) = (tokenize text).relocate f := by
  have hstay : (before ++ [t]).map (Token.relocate f) = before ++ [t] := by
    refine (List.map_congr_left fun v hv => ?_).trans (List.map_id' _)
    exact congrArg (Token.mk v.kind v.text) (hf.stay v hv)
  have hmove : ((Lexer.tokensFrom .expression .start rest).tokens.map
      (Token.relocate (Location.behind (front ++ old)))).map (Token.relocate f) =
        (Lexer.tokensFrom .expression .start rest).tokens.map
          (Token.relocate (Location.behind (front ++ gap))) := by
    rw [List.map_map]
    exact List.map_congr_left fun v hv => congrArg (Token.mk v.kind v.text) (hf.move v hv)
  rw [h.tokenize_refilled (.inl hgap) hblank]
  rw [h.tokenize_eq] at hfault ⊢
  generalize Lexer.tokensFrom .expression .start rest = r at hmove hfault
  obtain ⟨ts, fault, mode⟩ := r
  obtain rfl : fault = none := Option.map_eq_none_iff.mp hfault
  simp only [Lexer.Lexed.prepend, Lexed.relocate]
  rw [List.map_append, hstay, hmove]
  rfl

/-- The token behind the gap is where the gap ends. -/
theorem right_place : f u.location = Location.start.advance (front ++ gap) := by
  obtain ⟨v, more, hread, rfl, -⟩ := List.map_eq_cons_iff.mp h.tokens_moved
  have hplace : v.location = .start := by
    refine (Location.behind_shift (front ++ old)).injective ?_
    rw [Location.behind_start, ← h.right_place]
    rfl
  have hmove := hf.move v (by simp [hread])
  rw [hplace, Location.behind_start, Location.behind_start] at hmove
  rw [h.right_place, hmove]

/-- A minus is followed by a token that touches it in the other text as in this one. -/
theorem keepsTouching (hgap : gap ≠ []) (hparts : ¬ Touching old t u) :
    Reader.KeepsTouching f (tokenize text).tokens := by
  have hback := Location.behind_shift (front ++ old)
  have hforth := Location.behind_shift (front ++ gap)
  rw [h.tokenize_eq]
  refine List.isChain_append.mpr ⟨?_, ?_, ?_⟩
  · refine (List.pairwise_of_forall_mem_list fun minus hminus v hv _ _ => ?_).isChain
    rw [hf.stay minus hminus, hf.stay v hv]
  · refine (List.pairwise_of_forall_mem_list fun minus' hminus' v' hv' _ _ => ?_).isChain
    obtain ⟨minus, hminus, rfl⟩ := List.mem_map.mp hminus'
    obtain ⟨v, hv, rfl⟩ := List.mem_map.mp hv'
    simp only [Token.relocate, hf.move minus hminus, hf.move v hv]
    rw [← hforth.next, ← hback.next, hforth.injective.eq_iff, hback.injective.eq_iff]
  · intro minus hminus v hv hkind hnumber
    obtain rfl : t = minus := by simpa using hminus
    obtain rfl : u = v := by
      have hhead := congrArg List.head? h.tokens_moved
      exact Option.some.inj (hhead.symm.trans hv)
    have hold : old ≠ [] := fun hold => hparts ⟨hold, hkind, hnumber⟩
    rw [hf.stay t (by simp), h.minus_next hkind, hf.right_place h, h.right_place,
      Location.advance_append, Location.advance_append]
    exact iff_of_false (Location.before_advance hgap _).ne.symm
      (Location.before_advance hold _).ne.symm

end Gap.Moves

/-! ## Reading a text with another gap -/

def Template.relocate (f : Location → Location) (t : Template) : Template :=
  ⟨t.children.map (Expr.relocate f)⟩

/-- Tokens at other places are read as before, if the same minuses touch their numbers. -/
theorem parse_relocate (stack : Reader.Stack) {text text' : String} {f : Location → Location}
    (htokens : tokenize text' = (tokenize text).relocate f)
    (hf : Reader.KeepsTouching f (tokenize text).tokens) :
    Template.parse stack text' =
      ((Template.parse stack text).map (Template.relocate f)).mapError
        (ParseFailure.relocate f) := by
  have hpaired := Reader.children_relocate hf stack
  unfold Template.parse
  rw [htokens]
  dsimp only [Lexed.relocate]
  generalize stack.children (tokenize text).tokens = x at hpaired ⊢
  generalize stack.children ((tokenize text).tokens.map (Token.relocate f)) = y at hpaired ⊢
  cases hpaired with
  | ok hes =>
      subst hes
      rfl
  | @both stop _ hstop =>
      obtain rfl : _ = stop.relocate f := hstop
      exact congrArg Except.error (Reader.Stop.toFailure_relocate f _ stop)
  | alone hstop => exact hstop.elim

theorem parse_minusesTouch {stack : Reader.Stack} {text : String} {t : Template}
    (h : Template.parse stack text = .ok t) :
    Grammar.MinusesTouch (tokenize text).tokens := by
  obtain ⟨-, n, body, last, htokens, hlast, hd⟩ := parse_sound h
  rw [htokens]
  exact hd.minusesTouch.append (.cons (by simp [hlast]) trivial)

section

variable (stack : Reader.Stack) {text : String} {front old gap rest : List Char}
  {before after : List Token} {t u : Token} (h : Gap text front old rest before t u after)
include h

/-- A minus with a gap behind it is in no template. -/
theorem Gap.Moves.not_template {f : Location → Location} (hf : Moves front old gap rest before t f)
    (htokens : tokenize (refilled front gap rest) = (tokenize text).relocate f) (hgap : gap ≠ [])
    (hk : t.kind = .minus) (s : Template) :
    Template.parse stack (refilled front gap rest) ≠ .ok s := by
  intro hparse
  have htouch := parse_minusesTouch hparse
  rw [htokens, Lexed.relocate, h.tokens, List.map_append, List.map_cons, List.map_cons] at htouch
  have hat : f u.location = (f t.location).next := htouch.next hk
  rw [hf.right_place h, hf.stay t (by simp), h.minus_next hk, Location.advance_append] at hat
  exact (Location.before_advance hgap _).ne hat.symm

/-- With other blanks in a gap the tokens stay, up to their places, and the text is read as
before, unless the gap parts a minus from its number. -/
theorem Gap.refill (hfault : (tokenize text).fault = none) (hgap : gap ≠ [])
    (hblank : Blank gap) :
    ∃ f, tokenize (refilled front gap rest) = (tokenize text).relocate f ∧
      (¬ Touching old t u → Template.parse stack (refilled front gap rest) =
        ((Template.parse stack text).map (Template.relocate f)).mapError
          (ParseFailure.relocate f)) ∧
      (Touching old t u → ∀ s, Template.parse stack (refilled front gap rest) ≠ .ok s) := by
  obtain ⟨f, hf⟩ := h.exists_moves gap
  have htokens := hf.tokenize_eq h hgap hblank hfault
  exact ⟨f, htokens, fun hparts => parse_relocate stack htokens (hf.keepsTouching h hgap hparts),
    fun htouching => hf.not_template stack h htokens hgap htouching.2.1⟩

end

/-- Between neighbouring tokens of an expression there is a gap of blanks, which may be
replaced by any others: the tokens stay, up to their places, and the text is read as before,
as the same tree or with the same failure, up to places. The one exception is a number right
behind a minus: no text where blanks part the two is a template. -/
theorem blanks_insignificant (stack : Reader.Stack) {text : String} {before after : List Token}
    {t u : Token}
    (hfault : (tokenize text).fault = none)
    (htokens : (tokenize text).tokens = before ++ t :: u :: after)
    (hinside : Mode.plain.through (before ++ [t]) = .expression) :
    (∃ front old rest, Gap text front old rest before t u after) ∧
    ∀ front old rest gap, Gap text front old rest before t u after → gap ≠ [] → Blank gap →
      Blank old ∧ ∃ f, tokenize (refilled front gap rest) = (tokenize text).relocate f ∧
        (¬ Touching old t u → Template.parse stack (refilled front gap rest) =
          ((Template.parse stack text).map (Template.relocate f)).mapError
            (ParseFailure.relocate f)) ∧
        (Touching old t u → ∀ s, Template.parse stack (refilled front gap rest) ≠ .ok s) :=
  ⟨exists_gap htokens hinside, fun _ _ _ _ h hgap hblank =>
    ⟨h.blank, h.refill stack hfault hgap hblank⟩⟩

/-- Behind `-1` a blank may become a line feed. Before the `1` a blank parts the two. -/
theorem blanks_insignificant_minus_one :
    (∃ f, tokenize "<%=-1\n%>" = (tokenize "<%=-1 %>").relocate f ∧
      Template.parse .usual "<%=-1\n%>" =
        ((Template.parse .usual "<%=-1 %>").map (Template.relocate f)).mapError
          (ParseFailure.relocate f)) ∧
    Template.parse .usual "<%=-1 %>" = .ok ⟨[.integer ⟨1, 4⟩ (-1)]⟩ ∧
    ∀ s, Template.parse .usual "<%=- 1 %>" ≠ .ok s := by
  have htokens : tokenize "<%=-1 %>" = ⟨[⟨.opening, "<%=", ⟨1, 1⟩⟩, ⟨.minus, "-", ⟨1, 4⟩⟩,
      ⟨.integer, "1", ⟨1, 5⟩⟩, ⟨.closing, "%>", ⟨1, 7⟩⟩, ⟨.ending, "", ⟨1, 9⟩⟩], none, .plain⟩ := by
    with_unfolding_all rfl
  have hfault : (tokenize "<%=-1 %>").fault = none := by rw [htokens]
  have hbehind : Gap "<%=-1 %>" ['<', '%', '=', '-', '1'] [' '] ['%', '>']
      [⟨.opening, "<%=", ⟨1, 1⟩⟩, ⟨.minus, "-", ⟨1, 4⟩⟩] ⟨.integer, "1", ⟨1, 5⟩⟩
      ⟨.closing, "%>", ⟨1, 7⟩⟩ [⟨.ending, "", ⟨1, 9⟩⟩] :=
    ⟨rfl, by rw [htokens]; rfl, rfl,
      ⟨['<', '%', '=', '-'], rfl, rfl, ⟨['<', '%', '=', '-'], [' ', '%', '>'], rfl, rfl⟩, nofun⟩,
      rfl, ⟨['<', '%', '=', '-', '1', ' '], [], rfl, rfl⟩, fun _ hw => Option.some.inj hw⟩
  have hbetween : Gap "<%=-1 %>" ['<', '%', '=', '-'] [] ['1', ' ', '%', '>']
      [⟨.opening, "<%=", ⟨1, 1⟩⟩] ⟨.minus, "-", ⟨1, 4⟩⟩ ⟨.integer, "1", ⟨1, 5⟩⟩
      [⟨.closing, "%>", ⟨1, 7⟩⟩, ⟨.ending, "", ⟨1, 9⟩⟩] :=
    ⟨rfl, by rw [htokens]; rfl, rfl,
      ⟨['<', '%', '='], rfl, rfl, ⟨['<', '%', '='], ['1', ' ', '%', '>'], rfl, rfl⟩,
        fun _ hw => Option.some.inj hw⟩,
      rfl, ⟨['<', '%', '=', '-'], [' ', '%', '>'], rfl, rfl⟩, nofun⟩
  refine ⟨?_, by with_unfolding_all rfl, ?_⟩
  · obtain ⟨-, f, hmoved, hsame, -⟩ :=
      (blanks_insignificant .usual hfault hbehind.tokens hbehind.inside).2 _ _ _ ['\n'] hbehind
        (by decide) (by simp [Blank])
    exact ⟨f, hmoved, hsame (by simp [Touching])⟩
  · obtain ⟨-, -, -, -, hparted⟩ :=
      (blanks_insignificant .usual hfault hbetween.tokens hbetween.inside).2 _ _ _ [' '] hbetween
        (by decide) (by simp [Blank])
    exact hparted ⟨rfl, rfl, .inl rfl⟩

end Inlay
