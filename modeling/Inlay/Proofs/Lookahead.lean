import Inlay.Proofs.ReaderSound
import Inlay.Proofs.Spelling

/-!
# One token ahead

The reader never goes back and looks at one token only before it decides. So
what a rule makes of tokens depends on those that it takes and on the next one:
either it comes to a value, whatever stands behind that token, or it is stuck
there, whatever stands behind it, or it stops for a reason of another kind
(`Decided`). Where it is stuck, it has not gone too far: there are words that
complete what it took to a phrase that it reads (`Completable`).

Both are proved in one walk through the rules. A rule is a sequence of steps,
and a sequence of steps that look one token ahead does so too
(`Foresees.andThen`): if a step is stuck, the words that complete it and those
that each step after it can do with (`Fills`) complete the sequence.
-/

namespace Inlay

namespace Reader

open Grammar Spelling

/-! ## Rules and sequences -/

/-- A rule by the value that it reads and the tokens that it leaves. -/
abbrev Rule (α : Type) := List Token → Except Stop (α × List Token)

def rule {α : Type} (read : (ts : List Token) → Reads α ts) : Rule α :=
  fun ts => (read ts).map fun p => (p.value, p.rest)

def loop {α : Type}
    (read : (ts : List Token) → Except Stop { r : α × List Token // r.2.length ≤ ts.length }) :
    Rule α :=
  fun ts => (read ts).map Subtype.val

/-- The rule that takes a token of a kind. -/
abbrev token (k : TokenKind) (what : Expectation) : Rule Token :=
  rule (expect .expression k what)

/-- One rule and then another, which may depend on what the first has read. -/
def Rule.andThen {α β : Type} (first : Rule α) (next : α → Rule β) : Rule β :=
  fun ts => first ts >>= fun r => next r.1 r.2

def Rule.done {α : Type} (a : α) : Rule α := fun ts => .ok (a, ts)

section

variable {α β γ : Type} {ts : List Token}

theorem Rule.andThen_done (read : Rule α) : read.andThen Rule.done = read := by
  funext ts
  unfold Rule.andThen
  cases read ts <;> rfl

theorem rule_andThen_map {δ : Type} {read : (ts : List Token) → Reads α ts}
    {f : Parsed α ts → Except Stop β} {g : β → δ} {k : γ × List Token → δ} {next : α → Rule γ}
    (h : ∀ p, (f p).map g = (next p.value p.rest).map k) :
    (read ts >>= f).map g = (((rule read).andThen next) ts).map k := by
  unfold Rule.andThen rule
  cases read ts with
  | error stop => rfl
  | ok p => exact h p

theorem rule_andThen {read : (ts : List Token) → Reads α ts}
    {f : Parsed α ts → Except Stop β} {g : β → γ × List Token} {next : α → Rule γ}
    (h : ∀ p, (f p).map g = next p.value p.rest) :
    (read ts >>= f).map g = ((rule read).andThen next) ts := by
  have hmap := @rule_andThen_map _ _ _ _ _ read f g id next fun p => by
    rw [Except.map_id]
    exact h p
  rwa [Except.map_id] at hmap

theorem loop_andThen
    {read : (ts : List Token) → Except Stop { r : α × List Token // r.2.length ≤ ts.length }}
    {f : { r : α × List Token // r.2.length ≤ ts.length } → Except Stop β}
    {g : β → γ × List Token} {next : α → Rule γ}
    (h : ∀ a rest hle, (f ⟨(a, rest), hle⟩).map g = next a rest) :
    (read ts >>= f).map g = ((loop read).andThen next) ts := by
  unfold Rule.andThen loop
  cases read ts with
  | error stop => rfl
  | ok r => exact h r.1.1 r.1.2 r.2

theorem take_eq_expect {mode : Mode} {k : TokenKind} (hk : kind ts = k) (what : Expectation) :
    (take mode ts : Reads Token ts) = expect mode k what ts :=
  (if_pos hk).symm

end

/-! ## Completions -/

/-- What is stuck at a token in whose place something else was expected. -/
def rejection (what : Expectation) (t : Token) : Stop :=
  .failure (.rejected (.expected what t.description) t.location)

/-- The stops at a token in whose place something else was expected. -/
def Stop.Expects (stop : Stop) : Prop :=
  ∃ what found l, stop = .failure (.rejected (.expected what found) l)

/-- Tokens inside an expression that have been read: integers among them are
short enough, and none closes the expression. -/
structure Inside (us : List Token) : Prop where
  readable : Readable us
  unclosed : ∀ t ∈ us, t.kind ≠ .closing

theorem Inside.nil : Inside [] := ⟨.nil, fun _ h => nomatch h⟩

theorem Inside.one {t : Token} {k : TokenKind} (hk : t.kind = k)
    (hne : k ≠ .integer ∧ k ≠ .closing) : Inside [t] :=
  ⟨.cons hk (beq_false_of_ne hne.1) .nil, List.forall_mem_singleton.mpr (hk ▸ hne.2)⟩

theorem Inside.append {us vs : List Token} (h : Inside us) (h' : Inside vs) : Inside (us ++ vs) :=
  ⟨h.readable.append h'.readable, List.forall_mem_append.mpr ⟨h.unclosed, h'.unclosed⟩⟩

/-- Words that are read back and whose tokens, wherever they stand, are what `D`
describes. -/
structure Fills {α : Type} (ws : List Word) (D : α → List Token → Prop) : Prop where
  fits : ∀ w ∈ ws, w.Fits
  derives : ∀ place, ∃ a, D a (wordsTokens place ws)

/-- Tokens that can be completed to what `D` describes: by words that stand apart
from them, wherever that is, or by words that touch the minus at their end. -/
inductive Completable {α : Type} (D : α → List Token → Prop) (used : List Token) : Prop
  | apart {ws : List Word} (hfits : ∀ w ∈ ws, w.Fits)
      (h : ∀ place, ∃ a, D a (used ++ wordsTokens place ws))
  | touching (init : List Token) {minus : Token} {ws : List Word} (hused : used = init ++ [minus])
      (hk : minus.kind = .minus) (hfits : ∀ w ∈ ws, w.Fits)
      (hdigit : ∃ c more, wordsText ws = c :: more ∧ Lexer.isDigit c = true)
      (h : ∃ a, D a (used ++ wordsTokens minus.location.next ws))

/-- What `D` describes and, depending on it, what `D'` describes behind it. -/
def Then {α β : Type} (D : α → List Token → Prop) (D' : α → β → List Token → Prop) (b : β)
    (us : List Token) : Prop :=
  ∃ a vs ws, us = vs ++ ws ∧ D a vs ∧ D' a b ws

section

variable {α β : Type} {D E : α → List Token → Prop} {D' : α → β → List Token → Prop}
  {used : List Token} {ws vs : List Word}

theorem Fills.mono (h : Fills ws D) (hd : ∀ a us, D a us → E a us) : Fills ws E :=
  ⟨h.fits, fun place => (h.derives place).imp fun a => hd a _⟩

theorem Fills.andThen (h : Fills ws D) (h' : ∀ a, Fills vs (D' a)) :
    Fills (ws ++ vs) (Then D D') := by
  refine ⟨?_, fun place => ?_⟩
  · obtain ⟨a, -⟩ := h.derives .start
    exact List.forall_mem_append.mpr ⟨h.fits, (h' a).fits⟩
  · obtain ⟨a, ha⟩ := h.derives place
    obtain ⟨b, hb⟩ := (h' a).derives (place.advance (wordsText ws))
    exact ⟨b, a, _, _, wordsTokens_append place ws vs, ha, hb⟩

theorem Fills.completable (h : Fills ws D) : Completable D [] :=
  .apart h.fits h.derives

/-- What is completed may stand behind tokens that make something else of it. -/
theorem Completable.after {E : β → List Token → Prop} (us : List Token) (h : Completable D used)
    (hd : ∀ a vs, D a vs → ∃ b, E b (us ++ vs)) : Completable E (us ++ used) := by
  have hjoin : ∀ {ts : List Token}, (∃ a, D a (used ++ ts)) → ∃ b, E b (us ++ used ++ ts) := by
    rintro ts ⟨a, ha⟩
    rw [List.append_assoc]
    exact hd a _ ha
  cases h with
  | apart hfits h => exact .apart hfits fun place => hjoin (h place)
  | touching init hused hk hfits hdigit h =>
      refine .touching (us ++ init) ?_ hk hfits hdigit (hjoin h)
      rw [hused, List.append_assoc]

theorem Completable.mono (h : Completable D used) (hd : ∀ a us, D a us → E a us) :
    Completable E used :=
  h.after [] fun a us ha => ⟨a, hd a us ha⟩

/-- What completes a step, and then what the steps after it can do with. -/
theorem Completable.andThen (h : Completable D used) (h' : ∀ a, Fills vs (D' a)) :
    Completable (Then D D') used := by
  have hjoin : ∀ {ws : List Word} {place : Location},
      (∃ a, D a (used ++ wordsTokens place ws)) →
        ∃ b, Then D D' b (used ++ wordsTokens place (ws ++ vs)) := by
    rintro ws place ⟨a, ha⟩
    obtain ⟨b, hb⟩ := (h' a).derives (place.advance (wordsText ws))
    refine ⟨b, a, _, _, ?_, ha, hb⟩
    rw [wordsTokens_append, List.append_assoc]
  have hfits' : ∀ {ws : List Word} {place : Location},
      (∃ a, D a (used ++ wordsTokens place ws)) → (∀ w ∈ ws, w.Fits) →
        ∀ w ∈ ws ++ vs, w.Fits :=
    fun ⟨a, _⟩ hws => List.forall_mem_append.mpr ⟨hws, (h' a).fits⟩
  cases h with
  | apart hfits h => exact .apart (hfits' (h .start) hfits) fun place => hjoin (h place)
  | touching init hused hk hfits hdigit h =>
      obtain ⟨c, more, htext, hc⟩ := hdigit
      refine .touching init hused hk (hfits' h hfits) ⟨c, more ++ wordsText vs, ?_, hc⟩ (hjoin h)
      rw [wordsText, List.flatMap_append]
      exact congrArg (· ++ wordsText vs) htext

/-- Steps that are done stand before what is completed. -/
theorem Completable.behind {a : α} {us : List Token} (h : Completable (D' a) used)
    (hd : D a us) : Completable (Then D D') (us ++ used) :=
  h.after us fun b vs hb => ⟨b, a, us, vs, rfl, hd, hb⟩

end

/-! ## Decisions -/

/-- How a rule decides about tokens, one token ahead: it comes to a value, it is
stuck at a token, or it stops for a reason of another kind. -/
inductive Decided {α : Type} (D : α → List Token → Prop) (read : Rule α) : List Token → Prop
  | took (used : List Token) {rest : List Token} {a : α}
      (h : ∀ rest', rest'.head? = rest.head? → read (used ++ rest') = .ok (a, rest'))
      (hin : Inside used) (hd : D a used) : Decided D read (used ++ rest)
  | stuck (used : List Token) (what : Expectation) {after : List Token} {t : Token}
      (h : ∀ after', read (used ++ t :: after') = .error (rejection what t))
      (hin : Inside used) (hc : Completable D used) : Decided D read (used ++ t :: after)
  | stops {ts : List Token} {stop : Stop} (h : read ts = .error stop) (hs : ¬ stop.Expects) :
      Decided D read ts

/-- A rule that looks one token ahead, whatever the tokens are. The words are
what it can do with. -/
structure Foresees {α : Type} (D : α → List Token → Prop) (ws : List Word) (read : Rule α) :
    Prop where
  decided : ∀ ts, Formed ts → Decided D read ts
  fills : Fills ws D

theorem head?_append {us ts ts' : List Token} (h : ts.head? = ts'.head?) :
    (us ++ ts).head? = (us ++ ts').head? := by
  rw [List.head?_append, List.head?_append, h]

theorem head?_stuck (us : List Token) (t : Token) (after after' : List Token) :
    (us ++ t :: after).head? = (us ++ t :: after').head? :=
  head?_append rfl

section

variable {α β : Type} {D E : α → List Token → Prop} {D' : α → β → List Token → Prop}
  {ts : List Token} {ws vs : List Word} {read : Rule α} {next : α → Rule β}

theorem Decided.mono (h : Decided D read ts) (hd : ∀ a us, D a us → E a us) :
    Decided E read ts := by
  cases h with
  | took used h hin ha => exact .took used h hin (hd _ _ ha)
  | stuck used what h hin hc => exact .stuck used what h hin (hc.mono hd)
  | stops h hs => exact .stops h hs

theorem Decided.of_ok {rest : List Token} {a : α} (h : Decided D read ts)
    (hread : read ts = .ok (a, rest)) :
    ∃ used, ts = used ++ rest ∧ Inside used ∧ D a used ∧
      ∀ rest', rest'.head? = rest.head? → read (used ++ rest') = .ok (a, rest') := by
  cases h with
  | took used h hin hd =>
      obtain ⟨rfl, rfl⟩ := Prod.mk.inj (Except.ok.inj ((h _ rfl).symm.trans hread))
      exact ⟨used, rfl, hin, hd, h⟩
  | stuck used what h => cases (h _).symm.trans hread
  | stops h => cases h.symm.trans hread

/-- A rule may be replaced by one that does the same wherever the next token is
the same. -/
theorem Decided.switch {read' : Rule α} (h : Decided D read ts)
    (heq : ∀ us, us.head? = ts.head? → read' us = read us) : Decided D read' ts := by
  cases h with
  | took used h hin ha =>
      exact .took used (fun rest' hr => (heq _ (head?_append hr)).trans (h rest' hr)) hin ha
  | stuck used what h hin hc =>
      refine .stuck used what (fun after' => ?_) hin hc
      rw [heq _ (head?_stuck used _ after' _), h after']
  | stops h hs => exact .stops ((heq _ rfl).trans h) hs

theorem Decided.andThen (h : Decided D read ts) (hfill : ∀ a, Fills vs (D' a))
    (hnext : ∀ a used rest, ts = used ++ rest → D a used → Decided (D' a) (next a) rest) :
    Decided (Then D D') (read.andThen next) ts := by
  cases h with
  | @took used rest a h hin hd =>
      have hgo : ∀ rest', rest'.head? = rest.head? →
          (read.andThen next) (used ++ rest') = next a rest' := by
        intro rest' hr
        rw [Rule.andThen, h rest' hr]
        rfl
      cases hnext a used rest rfl hd with
      | took used' h' hin' hd' =>
          rw [← List.append_assoc]
          refine .took _ (fun rest' hr => ?_) (hin.append hin') ⟨a, _, _, rfl, hd, hd'⟩
          rw [List.append_assoc, hgo _ (head?_append hr), h' rest' hr]
      | stuck used' what h' hin' hc =>
          rw [← List.append_assoc]
          refine .stuck _ what (fun after' => ?_) (hin.append hin') (hc.behind hd)
          rw [List.append_assoc, hgo _ (head?_stuck used' _ after' _), h' after']
      | stops h' hs => exact .stops ((hgo rest rfl).trans h') hs
  | stuck used what h hin hc =>
      refine .stuck used what (fun after' => ?_) hin (hc.andThen hfill)
      rw [Rule.andThen, h after']
      rfl
  | stops h hs =>
      refine .stops ?_ hs
      rw [Rule.andThen, h]
      rfl

theorem Foresees.mono (h : Foresees D ws read) (hd : ∀ a us, D a us → E a us) :
    Foresees E ws read :=
  ⟨fun ts hts => (h.decided ts hts).mono hd, h.fills.mono hd⟩

/-- Steps that look one token ahead make a rule that does. -/
theorem Foresees.andThen (h : Foresees D ws read) (h' : ∀ a, Foresees (D' a) vs (next a)) :
    Foresees (Then D D') (ws ++ vs) (read.andThen next) where
  decided ts hts := (h.decided ts hts).andThen (fun a => (h' a).fills)
    fun a _ rest heq _ => (h' a).decided rest (heq ▸ hts).of_append
  fills := h.fills.andThen fun a => (h' a).fills

theorem Foresees.done (a : α) : Foresees (fun b us => b = a ∧ us = []) [] (Rule.done a) where
  decided _ _ := .took [] (fun _ _ => rfl) .nil ⟨rfl, rfl⟩
  fills := ⟨by simp, fun _ => ⟨a, rfl, rfl⟩⟩

/-! ## Single tokens -/

theorem expect_short {mode : Mode} {k : TokenKind} (what : Expectation)
    (h : ts = [] ∨ ∃ t, ts = [t] ∧ t.kind = k) :
    (expect mode k what ts : Reads Token ts) = .error .cutShort := by
  rw [expect_eq]
  rcases h with rfl | ⟨t, rfl, hk⟩
  · split <;> rfl
  · exact if_pos hk

theorem cutShort_not_expects : ¬ Stop.cutShort.Expects := fun ⟨_, _, _, h⟩ => nomatch h

theorem failure_not_expects {f : ParseFailure}
    (hf : ∀ what found l, f ≠ .rejected (.expected what found) l) : ¬ (Stop.failure f).Expects :=
  fun ⟨what, found, l, h⟩ => hf what found l (Stop.failure.inj h)

/-- That something else was expected comes from the reader alone, whatever the fault of
the text. -/
theorem Stop.eq_of_toFailure {stop : Stop} {fault : Option (LexicalFault × Location)}
    {what : Expectation} {found : String} {l : Location}
    (h : stop.toFailure fault = .rejected (.expected what found) l) :
    stop = .failure (.rejected (.expected what found) l) := by
  cases stop with
  | failure f => exact congrArg _ h
  | cutShort => cases fault <;> cases h

/-- A token of a kind, and what is made of it alone. -/
theorem token_decided (k : TokenKind) (what : Expectation) (f : Token → Except Stop α)
    (D : α → List Token → Prop)
    (hd : ∀ t a, t.kind = k → Formed [t] → f t = .ok a → Inside [t] ∧ D a [t])
    (hstop : ∀ t stop, f t = .error stop → ¬ stop.Expects) (hc : Completable D [])
    (hts : Formed ts) :
    Decided D ((token k what).andThen fun t ts => (f t).map fun a => (a, ts)) ts := by
  have hcut : ∀ {ts}, (expect .expression k what ts : Reads Token ts) = .error .cutShort →
      Decided D ((token k what).andThen fun t ts => (f t).map fun a => (a, ts)) ts := by
    intro ts h
    refine .stops ?_ cutShort_not_expects
    rw [Rule.andThen, token, rule, h]
    rfl
  match ts with
  | [] => exact hcut (expect_short what (.inl rfl))
  | t :: rest =>
      by_cases hk : t.kind = k
      · cases rest with
        | nil => exact hcut (expect_short what (.inr ⟨t, rfl, hk⟩))
        | cons u rest =>
            have hgo : ∀ rest', rest'.head? = some u →
                ((token k what).andThen fun t ts => (f t).map fun a => (a, ts)) (t :: rest') =
                  (f t).map fun a => (a, rest') := by
              intro rest' hr
              obtain ⟨more, rfl⟩ := List.head?_eq_some_iff.mp hr
              have hexpect : (expect .expression k what (t :: u :: more) :
                  Reads Token (t :: u :: more)) = .ok ⟨t, u :: more, by simp⟩ :=
                if_pos hk
              rw [Rule.andThen, token, rule, hexpect]
              rfl
            cases hf : f t with
            | ok a =>
                obtain ⟨hin, ha⟩ := hd t a hk
                  (List.forall_mem_singleton.mpr (hts t (List.mem_cons_self ..))) hf
                refine .took [t] (fun rest' hr => ?_) hin ha
                rw [List.singleton_append, hgo rest' hr, hf]
                rfl
            | error stop =>
                refine .stops ?_ (hstop t stop hf)
                rw [hgo (u :: rest) rfl, hf]
                rfl
      · refine .stuck [] what (fun after' => ?_) .nil hc
        have hexpect : (expect .expression k what (t :: after') : Reads Token (t :: after')) =
            .error (rejection what t) := if_neg hk
        rw [List.nil_append, Rule.andThen, token, rule, hexpect]
        rfl

def One (k : TokenKind) (t : Token) (us : List Token) : Prop := us = [t] ∧ t.kind = k

theorem fills_one {k : TokenKind} {source : List Char} (h : (Word.plain k source).Fits) :
    Fills [Word.plain k source] (One k) :=
  ⟨List.forall_mem_singleton.mpr h, fun _ => ⟨_, rfl, rfl⟩⟩

theorem token_foresees {k : TokenKind} (what : Expectation) (hne : k ≠ .integer ∧ k ≠ .closing)
    {source : List Char} (h : (Word.plain k source).Fits) :
    Foresees (One k) [Word.plain k source] (token k what) where
  decided ts hts := by
    have hdecided := token_decided k what Except.ok (One k)
      (fun t a hk _ ha => ?_) (fun _ _ h => nomatch h) (fills_one h).completable hts
    · exact hdecided.switch fun us _ => congrFun (Rule.andThen_done (token k what)).symm us
    · obtain rfl := Except.ok.inj ha
      exact ⟨.one hk hne, rfl, hk⟩
  fills := fills_one h

end

/-! ## Lists of items -/

theorem kind_head {ts us : List Token} (h : us.head? = ts.head?) : kind us = kind ts := by
  cases us <;> cases ts <;> simp_all [kind]

/-- A rule that takes nothing where the next token is this one. -/
theorem Decided.none {α : Type} {D : α → List Token → Prop} {read : Rule α} {ts : List Token}
    {a : α} (h : ∀ us, us.head? = ts.head? → read us = .ok (a, us)) (hd : D a []) :
    Decided D read ts :=
  .took [] (fun rest' hr => h rest' hr) .nil hd

section

variable {α σ : Type} {item : σ → ReaderIn (Except Stop) α} {next : σ → α → σ}

/-- The rule for items after commas, in steps. -/
theorem loop_moreItems (s : σ) (ts : List Token) :
    loop (moreItems item next s) ts =
      if kind ts = .comma then
        ((token .comma .comma).andThen fun _ => (rule (item s)).andThen fun a =>
          (loop (moreItems item next (next s a))).andThen fun as => .done (a :: as)) ts
      else .ok ([], ts) := by
  rw [loop, moreItems, look_bind]
  split
  · rename_i hk
    rw [take_eq_expect hk .comma]
    exact rule_andThen fun _ => rule_andThen fun _ => loop_andThen fun _ _ _ => rfl
  · rfl

variable {D : σ → α → List Token → Prop} {ws : σ → List Word}
  (hitem : ∀ s, Foresees (D s) (ws s) (rule (item s)))
include hitem

/-- Items after commas, where an item may depend on those before it. -/
theorem moreItems_foresees (M : σ → List α → List Token → Prop) (hnone : ∀ s, M s [] [])
    (hsome : ∀ {s comma a as vs us}, comma.kind = .comma → D s a vs → M (next s a) as us →
      M s (a :: as) (comma :: (vs ++ us))) (s : σ) :
    Foresees (M s) [] (loop (moreItems item next s)) := by
  have hcomma : Foresees (One .comma) [.plain .comma [',']] (token .comma .comma) :=
    token_foresees .comma (by decide) (fits_sign rfl)
  have hnil : ∀ s, Fills [] (M s) := fun s => ⟨by simp, fun _ => ⟨[], hnone s⟩⟩
  have hfills : ∀ s a, Fills ([] ++ []) (Then (M (next s a)) fun as b us =>
      b = a :: as ∧ us = []) :=
    fun s a => (hnil _).andThen fun as => (Foresees.done (a :: as)).fills
  refine ⟨fun ts hts => ?_, hnil s⟩
  -- every item takes the comma before it, so fewer tokens are left
  induction hlen : ts.length using Nat.strong_induction_on generalizing s ts with
  | _ m ih =>
      by_cases hk : kind ts = .comma
      · have hseq := (hcomma.decided ts hts).andThen
          (fun _ => (hitem s).fills.andThen (hfills s)) fun comma used rest heq hc =>
            ((hitem s).decided rest (heq ▸ hts).of_append).andThen (hfills s)
              fun a used' rest' heq' _ =>
                have hrest' : Formed rest' := (heq' ▸ (heq ▸ hts).of_append).of_append
                have hlt : rest'.length < m := by
                  rw [← hlen, heq, heq', hc.1, List.length_append, List.length_append,
                    List.length_singleton]
                  omega
                (ih _ hlt (next s a) rest' hrest' rfl).andThen
                  (fun as => (Foresees.done (a :: as)).fills) fun as _ rest'' heq'' _ =>
                    (Foresees.done (a :: as)).decided rest'' (heq'' ▸ hrest').of_append
        refine (hseq.mono ?_).switch fun us hus => ?_
        · rintro - - ⟨comma, _, _, rfl, ⟨rfl, hc⟩, a, vs, _, rfl, ha, as, us, _, rfl, has, rfl, rfl⟩
          simpa using hsome hc ha has
        · rw [loop_moreItems, if_pos ((kind_head hus).trans hk)]
      · refine .none (fun us hus => ?_) (hnone s)
        rw [loop_moreItems, if_neg (by rwa [kind_head hus])]

/-- Items up to a closing token: none, or one and then those after commas. -/
theorem items_foresees {closer : TokenKind} {M : α → List α → List Token → Prop}
    {L : List α → List Token → Prop} {source : List Char} (s : σ) (what : Expectation)
    (hne : closer ≠ .integer ∧ closer ≠ .closing) (hfits : (Word.plain closer source).Fits)
    (hmore : ∀ a, Foresees (M a) [] (loop (moreItems item next (next s a))))
    (hnone : ∀ {close}, close.kind = closer → L [] [close])
    (hsome : ∀ {a as vs us close}, D s a vs → M a as us → close.kind = closer →
      L (a :: as) (vs ++ (us ++ [close]))) :
    Foresees L [.plain closer source] (rule (items item next s closer what)) where
  decided ts hts := by
    have hclose : Foresees (One closer) [.plain closer source] (token closer what) :=
      token_foresees what hne hfits
    by_cases hk : kind ts = closer
    · have hseq := (hclose.andThen fun _ => .done ([] : List α)).decided ts hts
      refine (hseq.mono ?_).switch fun us hus => ?_
      · rintro - - ⟨close, _, _, rfl, ⟨rfl, hc⟩, rfl, rfl⟩
        exact hnone hc
      · have hclosed : kind us = closer := (kind_head hus).trans hk
        rw [rule, items, look_bind, if_pos hclosed, take_eq_expect hclosed what]
        exact rule_andThen fun _ => rfl
    · have hseq := ((hitem s).andThen fun a => (hmore a).andThen fun as =>
        hclose.andThen fun _ => .done (a :: as)).decided ts hts
      refine (hseq.mono ?_).switch fun us hus => ?_
      · rintro - - ⟨a, vs, _, rfl, ha, as, us, _, rfl, has, close, _, _, rfl, ⟨rfl, hc⟩, rfl, rfl⟩
        exact hsome ha has hc
      · rw [rule, items, look_bind, if_neg (by rwa [kind_head hus])]
        exact rule_andThen fun _ => loop_andThen fun _ _ _ => rule_andThen fun _ => rfl
  fills := ⟨List.forall_mem_singleton.mpr hfits, fun _ => ⟨[], hnone rfl⟩⟩

end

end Reader

end Inlay
