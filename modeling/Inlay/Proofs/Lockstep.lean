import Inlay.Proofs.Joining
import Inlay.Proofs.ReaderSteps
import Inlay.Proofs.ViablePrefixes

/-!
# Reader and lexer in step

The lexer changes its mode at the marks, and the reader goes into an expression and
out of it. Neither asks the other. Still, at every step of every reading the current
token was made in the mode that fits: a token of expressions, or the end, inside an
expression; text, an opening mark or the end between expressions
(`reading_inStep`). So the reader never moves on from the end, never misses an
opening mark, and never finds text where it wants something else.

What carries the proof is where the reader is (`At`): the tokens that it has passed
lead the lexer into the mode of what the reader is in the middle of. Taking a token
keeps this (`At.take`), and a rule is a row of steps (`Keeps.bind`), each of which
is made where the one before has led.
-/

namespace Inlay

/-! ## From the middle of a text -/

namespace Lexer

/-- The lexer makes a token and goes on behind it, in the mode that the token leads to. -/
theorem tokensFrom_next {mode : Mode} {place : Location} {cs : List Char} {t : Token}
    {after : List Token} (h : (tokensFrom mode place cs).tokens = t :: after)
    (hafter : after ≠ []) :
    ∃ source rest, cs = source ++ rest ∧ tokensFrom mode place cs =
      Lexed.cons t (tokensFrom (mode.step t.kind) (place.advance source) rest) := by
  fun_induction tokensFrom mode place cs with
  | case1 =>
      obtain ⟨-, rfl⟩ := List.cons.inj h
      exact absurd rfl hafter
  | case2 place c rest plain hempty =>
      obtain ⟨rfl, -⟩ := List.cons.inj h
      exact ⟨openingMark, rest.drop 2, eq_mark_of_plainText (List.isEmpty_iff.mp hempty), rfl⟩
  | case3 place c rest plain hempty =>
      obtain ⟨rfl, -⟩ := List.cons.inj h
      refine ⟨plain, _, ?_, rfl⟩
      rw [drop_plainText fun hnil => hempty (List.isEmpty_iff.mpr hnil), plainText_append_drop]
  | case4 place c rest hgap ih =>
      obtain ⟨source, rest', rfl, hread⟩ := ih h
      exact ⟨c :: source, rest', rfl, hread⟩
  | case5 => cases h
  | case6 place c rest hgap kind more hl source =>
      obtain ⟨rfl, -⟩ := List.cons.inj h
      obtain ⟨hlex, tail, rfl⟩ := lexeme_sound hl
      refine ⟨source, tail, rfl, ?_⟩
      rw [List.drop_left, step_lexeme hlex]

/-- The lexer goes on from any token as if the text began there, in the mode that the
tokens before lead to. -/
theorem tokensFrom_resume {mode : Mode} {place : Location} {cs : List Char}
    {before after : List Token} {t : Token}
    (h : (tokensFrom mode place cs).tokens = before ++ t :: after) :
    ∃ done rest, cs = done ++ rest ∧ tokensFrom mode place cs =
      Lexed.prepend before (tokensFrom (mode.through before) (place.advance done) rest) := by
  induction before generalizing mode place cs with
  | nil => exact ⟨[], cs, rfl, rfl⟩
  | cons u before ih =>
      obtain ⟨source, rest, rfl, hread⟩ := tokensFrom_next h (by simp)
      rw [hread] at h
      obtain ⟨done, rest', rfl, hmore⟩ := ih (List.cons.inj h).2
      refine ⟨source ++ done, rest', (List.append_assoc ..).symm, ?_⟩
      rw [hread, hmore, ← Location.advance_append]
      rfl

end Lexer

namespace Reader

/-! ## Steps that are in step -/

/-- At a step of reading a text, where `t` is the current token, reader and lexer
are in step. -/
structure InStep (text : String) (s : Step) (t : Token) : Prop where
  current : s.tokens.head? = some t
  /-- In the mode of what the reader is in the middle of, the lexer makes the current
  token and those behind it of what is left of the text. -/
  lexed : ∃ before done rest, text.toList = done ++ rest ∧
    (Lexer.tokensFrom s.mode (Location.start.advance done) rest).tokens = s.tokens ∧
    tokenize text = Lexer.Lexed.prepend before
      (Lexer.tokensFrom s.mode (Location.start.advance done) rest)
  /-- Between expressions stands text, an opening mark or the end. -/
  between : s.mode = .plain → t.kind = .text ∨ t.kind = .opening ∨ t.kind = .ending
  /-- Inside an expression stands a token of expressions or the end. -/
  inside : s.mode = .expression → t.kind ≠ .text ∧ t.kind ≠ .opening
  /-- The end is never taken. -/
  taken : s.act = .take → t.kind ≠ .ending
  /-- No opening mark is missed, and no text stands in the place of something else. -/
  rejected : ∀ what, s.act = .reject what →
    what ≠ .openingMark ∧ t.description ≠ "template text"

/-- Where a reader is: there is a current token, and those before it lead the lexer
into the mode of what the reader is in the middle of. -/
structure At (text : String) (mode : Mode) (ts : List Token) : Prop where
  nonempty : ts ≠ []
  passed : ∃ before, (tokenize text).tokens = before ++ ts ∧ Mode.plain.through before = mode

/-- What a stop is due to. -/
structure Explained (text : String) (steps : List Step) (stop : Stop) : Prop where
  /-- Tokens are cut short by a fault of the text alone. -/
  cutShort : stop = .cutShort → (tokenize text).fault ≠ none
  /-- That something else was expected comes from a step that rejects. -/
  rejected : ∀ what found l, stop = .failure (.rejected (.expected what found) l) →
    ∃ s ∈ steps, ∃ t, s.act = .reject what ∧ s.tokens.head? = some t ∧ t.description = found

/-- What is read from `ts`: the tokens in front of each step are those that the steps
before it have taken, each step is in step, and the reading comes to what `Q` says
and leaves the rest, or stops for a reason. -/
structure Keeps {α : Type} (text : String) (ts : List Token) (rest : α → List Token)
    (Q : α → Prop) (x : Traced α) : Prop where
  steps : ∀ earlier s later, x.steps = earlier ++ s :: later →
    ts = taken earlier ++ s.tokens ∧ ∃ t, InStep text s t
  result : ∀ a, x.result = .ok a → ts = taken x.steps ++ rest a ∧ Q a
  stop : ∀ stop, x.result = .error stop → Explained text x.steps stop

/-! ## Where the reader is -/

section

variable {text : String} {mode : Mode} {ts : List Token}

/-- The lexer allows the current token in the mode of what the reader is in the
middle of. -/
theorem At.allows {t : Token} {after : List Token} (h : At text mode (t :: after)) :
    mode.Allows t.kind := by
  obtain ⟨before, htokens, rfl⟩ := h.passed
  exact Lexer.run_allows (Lexer.tokensFrom_run .plain .start text.toList) htokens

/-- A token that is taken leads reader and lexer on alike. -/
theorem At.take {t u : Token} {after : List Token} (h : At text mode (t :: u :: after)) :
    At text (mode.step t.kind) (u :: after) := by
  obtain ⟨before, htokens, rfl⟩ := h.passed
  refine ⟨List.cons_ne_nil _ _, before ++ [t], by simp [htokens], ?_⟩
  rw [Mode.through, List.foldl_append]
  rfl

/-- Only a fault of the text keeps a token that does not end it from being followed. -/
theorem At.last {t : Token} (h : At text mode [t]) (hk : t.kind ≠ .ending) :
    (tokenize text).fault ≠ none := by
  intro hnone
  obtain ⟨before, htokens, -⟩ := h.passed
  obtain ⟨init, last, hinit, hlast, -⟩ :=
    Lexer.run_ending (Lexer.tokensFrom_run .plain .start text.toList) hnone
  obtain ⟨-, heq⟩ := List.append_inj' (htokens.symm.trans hinit) rfl
  obtain rfl := List.singleton_inj.mp heq
  exact hk hlast

/-- The token that ends the text is the last. -/
theorem At.ending {t : Token} {after : List Token} (h : At text mode (t :: after))
    (hk : t.kind = .ending) : t :: after = (tokenize text).tokens.getLast?.toList := by
  have hrun := Lexer.tokensFrom_run .plain .start text.toList
  obtain ⟨before, htokens, -⟩ := h.passed
  by_cases hfault : (tokenize text).fault = none
  · obtain ⟨init, last, hinit, -, hno⟩ := Lexer.run_ending hrun hfault
    have hinit' : (tokenize text).tokens = init ++ [last] := hinit
    -- a token that is followed is not the last, so it does not end the text
    rcases List.eq_nil_or_concat after with rfl | ⟨more, u, rfl⟩
    · simp [htokens]
    · have hall : before ++ t :: more ++ [u] = init ++ [last] := by
        rw [← hinit', ← List.concat_eq_append]
        simpa using htokens.symm
      obtain ⟨rfl, -⟩ := List.append_inj' hall rfl
      exact absurd hk (hno t (by simp))
  · exact absurd hk (Lexer.run_no_ending hrun hfault t (htokens ▸ by simp))

theorem At.start (text : String) : At text .plain (tokenize text).tokens where
  nonempty := tokensFrom_plain_ne_nil .start text.toList
  passed := ⟨[], rfl, rfl⟩

/-- A token other than text is not named as text is. -/
theorem description_ne {t : Token} (h : t.kind ≠ .text) : t.description ≠ "template text" := by
  unfold Token.description
  split
  · decide
  · exact absurd ‹_› h
  · decide
  · intro heq
    have hhead := congrArg (fun s => s.toList.head?) heq
    simp at hhead

theorem At.inStep {t : Token} {after : List Token} (h : At text mode (t :: after)) (act : Act)
    (htake : act = .take → t.kind ≠ .ending)
    (hreject : ∀ what, act = .reject what → mode = .expression ∧ what ≠ .openingMark) :
    InStep text ⟨mode, act, t :: after⟩ t where
  current := rfl
  lexed := by
    obtain ⟨before, htokens, rfl⟩ := h.passed
    obtain ⟨done, rest, htext, hread⟩ := Lexer.tokensFrom_resume htokens
    refine ⟨before, done, rest, htext, ?_, hread⟩
    have hbehind := htokens
    rw [tokenize, hread] at hbehind
    exact List.append_cancel_left hbehind
  between := by
    rintro rfl
    exact h.allows
  inside := by
    rintro rfl
    exact h.allows
  taken := htake
  rejected what hact := by
    obtain ⟨rfl, hwhat⟩ := hreject what hact
    exact ⟨hwhat, description_ne h.allows.1⟩

end

/-! ## Rows of steps -/

section

variable {text : String} {mode : Mode} {ts : List Token} {α β : Type} {rest : α → List Token}
  {rest' : β → List Token} {Q : α → Prop} {R : β → Prop}

theorem taken_append (steps more : List Step) :
    taken (steps ++ more) = taken steps ++ taken more :=
  List.flatMap_append

theorem Explained.mono {steps more : List Step} {stop : Stop} (h : Explained text steps stop)
    (hsub : steps ⊆ more) : Explained text more stop where
  cutShort := h.cutShort
  rejected what found l hstop := by
    obtain ⟨s, hs, hrest⟩ := h.rejected what found l hstop
    exact ⟨s, hsub hs, hrest⟩

theorem Keeps.pure {a : α} (hrest : ts = rest a) (h : Q a) :
    Keeps text ts rest Q (pure a) where
  steps earlier _ _ heq := by cases earlier <;> cases heq
  result b hb := by
    obtain rfl := Except.ok.inj hb
    exact ⟨hrest, h⟩
  stop _ hstop := nomatch hstop

/-- Steps in a row, each of which is made where those before it have led. -/
theorem Keeps.bind {x : Traced α} {f : α → Traced β} (h : Keeps text ts rest Q x)
    (hf : ∀ a, Q a → Keeps text (rest a) rest' R (f a)) :
    Keeps text ts rest' R (x >>= f) := by
  obtain ⟨steps, result⟩ := x
  cases result with
  | error stop =>
      refine ⟨h.steps, fun _ hb => (nomatch hb), fun stop' hstop => ?_⟩
      exact h.stop stop' (congrArg _ (Except.error.inj hstop))
  | ok a =>
      obtain ⟨hts, ha⟩ := h.result a rfl
      have hnext := hf a ha
      change ts = taken steps ++ rest a at hts
      refine ⟨fun earlier s later heq => ?_, fun b hb => ?_, fun stop hstop => ?_⟩
      · -- a step is one of the first reading, or it stands behind all of them
        rcases List.append_eq_append_iff.mp heq with ⟨front, rfl, hback⟩ | ⟨back, hfront, hback⟩
        · obtain ⟨hrest, hs⟩ := hnext.steps front s later hback
          rw [taken_append, List.append_assoc, ← hrest]
          exact ⟨hts, hs⟩
        · cases back with
          | nil =>
              obtain ⟨hrest, hs⟩ := hnext.steps [] s later hback.symm
              rw [List.append_nil] at hfront
              subst hfront
              exact ⟨hts.trans (congrArg _ hrest), hs⟩
          | cons u back =>
              obtain ⟨rfl, rfl⟩ := List.cons.inj hback
              exact h.steps earlier s back hfront
      · obtain ⟨hrest, hR⟩ := hnext.result b hb
        refine ⟨?_, hR⟩
        change ts = taken (steps ++ (f a).steps) ++ rest' b
        rw [taken_append, List.append_assoc, ← hrest]
        exact hts
      · exact (hnext.stop stop hstop).mono (List.subset_append_right _ _)

/-- What is made of tokens that have been taken may fail for reasons of its own. -/
theorem Keeps.made {x : Except Stop α} (hok : ∀ a, x = .ok a → ts = rest a ∧ Q a)
    (herror : ∀ stop, x = .error stop → stop ≠ .cutShort ∧ ¬ stop.Expects) :
    Keeps text ts rest Q (Steps.made x) where
  steps earlier _ _ heq := by cases earlier <;> cases heq
  result := hok
  stop stop hstop := by
    obtain ⟨hcut, hexpects⟩ := herror stop hstop
    exact ⟨fun h => absurd h hcut, fun what found l h => absurd ⟨what, found, l, h⟩ hexpects⟩

/-- A reading that stops for a reason of its own. -/
theorem Keeps.stopped {f : ParseFailure}
    (hf : ∀ what found l, f ≠ .rejected (.expected what found) l) :
    Keeps text ts rest Q (Steps.made (.error (.failure f))) := by
  refine .made nofun fun stop hstop => ?_
  obtain rfl := Except.error.inj hstop
  exact ⟨nofun, failure_not_expects hf⟩

/-- A single step. -/
theorem steps_singleton {act : Act} {t : Token} {after : List Token}
    (h : InStep text ⟨mode, act, t :: after⟩ t) (earlier : List Step) (s : Step)
    (later : List Step) (heq : [⟨mode, act, t :: after⟩] = earlier ++ s :: later) :
    t :: after = taken earlier ++ s.tokens ∧ ∃ t, InStep text s t := by
  cases earlier with
  | nil =>
      obtain rfl := (List.cons.inj heq).1
      exact ⟨rfl, t, h⟩
  | cons _ earlier => cases earlier <;> cases heq

theorem keeps_look (h : At text mode ts) :
    Keeps text ts (fun _ => ts) (· = kind ts) (look mode ts) := by
  obtain ⟨t, after, rfl⟩ := List.exists_cons_of_ne_nil h.nonempty
  exact ⟨steps_singleton (h.inStep .look nofun nofun), fun k hk => ⟨rfl, (Except.ok.inj hk).symm⟩,
    fun _ hstop => nomatch hstop⟩

theorem keeps_take {k : TokenKind} (h : At text mode ts) (hk : kind ts = k) (hend : k ≠ .ending) :
    Keeps text ts Parsed.rest (fun p => At text (mode.step k) p.rest) (take mode ts) := by
  obtain ⟨t, after, rfl⟩ := List.exists_cons_of_ne_nil h.nonempty
  subst hk
  refine ⟨steps_singleton (h.inStep .take (fun _ => hend) nofun), fun p hp => ?_,
    fun stop hstop => ?_⟩
  · cases after with
    | nil => cases hp
    | cons u after =>
        obtain rfl := Except.ok.inj hp
        exact ⟨rfl, h.take⟩
  · cases after with
    | nil =>
        obtain rfl := Except.error.inj hstop
        exact ⟨fun _ => h.last hend, fun _ _ _ heq => nomatch heq⟩
    | cons u after => cases hstop

theorem keeps_reject {what : Expectation} (h : At text .expression ts)
    (hwhat : what ≠ .openingMark) :
    Keeps text ts rest Q (reject .expression what ts) := by
  obtain ⟨t, after, rfl⟩ := List.exists_cons_of_ne_nil h.nonempty
  refine ⟨steps_singleton (h.inStep (.reject what) nofun fun what' hact => ⟨rfl, ?_⟩),
    fun _ hp => (nomatch hp), fun stop hstop => ?_⟩
  · rwa [← Act.reject.inj hact]
  · obtain rfl := Except.error.inj hstop
    refine ⟨nofun, fun what' found l heq => ?_⟩
    obtain ⟨hcause, -⟩ := ParseFailure.rejected.inj (Stop.failure.inj heq)
    obtain ⟨rfl, rfl⟩ := ParseCause.expected.inj hcause
    exact ⟨_, List.mem_singleton_self _, t, rfl, rfl, rfl⟩

end

/-! ## The rules of expressions -/

/-- A rule that is done inside the expression that it began in. -/
abbrev Stays (text : String) {α : Type} {ts : List Token} (x : Traced (Parsed α ts)) : Prop :=
  Keeps text ts Parsed.rest (fun p => At text .expression p.rest) x

section

variable {text : String} {ts : List Token}

theorem step_inside {k : TokenKind} (hk : k ≠ .closing) : Mode.expression.step k = .expression := by
  cases k <;> first | rfl | exact absurd rfl hk

theorem stays_take {k : TokenKind} (h : At text .expression ts) (hk : kind ts = k)
    (hinside : k ≠ .ending ∧ k ≠ .closing) : Stays text (take .expression ts) := by
  have htake := keeps_take h hk hinside.1
  rwa [step_inside hinside.2] at htake

theorem keeps_expect {k : TokenKind} {what : Expectation} (h : At text .expression ts)
    (hend : k ≠ .ending) (hwhat : what ≠ .openingMark) :
    Keeps text ts Parsed.rest (fun p => At text (Mode.expression.step k) p.rest)
      (expect .expression k what ts) := by
  refine (keeps_look h).bind fun k' hk => ?_
  split_ifs with hwanted
  · exact keeps_take h (hk.symm.trans hwanted) hend
  · exact keeps_reject h hwhat

theorem stays_expect {k : TokenKind} {what : Expectation} (h : At text .expression ts)
    (hinside : k ≠ .ending ∧ k ≠ .closing) (hwhat : what ≠ .openingMark) :
    Stays text (expect .expression k what ts) := by
  have hexpect := keeps_expect h hinside.1 hwhat
  rwa [step_inside hinside.2] at hexpect

theorem keeps_number (negative : Bool) (t : Token) (l : Location) :
    Keeps text ts (fun _ => ts) (fun _ => True) (made (number negative t l)) :=
  .made (fun _ _ => ⟨rfl, trivial⟩) fun _ => number_stops

theorem stays_negativeNumber (h : At text .expression ts) (hk : kind ts = .minus) :
    Stays text (negativeNumber ts) := by
  refine (stays_take h hk (by decide)).bind fun minus hminus =>
    (keeps_look hminus).bind fun k hkind => ?_
  split_ifs with hnumber
  · have hinside : k ≠ .ending ∧ k ≠ .closing := by
      rcases hnumber.1 with rfl | rfl <;> decide
    exact (stays_take hminus hkind.symm hinside).bind fun t ht =>
      (keeps_number true t.value _).bind fun _ _ => .pure rfl ht
  · exact keeps_reject hminus (by decide)

theorem stays_parameter (before : List String) (h : At text .expression ts) :
    Stays text (parameter before ts) := by
  refine (stays_expect h (by decide) (by decide)).bind fun name hname => ?_
  split_ifs
  · exact .stopped nofun
  · exact .pure rfl hname

section

variable {α σ : Type} {item : σ → ReaderIn Traced α} {next : σ → α → σ}
  (hitem : ∀ s ts, At text .expression ts → Stays text (item s ts))
include hitem

theorem keeps_moreItems (s : σ) (h : At text .expression ts) :
    Keeps text ts (fun r => r.1.2) (fun r => At text .expression r.1.2)
      (moreItems item next s ts) := by
  induction s, ts using moreItems.induct next with
  | case1 s ts ih =>
      rw [moreItems]
      refine (keeps_look h).bind fun k hk => ?_
      split_ifs with hcomma
      · exact (stays_take h (hk.symm.trans hcomma) (by decide)).bind fun comma hc =>
          (hitem s _ hc).bind fun a ha => (ih comma a ha).bind fun _ hr => .pure rfl hr
      · exact .pure rfl h

theorem stays_items (s : σ) {closer : TokenKind} {what : Expectation}
    (h : At text .expression ts) (hinside : closer ≠ .ending ∧ closer ≠ .closing)
    (hwhat : what ≠ .openingMark) : Stays text (items item next s closer what ts) := by
  refine (keeps_look h).bind fun k hk => ?_
  split_ifs with hcloser
  · exact (stays_take h (hk.symm.trans hcloser) hinside).bind fun _ hclose => .pure rfl hclose
  · exact (hitem s _ h).bind fun _ hfirst => (keeps_moreItems hitem _ hfirst).bind fun _ hmore =>
      (stays_expect hmore hinside hwhat).bind fun _ hclose => .pure rfl hclose

end

theorem stays_parameters (h : At text .expression ts) : Stays text (parameters ts) :=
  stays_items (fun before _ => stays_parameter before) [] h (by decide) (by decide)

section

variable {one : ReaderIn Traced Expr}
  (hone : ∀ ts, At text .expression ts → Stays text (one ts))
include hone

theorem stays_expressions {closer : TokenKind} {what : Expectation} (h : At text .expression ts)
    (hinside : closer ≠ .ending ∧ closer ≠ .closing) (hwhat : what ≠ .openingMark) :
    Stays text (expressions one closer what ts) :=
  stays_items (fun _ => hone) () h hinside hwhat

theorem stays_entry (h : At text .expression ts) : Stays text (entry one ts) :=
  (hone _ h).bind fun _ hkey => (stays_expect hkey (by decide) (by decide)).bind fun _ hcolon =>
    (hone _ hcolon).bind fun _ hvalue => .pure rfl hvalue

theorem stays_entries (h : At text .expression ts) : Stays text (entries one ts) :=
  stays_items (fun _ _ => stays_entry hone) () h (by decide) (by decide)

theorem stays_function (h : At text .expression ts) (hk : kind ts = .fnWord) :
    Stays text (function one ts) :=
  (stays_take h hk (by decide)).bind fun _ hkeyword =>
    (stays_expect hkeyword (by decide) (by decide)).bind fun _ hparen =>
      (stays_parameters hparen).bind fun _ hnames =>
        (stays_expect hnames (by decide) (by decide)).bind fun _ harrow =>
          (hone _ harrow).bind fun _ hbody => .pure rfl hbody

theorem stays_choice (h : At text .expression ts) (hk : kind ts = .ifWord) :
    Stays text (choice one ts) :=
  (stays_take h hk (by decide)).bind fun _ hkeyword =>
    (stays_expect hkeyword (by decide) (by decide)).bind fun _ hparen =>
      (hone _ hparen).bind fun _ hcondition =>
        (stays_expect hcondition (by decide) (by decide)).bind fun _ hcomma =>
          (hone _ hcomma).bind fun _ hyes =>
            (stays_expect hyes (by decide) (by decide)).bind fun _ hcomma' =>
              (hone _ hcomma').bind fun _ hno =>
                (stays_expect hno (by decide) (by decide)).bind fun _ hclose => .pure rfl hclose

end

/-- A name, a string or a number by itself. -/
theorem stays_single {k : TokenKind} (h : At text .expression ts) (hk : kind ts = k)
    (hinside : k ≠ .ending ∧ k ≠ .closing) (f : Token → Expr) :
    Stays text (do let t ← take .expression ts; return t.map f : Traced (Parsed Expr ts)) :=
  (stays_take h hk hinside).bind fun _ ht => .pure rfl ht

theorem stays_number {k : TokenKind} (h : At text .expression ts) (hk : kind ts = k)
    (hinside : k ≠ .ending ∧ k ≠ .closing) :
    Stays text (do
      let t ← take .expression ts
      let e ← made (number false t.value t.value.location)
      return t.map fun _ => e : Traced (Parsed Expr ts)) :=
  (stays_take h hk hinside).bind fun t ht =>
    (keeps_number false t.value _).bind fun _ _ => .pure rfl ht

section

variable {one : Construct → ReaderIn Traced Expr}
  (hone : ∀ c ts, At text .expression ts → Stays text (one c ts))
include hone

theorem stays_primary (h : At text .expression ts) : Stays text (primary one ts) := by
  refine (keeps_look h).bind fun k hk => ?_
  split
  · exact (stays_take h hk.symm (by decide)).bind fun _ hparen => (hone _ _ hparen).bind
      fun _ hinner => (stays_expect hinner (by decide) (by decide)).bind fun _ hclose =>
        .pure rfl hclose
  · exact stays_choice (hone _) h hk.symm
  · exact stays_single h hk.symm (by decide) _
  · exact stays_single h hk.symm (by decide) _
  · exact stays_number h hk.symm (by decide)
  · exact stays_number h hk.symm (by decide)
  · exact stays_negativeNumber h hk.symm
  · exact (stays_take h hk.symm (by decide)).bind fun _ hbracket =>
      (stays_expressions (hone _) hbracket (by decide) (by decide)).bind fun _ helements =>
        .pure rfl helements
  · exact (stays_take h hk.symm (by decide)).bind fun _ hbrace =>
      (stays_entries (hone _) hbrace).bind fun _ hes => .pure rfl hes
  · exact keeps_reject h (by decide)

theorem keeps_suffix? (base : Expr) (h : At text .expression ts) :
    Keeps text ts (fun r => r.elim ts Parsed.rest)
      (fun r => At text .expression (r.elim ts Parsed.rest)) (suffix? one base ts) := by
  refine (keeps_look h).bind fun k hk => ?_
  split
  · exact (stays_take h hk.symm (by decide)).bind fun _ hdot =>
      (stays_expect hdot (by decide) (by decide)).bind fun _ hname => .pure rfl hname
  · exact (stays_take h hk.symm (by decide)).bind fun _ hbracket => (hone _ _ hbracket).bind
      fun _ hkey => (stays_expect hkey (by decide) (by decide)).bind
        fun _ hclose => .pure rfl hclose
  · exact (stays_take h hk.symm (by decide)).bind fun _ hparen =>
      (stays_expressions (hone _) hparen (by decide) (by decide)).bind fun _ harguments =>
        .pure rfl harguments
  · exact .pure rfl h

theorem keeps_suffixes (base : Expr) (h : At text .expression ts) :
    Keeps text ts (fun r => r.1.2) (fun r => At text .expression r.1.2)
      (suffixes one base ts) := by
  induction base, ts using suffixes.induct with
  | case1 base ts ih =>
      rw [suffixes]
      refine (keeps_suffix? hone base h).bind fun r hr => ?_
      cases r with
      | none => exact .pure rfl hr
      | some p => exact (ih p hr).bind fun _ hrest => .pure rfl hrest

end

/-- Giving up names the current token, and nothing that was expected. -/
theorem keeps_giveUp (h : At text .expression ts) :
    Stays text (made (giveUp ts) : Traced (Parsed Expr ts)) := by
  obtain ⟨t, after, rfl⟩ := List.exists_cons_of_ne_nil h.nonempty
  exact .stopped nofun

/-- An expression is read inside the expression, whatever stack is left. -/
theorem stays_expression (between : Construct → Nat) (room above : Nat)
    (h : At text .expression ts) : Stays text (expression between room above ts) := by
  induction room generalizing above ts with
  | zero => exact keeps_giveUp h
  | succ room ih =>
      cases above with
      | zero =>
          refine (keeps_look h).bind fun k hk => ?_
          split_ifs with hfn
          · exact stays_function (fun _ => ih _) h (hk.symm.trans hfn)
          · exact (stays_primary (fun _ _ => ih _) h).bind fun base hbase =>
              (keeps_suffixes (fun _ _ => ih _) base.value hbase).bind fun _ hrest =>
                .pure rfl hrest
      | succ above => exact ih above h

end

/-! ## Templates -/

section

variable {text : String} {ts : List Token}

/-- Between expressions an opening mark is not missed. -/
theorem keeps_opening (h : At text .plain ts) (hend : kind ts ≠ .ending)
    (htext : kind ts ≠ .text) :
    Stays text (expect .plain .opening .openingMark ts) := by
  obtain ⟨t, after, rfl⟩ := List.exists_cons_of_ne_nil h.nonempty
  -- the lexer allows three kinds of tokens here, and two of them are excluded
  have hopening : t.kind = .opening := by
    rcases h.allows with hk | hk | hk
    · exact absurd hk htext
    · exact hk
    · exact absurd hk hend
  refine (keeps_look h).bind fun k hk => ?_
  rw [if_pos (hk.trans hopening)]
  exact keeps_take h hopening (by decide)

/-- Between expressions the reader comes to text, which it takes, or to an opening
mark, behind which it is inside an expression up to the closing one. -/
theorem keeps_children {one : ReaderIn Traced Expr}
    (hone : ∀ ts, At text .expression ts → Stays text (one ts)) (h : At text .plain ts) :
    Keeps text ts (fun _ => (tokenize text).tokens.getLast?.toList) (fun _ => True)
      (children one ts) := by
  induction ts using children.induct with
  | case1 ts ihtext ihexpression =>
      rw [children]
      refine (keeps_look h).bind fun k hk => ?_
      split
      · rw [if_neg (by simpa using h.nonempty)]
        obtain ⟨t, after, rfl⟩ := List.exists_cons_of_ne_nil h.nonempty
        exact .pure (h.ending hk.symm) trivial
      · exact (keeps_take h hk.symm (by decide)).bind fun t ht =>
          (ihtext t ht).bind fun _ _ => .pure rfl trivial
      · rename_i hend htext
        exact (keeps_opening h (hk ▸ hend) (hk ▸ htext)).bind fun opening hopening =>
          (hone _ hopening).bind fun e he =>
            (keeps_expect he (by decide) (by decide)).bind fun closing hclosing =>
              (ihexpression opening e closing hclosing).bind fun _ _ => .pure rfl trivial

/-- A text is rejected where the reading of its tokens is. -/
theorem children_of_rejected {stack : Stack} {what : Expectation} {found : String}
    {l : Location} (h : Template.parse stack text = .error (.rejected (.expected what found) l)) :
    stack.children (tokenize text).tokens =
      .error (.failure (.rejected (.expected what found) l)) := by
  unfold Template.parse at h
  dsimp only at h
  split at h
  · cases h
  · rename_i stop hstop
    rw [hstop, Stop.eq_of_toFailure (Except.error.inj h)]

end

end Reader

/-- Throughout the reading of any text on any stack, whether it comes to a template or not, reader
and lexer are in step: at every look at a token and at every token that is taken or
rejected, where the current token is the first that no step before has taken. What is
read takes all tokens but the end. So no token is asked for behind the end: tokens
are cut short by a fault of the text alone. And no text is rejected because an opening
mark is missing, or because plain text stands in the place of something else. -/
theorem reading_inStep (stack : Reader.Stack) (text : String) :
    let reading : Reader.Traced (List Expr) :=
      Reader.children stack.expression (tokenize text).tokens
    reading.result = stack.children (tokenize text).tokens ∧
    (∀ earlier s later, reading.steps = earlier ++ s :: later →
      (tokenize text).tokens = Reader.taken earlier ++ s.tokens ∧
      ∃ t, Reader.InStep text s t) ∧
    (∀ es, reading.result = .ok es →
      Reader.taken reading.steps = (tokenize text).tokens.dropLast) ∧
    (reading.result = .error .cutShort → (tokenize text).fault ≠ none) ∧
    ∀ what found l, Template.parse stack text = .error (.rejected (.expected what found) l) →
      what ≠ .openingMark ∧ found ≠ "template text" := by
  intro reading
  have hkeeps : Reader.Keeps text (tokenize text).tokens _ (fun _ => True) reading :=
    Reader.keeps_children (fun _ => Reader.stays_expression _ _ _) (.start text)
  have hresult : reading.result = stack.children (tokenize text).tokens :=
    Reader.Traced.result_children stack _
  refine ⟨hresult, hkeeps.steps, fun es hes => ?_, fun hcut => (hkeeps.stop _ hcut).cutShort rfl,
    fun what found l hparse => ?_⟩
  · obtain ⟨htaken, -⟩ := hkeeps.result es hes
    have hne : (tokenize text).tokens ≠ [] := Reader.tokensFrom_plain_ne_nil .start text.toList
    rw [List.getLast?_eq_some_getLast hne] at htaken
    exact List.append_cancel_right (htaken.symm.trans (List.dropLast_concat_getLast hne).symm)
  · have hstop := hresult.trans (Reader.children_of_rejected hparse)
    obtain ⟨s, hs, t, hact, hcurrent, rfl⟩ := (hkeeps.stop _ hstop).rejected what found l rfl
    obtain ⟨earlier, later, hsplit⟩ := List.append_of_mem hs
    obtain ⟨-, t', hstep⟩ := hkeeps.steps earlier s later hsplit
    obtain rfl := Option.some.inj (hcurrent.symm.trans hstep.current)
    exact hstep.rejected what hact

end Inlay
