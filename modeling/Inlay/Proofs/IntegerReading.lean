import Inlay.Proofs.Division
import Inlay.Proofs.EndlessStack
import Inlay.Proofs.ParseOutcome
import Inlay.Proofs.Runs

/-!
# Integers as literals and as strings

A template has two ways to an integer: as a literal, whose tokens the reader turns into a
number, and as a string that the function `int` converts. Both give the digits, with the
minus that may stand before them, the number that they spell (`signedValue`), and both
check that it has 64 bits, the one when the text is read and the other when the template
is run. An integer renders as its decimal, which is one of the texts that are read, so
either way leads back from there (`integer_reading`).
-/

namespace Inlay

open Grammar

/-! ## Decimals -/

namespace Decimal

/-- The decimal of an integer is its digits without zeros in front, behind a minus if it is
negative. -/
theorem toString_eq_signed (n : Int) :
    toString n = signed (decide (n < 0)) (String.ofList (digitsOf n.natAbs)) := by
  cases n with
  | ofNat m =>
      rw [signed, if_neg (by simp)]
      rfl
  | negSucc m =>
      rw [signed, if_pos (by simp [Int.negSucc_lt_zero])]
      rfl

theorem integerText_eq (n : Int) : integerText n = toString n := by
  rw [toString_eq_signed]
  by_cases hn : n < 0 <;> simp [integerText, signed, hn]

theorem signedValue_digitsOf (n : Int) :
    signedValue (decide (n < 0)) (String.ofList (digitsOf n.natAbs)) = n := by
  rw [signedValue, String.toList_ofList, ofDigitChars_digitsOf]
  split_ifs with hn <;> rw [decide_eq_true_eq] at hn <;> omega

end Decimal

/-! ## Conversion of a string -/

theorem Text.trim_eq_self {cs : List Char} (h : ∀ c ∈ cs, isBlank c = false) : trim cs = cs := by
  have hleft : ∀ {ds : List Char}, (∀ c ∈ ds, isBlank c = false) → ds.dropWhile isBlank = ds := by
    intro ds hds
    cases ds with
    | nil => rfl
    | cons d ds => exact List.dropWhile_cons_of_neg (by simp [hds d List.mem_cons_self])
  rw [trim, trimRight, hleft h, hleft fun c hc => h c (List.mem_reverse.mp hc),
    List.reverse_reverse]

theorem isBlank_signed {negative : Bool} {ds : List Char} (hd : Lexer.IsDigits ds) :
    ∀ c ∈ (signed negative (String.ofList ds)).toList, Text.isBlank c = false := by
  have hdigit : ∀ c ∈ ds, Text.isBlank c = false := by
    intro c hc
    have hrange := Lexer.digit_range (hd.2 c hc)
    refine Bool.eq_false_iff.mpr fun hblank => ?_
    rw [Text.isBlank, List.contains_iff_mem] at hblank
    simp only [Text.blankCodes, List.mem_cons, List.not_mem_nil, or_false] at hblank
    omega
  cases negative with
  | false => simpa [signed] using hdigit
  | true => simpa [signed] using ⟨by decide, hdigit⟩

/-- The string of an integer is converted to it, if it has 64 bits. -/
theorem toInteger_signed (negative : Bool) {ds : List Char} (hd : Lexer.IsDigits ds)
    (hlength : ds.length ≤ Numeral.digitLimit) :
    Conversion.toInteger (.string (signed negative (String.ofList ds))) =
      (Number.bounded (signedValue negative (String.ofList ds))).map .integer := by
  have hsplit : Numeral.splitSign (signed negative (String.ofList ds)).toList =
      (negative, ds) := by
    have hd' : Lexer.IsDigits (String.ofList ds).toList := by rwa [String.toList_ofList]
    rw [Reader.splitSign_signed hd', String.toList_ofList]
  have hread := Numeral.readInteger_of_split hd hsplit
  rw [if_neg (Nat.not_lt.mpr hlength)] at hread
  rw [signedValue, String.toList_ofList]
  simp only [Conversion.toInteger, Text.trim_eq_self (isBlank_signed hd), hread]

/-! ## Templates of one expression -/

namespace Evaluation

variable {context : Context} {scope : Scope} {e : Expr} {record r : Record}

theorem renderAll_singleton_ok {v : Value}
    (h : eval context (caller context) scope e record = (.ok v, r)) :
    renderAll context scope [e] record = (.ok v.text, r) := by
  rw [renderAll_cons, bind_of_ok h, renderAll_nil, pure_bind, String.append_empty]
  rfl

theorem renderAll_singleton_error {halt : Halt}
    (h : eval context (caller context) scope e record = (.error halt, r)) :
    renderAll context scope [e] record = (.error halt, r) := by
  rw [renderAll_cons, bind_of_error h]

end Evaluation

/-- A text is a template that, in every run, has an integer as its value and its decimal as
its text. -/
def Denotes (reader : Reader.Stack) (context : Context) (scope : Scope) (text : String)
    (n : Int) : Prop :=
  ∃ t, Template.parse reader text = .ok t ∧ ∀ record,
    (t.evaluate context scope record).1 = .ok (.integer n) ∧
    (t.render context scope record).1 = .ok (toString n)

/-- A text is a template of which every run fails with a call of a function that
overflows. -/
def Overflows (reader : Reader.Stack) (context : Context) (scope : Scope) (text name : String) :
    Prop :=
  ∃ t, Template.parse reader text = .ok t ∧ ∀ record, ∃ fault place,
    fault.class? = some .overflow ∧
    (t.evaluate context scope record).1 = .error ⟨.callFailed name (.fault fault), place⟩ ∧
    (t.render context scope record).1 = .error ⟨.callFailed name (.fault fault), place⟩

section

variable {reader : Reader.Stack} {context : Context} {scope : Scope} {text : String} {e : Expr}

/-- The value of a template of one expression. -/
theorem evaluate_singleton (record : Record) :
    Template.evaluate ⟨[e]⟩ context scope record =
      Evaluation.settle context .start
        (Evaluation.eval context (Evaluation.caller context) scope e) record :=
  congrArg (Evaluation.settle context .start · record) (Evaluation.evalOn_endless _ e)

theorem denotes_of_eval {n : Int} (hparse : Template.parse reader text = .ok ⟨[e]⟩)
    (h : ∀ record, (Evaluation.eval context (Evaluation.caller context) scope e record).1 =
      .ok (.integer n)) : Denotes reader context scope text n := by
  refine ⟨_, hparse, fun record => ?_⟩
  rw [evaluate_singleton]
  refine ⟨Evaluation.settle_eq_ok.mpr (h record), Evaluation.settle_eq_ok.mpr ?_⟩
  change (Evaluation.renderAll context scope [e] record).1 = _
  rw [Evaluation.renderAll_singleton_ok (Prod.ext (h record) rfl), Value.text,
    Decimal.integerText_eq]

theorem overflows_of_eval {name : String} (fault : CallFault) (place : Location)
    (hparse : Template.parse reader text = .ok ⟨[e]⟩) (hfault : fault.class? = some .overflow)
    (h : ∀ record, (Evaluation.eval context (Evaluation.caller context) scope e record).1 =
      .error (.error ⟨.callFailed name (.fault fault), place⟩)) :
    Overflows reader context scope text name := by
  refine ⟨_, hparse, fun record => ?_⟩
  rw [evaluate_singleton]
  refine ⟨fault, place, hfault,
    Evaluation.settle_eq_error.mpr (.inl (h record)), Evaluation.settle_eq_error.mpr (.inl ?_)⟩
  change (Evaluation.renderAll context scope [e] record).1 = _
  rw [Evaluation.renderAll_singleton_error (Prod.ext (h record) rfl)]

end

/-! ## The literal -/

def expressionText (text : String) : String := "<%= " ++ text ++ " %>"

theorem derives_signed (between : Reader.Construct → Nat) (n : Nat) (negative : Bool)
    (text : String) (l : Location)
    (hfit : FitsInt64 (signedValue negative text)) :
    Derives between n (.primary (.integer l (signedValue negative text)))
      (signedTokens negative text l) := by
  cases negative with
  | false => exact .number (.integer rfl hfit)
  | true => exact .negative rfl rfl (.integer rfl hfit)

/-- A text whose tokens are an expression between the marks is read as it. -/
theorem parse_of_derives {reader : Reader.Stack} {text : String} {e : Expr} {n : Nat}
    {opening closing ending : Token} {ts : List Token}
    (htokens : (tokenize text).tokens = opening :: (ts ++ [closing, ending]))
    (hkinds : opening.kind = .opening ∧ closing.kind = .closing ∧ ending.kind = .ending)
    (hshort : ∀ t ∈ ts, t.kind = .integer → t.text.length ≤ Numeral.digitLimit)
    (hn : n ≤ reader.room) (h : Derives reader.between n (.expression e) ts) :
    Template.parse reader text = .ok ⟨[e]⟩ := by
  obtain ⟨hopening, hclosing, hending⟩ := hkinds
  have hblock := Derives.expressionChild hopening h hclosing .noChildren
  have hshort' : ∀ t ∈ (tokenize text).tokens, t.kind = .integer →
      t.text.length ≤ Numeral.digitLimit := by
    rw [htokens]
    intro t ht hk
    simp only [List.mem_cons, List.mem_append, List.not_mem_nil, or_false] at ht
    rcases ht with rfl | ht | rfl | rfl
    · rw [hopening] at hk
      cases hk
    · exact hshort t ht hk
    · rw [hclosing] at hk
      cases hk
    · rw [hending] at hk
      cases hk
  have hsplit : (tokenize text).tokens = opening :: (ts ++ [closing]) ++ [ending] := by
    simp [htokens]
  rcases parse_complete hshort' hsplit hending hblock with hok | ⟨-, hdeep⟩
  · exact hok
  · exact absurd hdeep (Nat.not_lt.mpr hn)

theorem parse_signed (reader : Reader.Stack) (negative : Bool) {ds : List Char}
    (hd : Lexer.IsDigits ds) (hlength : ds.length ≤ Numeral.digitLimit)
    (hfit : FitsInt64 (signedValue negative (String.ofList ds))) :
    Template.parse reader (expressionText (signed negative (String.ofList ds))) =
      .ok ⟨[.integer ⟨1, 5⟩ (signedValue negative (String.ofList ds))]⟩ := by
  obtain ⟨l, m, htokens⟩ := tokenize_signed negative hd
  have hderives := Derives.chain (derives_signed reader.between 0 negative _ ⟨1, 5⟩ hfit) .noSuffix
  rw [List.append_nil] at hderives
  refine parse_of_derives (congrArg Lexed.tokens htokens) ⟨rfl, rfl, rfl⟩ ?_ reader.positive
    hderives
  intro t ht hk
  cases negative with
  | false =>
      obtain rfl := List.mem_singleton.mp ht
      rwa [String.length_ofList]
  | true =>
      rcases List.mem_cons.mp ht with rfl | ht
      · cases hk
      · obtain rfl := List.mem_singleton.mp ht
        rwa [String.length_ofList]

/-! ## The call of `int` -/

/-- The call of `int` with a string that holds no quote. -/
def intCall (text : String) : String := "int('" ++ text ++ "')"

theorem tokenize_intCall {cs : List Char} (hcs : '\'' ∉ cs) :
    ∃ l m n, tokenize (expressionText (intCall (String.ofList cs))) =
      ⟨[⟨.opening, "<%=", .start⟩, ⟨.identifier, "int", ⟨1, 5⟩⟩, ⟨.leftParen, "(", ⟨1, 8⟩⟩,
        ⟨.string, String.ofList cs, ⟨1, 9⟩⟩, ⟨.rightParen, ")", l⟩,
        ⟨.closing, "%>", m⟩, ⟨.ending, "", n⟩], none, .plain⟩ := by
  have hdoubled : Lexer.doubled cs = cs := by
    induction cs with
    | nil => rfl
    | cons c cs ih =>
        rw [List.mem_cons, not_or] at hcs
        rw [Lexer.doubled_cons (Ne.symm hcs.1), ih hcs.2]
  have htext : (expressionText (intCall (String.ofList cs))).toList =
      Lexer.openingMark ++ ' ' :: 'i' :: (['n', 't'] ++ '(' :: '\'' ::
        (Lexer.doubled cs ++ '\'' :: ')' :: ' ' :: (Lexer.closingMark ++ []))) := by
    simp [expressionText, intCall, hdoubled, Lexer.openingMark, Lexer.closingMark]
  have hname : ∀ rest, Lexer.lexeme 'i' (['n', 't'] ++ '(' :: rest) =
      .ok (.identifier, ['n', 't']) := fun _ => rfl
  unfold tokenize
  rw [htext, Lexer.tokensFrom_opening, Lexer.tokensFrom_gap rfl,
    Lexer.tokensFrom_step (by decide) (hname _), Lexer.modeAfter_inside (by decide),
    Lexer.tokensFrom_sign rfl, Lexer.tokensFrom_string (by decide), Lexer.tokensFrom_sign rfl,
    Lexer.tokensFrom_gap rfl, Lexer.tokensFrom_closing, Lexer.tokensFrom_nil]
  exact ⟨_, _, _, rfl⟩

theorem derives_call (between : Reader.Construct → Nat) (name opener argument closer : Token)
    (hn : name.kind = .identifier) (ho : opener.kind = .leftParen) (ha : argument.kind = .string)
    (hc : closer.kind = .rightParen) :
    Derives between (between .call + 2)
      (.expression (.call opener.location (.name name.location name.text)
        [.string argument.location argument.text])) [name, opener, argument, closer] := by
  have hargument : Derives between (between .call + 1 - between .call)
      (.expressions [.string argument.location argument.text]) [argument] := by
    rw [Nat.add_sub_cancel_left]
    exact .someExpressions (.chain (.string ha) .noSuffix) .noMoreExpressions
  exact .chain (.name hn) (.call ho hargument hc .noSuffix)

theorem parse_intCall {reader : Reader.Stack} (hroom : reader.between .call + 2 ≤ reader.room)
    {cs : List Char} (hcs : '\'' ∉ cs) :
    Template.parse reader (expressionText (intCall (String.ofList cs))) =
      .ok ⟨[.call ⟨1, 8⟩ (.name ⟨1, 5⟩ "int") [.string ⟨1, 9⟩ (String.ofList cs)]]⟩ := by
  obtain ⟨l, m, n, htokens⟩ := tokenize_intCall hcs
  have hderives := derives_call reader.between ⟨.identifier, "int", ⟨1, 5⟩⟩
    ⟨.leftParen, "(", ⟨1, 8⟩⟩ ⟨.string, String.ofList cs, ⟨1, 9⟩⟩ ⟨.rightParen, ")", l⟩
    rfl rfl rfl rfl
  refine parse_of_derives (congrArg Lexed.tokens htokens) ⟨rfl, rfl, rfl⟩ ?_ hroom hderives
  simp

section

open Evaluation

variable {context : Context}

/-- A call of a library function that is made gives what its routine gives, where that is
known to templates. -/
theorem callWithin_standard {budget : Nat} (hbudget : budget ≠ 0) (l : Location) {f : Function}
    {routine : StandardRoutine} (hf : f.routine = .standard routine) {vs : List Value}
    (haccepts : f.accepts vs.length = true) (record : Record) {x : Outcome Value}
    (hrun : routine.run ⟨context.clock, record.calls⟩ vs = x) (hknown : x.Yields (·.isKnown)) :
    (callWithin context budget l (.builtin f) vs record).1 =
      x.mapError fun fault => .error ⟨.callFailed f.name (.fault fault), l⟩ := by
  have hroutine := runRoutine_standard context l hf vs record
  rw [hrun] at hroutine
  rw [callWithin_eq]
  simp only [haccepts, hbudget]
  cases x with
  | ok v =>
      have hv : v.isKnown = true := hknown v rfl
      change ((runRoutine context l f vs >>= _) record).1 = _
      rw [bind_of_ok hroutine, if_pos hv]
      rfl
  | error fault =>
      change ((runRoutine context l f vs >>= _) record).1 = _
      rw [bind_of_error hroutine]
      rfl

/-- A call of `int` with a string gives what this is converted to. -/
theorem eval_intCall {scope : Scope} (hregistry : context.registry = Library.registry)
    (hlimit : 0 < context.limit) (hint : scope.lookup "int" = none) (k l m : Location)
    (text : String) {n : Int}
    (htext : Conversion.toInteger (.string text) = (Number.bounded n).map .integer)
    (record : Record) :
    (eval context (caller context) scope (.call k (.name l "int") [.string m text]) record).1 =
      ((Number.bounded n).map .integer).mapError fun fault =>
        .error ⟨.callFailed "int" (.fault fault), k⟩ := by
  obtain ⟨f, hfind, hname, hroutine, haccepts⟩ : ∃ f, context.registry.find? "int" = some f ∧
      f.name = "int" ∧ f.routine = .standard .int ∧ f.accepts 1 = true := by
    rw [hregistry]
    exact ⟨_, rfl, rfl, rfl, rfl⟩
  have hresolve : eval context (caller context) scope (.name l "int") record =
      (.ok (.builtin f), record) := by
    rw [eval_name, resolve, hint]
    simp only [hfind]
    rfl
  rw [eval_call, bind_of_ok hresolve, ← hname]
  refine callWithin_standard (Nat.ne_of_gt hlimit) k hroutine ?_ record htext ?_
  · exact haccepts
  · exact fun v hv => (yields_bounded n v hv).isKnown

end

/-! ## The result -/

theorem bounded_fits {n : Int} (h : FitsInt64 n) : Number.bounded n = .ok n :=
  if_pos (Value.inRange_iff.mpr h)

theorem bounded_overflows {n : Int} (h : ¬ FitsInt64 n) :
    Number.bounded n = .error .integerOverflow :=
  if_neg fun hrange => h (Value.inRange_iff.mp hrange)

section

variable {reader : Reader.Stack} {context : Context} {scope : Scope} {negative : Bool}
  {ds : List Char}

/-- The literal denotes the integer that its digits spell, if that has 64 bits. -/
theorem literal_denotes (reader : Reader.Stack) (context : Context) (scope : Scope)
    (hd : Lexer.IsDigits ds) (hlength : ds.length ≤ Numeral.digitLimit)
    (hfit : FitsInt64 (signedValue negative (String.ofList ds))) :
    Denotes reader context scope (expressionText (signed negative (String.ofList ds)))
      (signedValue negative (String.ofList ds)) :=
  denotes_of_eval (parse_signed reader negative hd hlength hfit) fun _ => rfl

theorem parse_intCall_signed (hroom : reader.between .call + 2 ≤ reader.room) (negative : Bool)
    (hd : Lexer.IsDigits ds) :
    Template.parse reader (expressionText (intCall (signed negative (String.ofList ds)))) =
      .ok ⟨[.call ⟨1, 8⟩ (.name ⟨1, 5⟩ "int")
        [.string ⟨1, 9⟩ (signed negative (String.ofList ds))]]⟩ := by
  have hquote : '\'' ∉ (signed negative (String.ofList ds)).toList := by
    have hdigits : '\'' ∉ ds := fun h => by cases hd.2 _ h
    cases negative <;> simp [signed, hdigits]
  have hparse := parse_intCall hroom hquote
  rwa [String.ofList_toList] at hparse

-- where there is room to read a call, `int` is the function of the library, and calls may be
-- made at all
variable (hroom : reader.between .call + 2 ≤ reader.room)
  (hregistry : context.registry = Library.registry) (hlimit : 0 < context.limit)
  (hint : scope.lookup "int" = none)
include hroom hregistry hlimit hint

theorem intCall_denotes (hd : Lexer.IsDigits ds) (hlength : ds.length ≤ Numeral.digitLimit)
    (hfit : FitsInt64 (signedValue negative (String.ofList ds))) :
    Denotes reader context scope (expressionText (intCall (signed negative (String.ofList ds))))
      (signedValue negative (String.ofList ds)) := by
  refine denotes_of_eval (parse_intCall_signed hroom negative hd) fun record => ?_
  rw [eval_intCall hregistry hlimit hint _ _ _ _ (toInteger_signed negative hd hlength),
    bounded_fits hfit]
  rfl

theorem intCall_overflows (hd : Lexer.IsDigits ds) (hlength : ds.length ≤ Numeral.digitLimit)
    (hno : ¬ FitsInt64 (signedValue negative (String.ofList ds))) :
    Overflows reader context scope (expressionText (intCall (signed negative (String.ofList ds))))
      "int" := by
  refine overflows_of_eval .integerOverflow ⟨1, 8⟩ (parse_intCall_signed hroom negative hd) rfl
    fun record => ?_
  rw [eval_intCall hregistry hlimit hint _ _ _ _ (toInteger_signed negative hd hlength),
    bounded_overflows hno]
  rfl

/-- The decimal of an integer of 64 bits leads back to it. -/
theorem decimal_denotes {n : Int} (hfit : FitsInt64 n) :
    Denotes reader context scope (expressionText (toString n)) n ∧
      Denotes reader context scope (expressionText (intCall (toString n))) n := by
  have hvalue := Decimal.signedValue_digitsOf n
  have hd := Decimal.isDigits_digitsOf n.natAbs
  have hlength : (Decimal.digitsOf n.natAbs).length ≤ Numeral.digitLimit := by
    unfold FitsInt64 at hfit
    exact Decimal.length_digitsOf_le (by omega)
  have hliteral := literal_denotes reader context scope hd hlength (hvalue.symm ▸ hfit)
  have hcall := intCall_denotes hroom hregistry hlimit hint hd hlength (hvalue.symm ▸ hfit)
  rw [hvalue, ← Decimal.toString_eq_signed] at hliteral hcall
  exact ⟨hliteral, hcall⟩

/-- Where `int` means the function of the library, and there is room to read a call, the
literal and the call agree on the digits of an integer and on the decimal that it renders
as: both denote it if it has 64 bits, and else the one is rejected and the other
overflows. -/
theorem integer_reading (negative : Bool) (hd : Lexer.IsDigits ds) (hlength : ds.length ≤ 4300) :
    let t := signed negative (String.ofList ds)
    let n := signedValue negative (String.ofList ds)
    (FitsInt64 n → ∀ text ∈ [t, toString n],
      Denotes reader context scope (expressionText text) n ∧
      Denotes reader context scope (expressionText (intCall text)) n) ∧
    (¬ FitsInt64 n →
      Template.parse reader (expressionText t) = .error (.rejected (.integerOutOfRange t) ⟨1, 5⟩) ∧
      Overflows reader context scope (expressionText (intCall t)) "int") := by
  intro t n
  constructor
  · intro hfit text htext
    rcases List.mem_pair.mp htext with rfl | rfl
    · exact ⟨literal_denotes reader context scope hd hlength hfit,
        intCall_denotes hroom hregistry hlimit hint hd hlength hfit⟩
    · exact decimal_denotes hroom hregistry hlimit hint hfit
  · intro hno
    refine ⟨?_, intCall_overflows hroom hregistry hlimit hint hd hlength hno⟩
    have hlong : ¬ Numeral.digitLimit < (String.ofList ds).toList.length := by
      rw [String.toList_ofList]
      exact Nat.not_lt.mpr hlength
    have hfailure := parse_signed_refused reader negative hd fun h => hno h.2
    rw [Reader.integerFailure, if_neg hlong] at hfailure
    exact hfailure

end

/-- The least integer has a numeral of its size that only a minus lets in. -/
theorem integer_reading_least :
    let context : Context := ⟨Library.registry, Host.none, 0, 100⟩
    let scope : Scope := ⟨[]⟩
    let least : Int := -9223372036854775808
    (∀ text ∈ ["-09223372036854775808", "-9223372036854775808"],
      Denotes .usual context scope (expressionText text) least ∧
      Denotes .usual context scope (expressionText (intCall text)) least) ∧
    Template.parse .usual (expressionText "09223372036854775808") =
      .error (.rejected (.integerOutOfRange "09223372036854775808") ⟨1, 5⟩) ∧
    Overflows .usual context scope (expressionText (intCall "09223372036854775808")) "int" := by
  intro context scope least
  have hroom : Reader.Stack.usual.between .call + 2 ≤ Reader.Stack.usual.room := by decide
  have hregistry : context.registry = Library.registry := rfl
  have hlimit : 0 < context.limit := by decide
  have hint : scope.lookup "int" = none := rfl
  have hd : Lexer.IsDigits "09223372036854775808".toList :=
    ⟨by decide, List.all_eq_true.mp rfl⟩
  have hlength : "09223372036854775808".toList.length ≤ 4300 := by decide
  have hfits := (integer_reading hroom hregistry hlimit hint true hd hlength).1
  have hbeyond := (integer_reading hroom hregistry hlimit hint false hd hlength).2
  exact ⟨hfits (by unfold FitsInt64; decide), hbeyond (by unfold FitsInt64; decide)⟩

end Inlay
