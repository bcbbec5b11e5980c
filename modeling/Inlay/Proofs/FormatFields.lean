import Inlay.Proofs.IntegerReading

/-!
# Format texts without specifications

A format text of literal text and bare fields is the two interleaved: each field gives way
to the text of an argument, the next one or the one whose number it has. The text is
written with its braces doubled (`Segment.write`), and cutting it into pieces finds the
same fields again, with the same literal text around them, if not in the same pieces
(`reads_write`).

Filling then goes from segment to segment. The indices that the fields take are known
before (`Segment.indices`), so is the result (`Segment.interleave`), and the one thing that
can go wrong is that there are too few arguments (`format_interleaves`).
-/

namespace Inlay

namespace Format

/-! ## Segments -/

/-- A part of a format text: literal text, or a field with the digits in it, if any. -/
inductive Segment where
  | text (cs : List Char)
  | field (digits : List Char)
  deriving DecidableEq, Repr

/-- How the fields of a format text name their arguments: by nothing or by numbers. -/
inductive Style where
  | automatic
  | numbered
  deriving DecidableEq, Repr

/-- What may stand in a field. -/
def Style.Names : Style → List Char → Prop
  | automatic, digits => digits = []
  | numbered, digits => Lexer.IsDigits digits

namespace Segment

/-- Literal text with its braces doubled. -/
def escape : List Char → List Char
  | [] => []
  | c :: rest =>
    if c = '\x7b' ∨ c = '\x7d' then c :: c :: escape rest else c :: escape rest

def write : Segment → List Char
  | text cs => escape cs
  | field digits => '\x7b' :: digits ++ ['\x7d']

/-- The number of the argument of a field, where `next` fields without a number came before. -/
def index (next : Nat) (digits : List Char) : Nat :=
  if digits = [] then next else Nat.ofDigitChars 10 digits 0

/-- How many fields without a number there are then. -/
def following (next : Nat) (digits : List Char) : Nat :=
  if digits = [] then next + 1 else next

/-- The numbers of the arguments that fields take. -/
def indices (next : Nat) : List Segment → List Nat
  | [] => []
  | text _ :: rest => indices next rest
  | field digits :: rest => index next digits :: indices (following next digits) rest

/-- The literal texts and the texts of the arguments, one after another. -/
def interleave (arguments : List Value) (next : Nat) : List Segment → List Char
  | [] => []
  | text cs :: rest => cs ++ interleave arguments next rest
  | field digits :: rest =>
    (arguments[index next digits]?.elim [] fun v => v.text.toList) ++
      interleave arguments (following next digits) rest

def piece : Segment → Piece
  | text cs => .literal cs
  | field digits => .field ⟨digits, none, []⟩

end Segment

/-! ## Cutting -/

/-- A text is cut into pieces, in as many steps as it has characters or more. -/
def Reads (text : List Char) (ps : List Piece) : Prop :=
  ∀ steps, text.length ≤ steps → cut steps text = .ok ps

/-- Pieces that are filled alike. -/
def SameFilling (ps qs : List Piece) : Prop :=
  ∀ arguments numbering, fillPieces arguments numbering ps = fillPieces arguments numbering qs

variable {text : List Char} {ps qs rs : List Piece}

theorem SameFilling.refl (ps : List Piece) : SameFilling ps ps := fun _ _ => rfl

theorem SameFilling.symm (h : SameFilling ps qs) : SameFilling qs ps :=
  fun arguments numbering => (h arguments numbering).symm

theorem SameFilling.trans (h : SameFilling ps qs) (h' : SameFilling qs rs) :
    SameFilling ps rs :=
  fun arguments numbering => (h arguments numbering).trans (h' arguments numbering)

theorem SameFilling.literal (h : SameFilling ps qs) (cs : List Char) :
    SameFilling (.literal cs :: ps) (.literal cs :: qs) := by
  intro arguments numbering
  rw [fillPieces, fillPieces, h]

theorem SameFilling.field (h : SameFilling ps qs) (f : Field) :
    SameFilling (.field f :: ps) (.field f :: qs) := by
  intro arguments numbering
  rw [fillPieces, fillPieces]
  simp only [h _ _]

/-- Literal text is filled alike in one piece and in two. -/
theorem sameFilling_append (cs ds : List Char) (ps : List Piece) :
    SameFilling (.literal (cs ++ ds) :: ps) (.literal cs :: .literal ds :: ps) := by
  intro arguments numbering
  rw [fillPieces, fillPieces, fillPieces]
  cases fillPieces arguments numbering ps <;> simp [bind, Except.bind, pure, Except.pure]

theorem sameFilling_nil (ps : List Piece) : SameFilling (.literal [] :: ps) ps := by
  intro arguments numbering
  rw [fillPieces]
  cases fillPieces arguments numbering ps <;> simp [bind, Except.bind, pure, Except.pure]

theorem reads_nil : Reads [] [] := by
  intro steps _
  cases steps <;> rfl

/-- A step takes a character off. -/
theorem reads_of_step {c : Char}
    (h : ∀ steps, text.length ≤ steps → cut (steps + 1) (c :: text) = .ok ps) :
    Reads (c :: text) ps := by
  rintro (_ | steps) hsteps
  · simp at hsteps
  · exact h steps (Nat.le_of_succ_le_succ hsteps)

theorem reads_brace {b : Char} (hb : b = '\x7b' ∨ b = '\x7d') (h : Reads text ps) :
    Reads (b :: b :: text) (.literal [b] :: ps) := by
  refine reads_of_step fun steps hsteps => ?_
  have hrest : cut steps text = .ok ps := h steps (by simp at hsteps; omega)
  rcases hb with rfl | rfl <;> simp [cut, hrest, bind, Except.bind, pure, Except.pure]

theorem readName_digits {digits : List Char} (hd : ∀ d ∈ digits, Lexer.isDigit d = true)
    (name text : List Char) :
    readName false name (digits ++ '\x7d' :: text) =
      .ok (name.reverse ++ digits, .closing, text) := by
  induction digits generalizing name with
  | nil => simp [readName]
  | cons d digits ih =>
      obtain ⟨hfirst, hrest⟩ := List.forall_mem_cons.mp hd
      have hne (c : Char) (hc : Lexer.isDigit c = false) : d ≠ c := Numeral.digit_ne hfirst hc
      simp [readName, hne '\x7b' rfl, hne '\x7d' rfl, hne ':' rfl, hne '!' rfl, hne '[' rfl,
        ih hrest]

theorem check_digits {digits : List Char} (hd : ∀ d ∈ digits, Lexer.isDigit d = true) :
    Field.check ⟨digits, none, []⟩ = .ok () := by
  have hall : digits.all Text.isDigit = true := by
    simp only [List.all_eq_true, Text.isDigit, Bool.or_eq_true]
    exact fun d hmem => .inl (Numeral.isDecimalDigit_digit (hd d hmem))
  simp [Field.check, hall]

theorem reads_field {digits : List Char} (hd : ∀ d ∈ digits, Lexer.isDigit d = true)
    (h : Reads text ps) :
    Reads ('\x7b' :: digits ++ '\x7d' :: text) (.field ⟨digits, none, []⟩ :: ps) := by
  refine reads_of_step fun steps hsteps => ?_
  have hrest : cut steps text = .ok ps := h steps (by simp at hsteps; omega)
  have hfield : readField (digits ++ '\x7d' :: text) = .ok (⟨digits, none, []⟩, text) := by
    simp [readField, readName_digits hd, bind, Except.bind, pure, Except.pure]
  obtain ⟨d, more, hmore, hne⟩ :
      ∃ d more, digits ++ '\x7d' :: text = d :: more ∧ d ≠ '\x7b' := by
    cases digits with
    | nil => exact ⟨_, _, rfl, by decide⟩
    | cons d digits => exact ⟨d, _, rfl, Numeral.digit_ne (hd d List.mem_cons_self) rfl⟩
  change cut (steps + 1) ('\x7b' :: (digits ++ '\x7d' :: text)) = _
  rw [hmore, cut, if_pos rfl]
  simp only [if_neg hne]
  rw [← hmore, hfield]
  simp [check_digits hd, hrest, bind, Except.bind, pure, Except.pure]

/-- A character that stands for itself. -/
def isPlain (c : Char) : Bool := c != '\x7b' && c != '\x7d'

theorem cut_plain {c : Char} (hc : isPlain c = true) (steps : Nat) (rest : List Char) :
    cut (steps + 1) (c :: rest) =
      (cut steps (rest.drop (rest.takeWhile isPlain).length)).map
        (.literal (c :: rest.takeWhile isPlain) :: ·) := by
  obtain ⟨hopening, hclosing⟩ : c ≠ '\x7b' ∧ c ≠ '\x7d' := by simpa [isPlain] using hc
  rw [cut.eq_def]
  simp only [if_neg hopening, if_neg hclosing]
  change (cut steps (rest.drop (rest.takeWhile isPlain).length) >>= _) = _
  cases cut steps (rest.drop (rest.takeWhile isPlain).length) <;> rfl

/-- A character that stands for itself joins the literal text behind it, if there is some. -/
theorem reads_cons {c : Char} (hc : isPlain c = true) (h : Reads text ps) :
    ∃ qs, Reads (c :: text) qs ∧ SameFilling qs (.literal [c] :: ps) := by
  have halone (hrun : text.takeWhile isPlain = []) : Reads (c :: text) (.literal [c] :: ps) := by
    refine reads_of_step fun steps hsteps => ?_
    rw [cut_plain hc, hrun, List.length_nil, List.drop_zero, h steps hsteps]
    rfl
  cases text with
  | nil => exact ⟨_, halone rfl, .refl _⟩
  | cons d rest =>
      by_cases hd : isPlain d = true
      · have hpieces (steps : Nat) (hsteps : rest.length ≤ steps) :=
          (cut_plain hd steps rest).symm.trans (h (steps + 1) (by simpa using hsteps))
        obtain ⟨tail, htail, rfl⟩ := exists_of_map_eq_ok (hpieces rest.length le_rfl)
        refine ⟨.literal (c :: d :: rest.takeWhile isPlain) :: tail,
          reads_of_step fun steps hsteps => ?_,
          sameFilling_append [c] (d :: rest.takeWhile isPlain) tail⟩
        obtain ⟨tail', htail', hsame⟩ :=
          exists_of_map_eq_ok (hpieces steps (by simp at hsteps; omega))
        cases hsame
        rw [cut_plain hc, List.takeWhile_cons_of_pos hd, List.length_cons, List.drop_succ_cons,
          htail']
        rfl
      · exact ⟨_, halone (List.takeWhile_cons_of_neg hd), .refl _⟩

/-- Literal text with its braces doubled stands for itself. -/
theorem reads_escape (cs : List Char) (h : Reads text ps) :
    ∃ qs, Reads (Segment.escape cs ++ text) qs ∧ SameFilling qs (.literal cs :: ps) := by
  induction cs with
  | nil => exact ⟨ps, h, (sameFilling_nil ps).symm⟩
  | cons c cs ih =>
      obtain ⟨qs, hqs, hsame⟩ := ih
      -- the first character is a piece of its own until it is filled
      have hjoined {rs : List Piece} (hrs : SameFilling rs (.literal [c] :: qs)) :
          SameFilling rs (.literal (c :: cs) :: ps) :=
        hrs.trans <| (hsame.literal [c]).trans (sameFilling_append [c] cs ps).symm
      by_cases hc : c = '\x7b' ∨ c = '\x7d'
      · refine ⟨.literal [c] :: qs, ?_, hjoined (.refl _)⟩
        rw [Segment.escape, if_pos hc]
        exact reads_brace hc hqs
      · obtain ⟨rs, hrs, hfilling⟩ := reads_cons (c := c) (by simpa [isPlain] using hc) hqs
        refine ⟨rs, ?_, hjoined hfilling⟩
        rwa [Segment.escape, if_neg hc]

/-- What is written is cut into pieces that are filled like the segments. -/
theorem reads_write {segments : List Segment}
    (hd : ∀ digits, .field digits ∈ segments → ∀ d ∈ digits, Lexer.isDigit d = true) :
    ∃ qs, Reads (segments.flatMap Segment.write) qs ∧
      SameFilling qs (segments.map Segment.piece) := by
  induction segments with
  | nil => exact ⟨[], reads_nil, .refl _⟩
  | cons segment segments ih =>
      obtain ⟨ps, hps, hsame⟩ := ih fun digits hmem => hd digits (List.mem_cons_of_mem _ hmem)
      cases segment with
      | field digits =>
          refine ⟨.field ⟨digits, none, []⟩ :: ps, ?_, hsame.field _⟩
          simpa [Segment.write] using reads_field (hd digits List.mem_cons_self) hps
      | text cs =>
          obtain ⟨qs, hqs, hliteral⟩ := reads_escape cs hps
          exact ⟨qs, hqs, hliteral.trans (hsame.literal cs)⟩

/-! ## Choosing arguments -/

/-- The numberings that a style comes to after `next` fields without a number. -/
inductive Style.Reaches : Style → Nat → Numbering → Prop
  | start (style : Style) : Reaches style 0 .undecided
  | automatic (next : Nat) : Reaches .automatic next (.automatic next)
  | numbered (next : Nat) : Reaches .numbered next .numbered

theorem le_ofDigitChars (digits : List Char) (number : Nat) :
    number ≤ Nat.ofDigitChars 10 digits number := by
  induction digits generalizing number with
  | nil => exact le_rfl
  | cons d digits ih =>
      rw [Nat.ofDigitChars_cons]
      exact le_trans (by omega) (ih _)

/-- Digits are read as the number that they spell, up to the greatest that can be written. -/
theorem readIndex_digits {digits : List Char} (hd : ∀ d ∈ digits, Lexer.isDigit d = true)
    {number : Nat} (hnumber : number ≤ Spec.countLimit) :
    readIndex number digits =
      if Nat.ofDigitChars 10 digits number ≤ Spec.countLimit then
        .ok (some (Nat.ofDigitChars 10 digits number))
      else .error .tooManyDigits := by
  induction digits generalizing number with
  | nil => exact (if_pos hnumber).symm
  | cons d digits ih =>
      obtain ⟨hfirst, hrest⟩ := List.forall_mem_cons.mp hd
      rw [readIndex, Numeral.decimalValue?_digit hfirst, Nat.ofDigitChars_cons]
      change (if (Spec.countLimit - (d.toNat - '0'.toNat)) / 10 < number then _ else
        readIndex (10 * number + (d.toNat - '0'.toNat)) digits) = _
      have hvalue : d.toNat - '0'.toNat < 10 := by
        have hrange := Lexer.digit_range hfirst
        have hzero : '0'.toNat = 48 := rfl
        omega
      generalize d.toNat - '0'.toNat = value at hvalue ⊢
      have hlimit : 10 ≤ Spec.countLimit := by decide
      split_ifs with htoo hfits hfits
      · have hle := le_ofDigitChars digits (10 * number + value)
        omega
      · rfl
      · rw [ih hrest (by omega), if_pos hfits]
      · rw [ih hrest (by omega), if_neg hfits]

/-- A field takes the argument that its style says, unless its number is beyond all that can
be written. -/
theorem choose_of_reaches {style : Style} {next : Nat} {numbering : Numbering}
    {digits : List Char} (hreaches : style.Reaches next numbering)
    (hnames : style.Names digits) :
    (∃ after, choose numbering digits = .ok (Segment.index next digits, after) ∧
      style.Reaches (Segment.following next digits) after) ∨
    (Spec.countLimit < Segment.index next digits ∧
      ∃ fault, choose numbering digits = .error fault) := by
  cases style with
  | automatic =>
      cases hnames
      left
      cases hreaches with
      | start => exact ⟨_, rfl, .automatic 1⟩
      | automatic => exact ⟨_, rfl, .automatic (next + 1)⟩
  | numbered =>
      obtain ⟨hne, hdigits⟩ : Lexer.IsDigits digits := hnames
      have hindex := readIndex_digits hdigits (Nat.zero_le Spec.countLimit)
      have hempty : ¬ digits.isEmpty = true := by simpa using hne
      rw [Segment.index, if_neg hne, Segment.following, if_neg hne]
      unfold choose
      rw [if_neg hempty]
      split_ifs at hindex with hfits
      · left
        refine ⟨.numbered, ?_, .numbered next⟩
        rw [hindex]
        cases hreaches <;> rfl
      · right
        refine ⟨by omega, .tooManyDigits, ?_⟩
        rw [hindex]
        rfl

/-! ## Filling -/

/-- What filling comes to with so many arguments: the text, if they are enough for all
indices, else a fault. -/
structure Fills (count : Nat) (indices : List Nat) (text : List Char)
    (x : Except Fault (List Char)) : Prop where
  enough : (∀ i ∈ indices, i < count) → x = .ok text
  missing : (∃ i ∈ indices, count ≤ i) → ∃ fault, x = .error fault

theorem show_plain (v : Value) : (Strings.formatArgument v).show [] = .ok v.text.toList := by
  cases v <;> rfl

section

variable {arguments : List Value} {numbering after : Numbering} {digits : List Char} {i : Nat}
  {ps : List Piece}

theorem fillPieces_literal (arguments : List Argument) (numbering : Numbering)
    (cs : List Char) (ps : List Piece) :
    fillPieces arguments numbering (.literal cs :: ps) =
      (fillPieces arguments numbering ps).map (cs ++ ·) := by
  rw [fillPieces]
  cases fillPieces arguments numbering ps <;> rfl

theorem fillPieces_field (hchoose : choose numbering digits = .ok (i, after)) {v : Value}
    (hv : arguments[i]? = some v) :
    fillPieces (arguments.map Strings.formatArgument) numbering
        (.field ⟨digits, none, []⟩ :: ps) =
      (fillPieces (arguments.map Strings.formatArgument) after ps).map (v.text.toList ++ ·) := by
  have hargument :
      (arguments.map Strings.formatArgument)[i]? = some (Strings.formatArgument v) := by
    rw [List.getElem?_map, hv]
    rfl
  rw [fillPieces, hchoose]
  simp only [bind, Except.bind, hargument, show_plain]
  cases fillPieces (arguments.map Strings.formatArgument) after ps <;> rfl

theorem fillPieces_missing (hchoose : choose numbering digits = .ok (i, after))
    (hi : arguments.length ≤ i) :
    fillPieces (arguments.map Strings.formatArgument) numbering
        (.field ⟨digits, none, []⟩ :: ps) = .error (.missingArgument i) := by
  have hargument : (arguments.map Strings.formatArgument)[i]? = none := by
    rw [List.getElem?_map, List.getElem?_eq_none hi]
    rfl
  rw [fillPieces, hchoose]
  simp only [bind, Except.bind, hargument]
  rfl

theorem fillPieces_error {fault : Fault} (hchoose : choose numbering digits = .error fault) :
    fillPieces (arguments.map Strings.formatArgument) numbering
        (.field ⟨digits, none, []⟩ :: ps) = .error fault := by
  rw [fillPieces, hchoose]
  rfl

end

/-- Filling goes from segment to segment. -/
theorem fills_segments {style : Style} {arguments : List Value} {segments : List Segment}
    (hcount : arguments.length ≤ Spec.countLimit)
    (hnames : ∀ digits, .field digits ∈ segments → style.Names digits) {next : Nat}
    {numbering : Numbering} (hreaches : style.Reaches next numbering) :
    Fills arguments.length (Segment.indices next segments)
      (Segment.interleave arguments next segments)
      (fillPieces (arguments.map Strings.formatArgument) numbering
        (segments.map Segment.piece)) := by
  induction segments generalizing next numbering with
  | nil => exact ⟨fun _ => rfl, fun ⟨_, h, _⟩ => by cases h⟩
  | cons segment segments ih =>
      have hrest : ∀ digits, .field digits ∈ segments → style.Names digits :=
        fun digits hmem => hnames digits (List.mem_cons_of_mem _ hmem)
      cases segment with
      | text cs =>
          obtain ⟨henough, hmissing⟩ := ih hrest hreaches
          rw [List.map_cons, Segment.piece, fillPieces_literal]
          refine ⟨fun h => ?_, fun h => ?_⟩
          · rw [henough h]
            rfl
          · obtain ⟨fault, hfault⟩ := hmissing h
            exact ⟨fault, by rw [hfault]; rfl⟩
      | field digits =>
          rw [List.map_cons, Segment.piece]
          rcases choose_of_reaches hreaches (hnames digits List.mem_cons_self) with
            ⟨after, hchoose, hafter⟩ | ⟨hbeyond, fault, hfault⟩
          · obtain ⟨henough, hmissing⟩ := ih hrest hafter
            by_cases hindex : Segment.index next digits < arguments.length
            · have hv := List.getElem?_eq_getElem hindex
              rw [fillPieces_field hchoose hv]
              refine ⟨fun h => ?_, fun ⟨i, hmem, hi⟩ => ?_⟩
              · rw [henough fun i hmem => h i (List.mem_cons_of_mem _ hmem), Segment.interleave, hv]
                rfl
              · have hmem' : i ∈ Segment.indices (Segment.following next digits) segments := by
                  rcases List.mem_cons.mp hmem with rfl | hmem
                  · omega
                  · exact hmem
                obtain ⟨fault, hfault⟩ := hmissing ⟨i, hmem', hi⟩
                exact ⟨fault, by rw [hfault]; rfl⟩
            · rw [fillPieces_missing hchoose (Nat.not_lt.mp hindex)]
              exact ⟨fun h => absurd (h _ List.mem_cons_self) hindex, fun _ => ⟨_, rfl⟩⟩
          · rw [fillPieces_error hfault]
            refine ⟨fun h => ?_, fun _ => ⟨_, rfl⟩⟩
            have hindex := h _ List.mem_cons_self
            omega

/-- What is written is filled like the segments. -/
theorem fill_write {style : Style} {segments : List Segment} {arguments : List Value}
    (hnames : ∀ digits, .field digits ∈ segments → style.Names digits)
    (hcount : arguments.length ≤ Spec.countLimit) :
    ∃ x, fill (String.ofList (segments.flatMap Segment.write))
        (arguments.map Strings.formatArgument) = x.map String.ofList ∧
      Fills arguments.length (Segment.indices 0 segments)
        (Segment.interleave arguments 0 segments) x := by
  have hdigits : ∀ digits, .field digits ∈ segments → ∀ d ∈ digits, Lexer.isDigit d = true := by
    intro digits hmem d hd
    cases style with
    | automatic =>
        cases hnames digits hmem
        cases hd
    | numbered => exact (hnames digits hmem).2 d hd
  obtain ⟨ps, hreads, hsame⟩ := reads_write hdigits
  refine ⟨_, ?_, fills_segments hcount hnames (.start style)⟩
  rw [← hsame, fill, pieces, String.toList_ofList]
  simp only [hreads _ le_rfl]
  change (fillPieces _ .undecided ps >>= _) = _
  cases fillPieces (arguments.map Strings.formatArgument) .undecided ps <;> rfl

end Format

open Evaluation Format

/-- The format text is filled as a whole before the result is a value. -/
theorem run_format (s : Surroundings) (text : String) (vs : List Value) :
    StandardRoutine.format.run s (.string text :: vs) =
      ((fill text (vs.map Strings.formatArgument)).map .string).mapError .format := by
  change Strings.format (.string text) vs = _
  unfold Strings.format
  cases hfill : fill text (vs.map Strings.formatArgument) with
  | ok filled =>
      simp only [Argument.string, bind, Except.bind, hfill]
      rfl
  | error fault =>
      simp only [Argument.string, bind, Except.bind, hfill]
      rfl

/-- A function of the library that takes a least number of arguments and no greatest one. -/
structure Function.Offers (f : Function) (name : String) (routine : StandardRoutine)
    (least : Nat) : Prop where
  name : f.name = name
  routine : f.routine = .standard routine
  minArgs : f.minArgs = least
  maxArgs : f.maxArgs = none

theorem Function.Offers.accepts {f : Function} {name : String} {routine : StandardRoutine}
    {least count : Nat} (hf : f.Offers name routine least) (hcount : least ≤ count) :
    f.accepts count = true := by
  simp [Function.accepts, hf.minArgs, hf.maxArgs, hcount]

theorem find_format :
    ∃ f, Library.registry.find? "format" = some f ∧ f.Offers "format" .format 1 :=
  ⟨_, rfl, rfl, rfl, rfl, rfl⟩

theorem find_concat :
    ∃ f, Library.registry.find? "concat" = some f ∧ f.Offers "concat" .concat 0 :=
  ⟨_, rfl, rfl, rfl, rfl, rfl⟩

section

variable {context : Context} {budget : Nat} (hbudget : budget ≠ 0) (l : Location)
  (record : Record) {f : Function}
include hbudget

/-- A call of `format` with what is written of segments comes to what filling comes to. -/
theorem call_format (hf : f.Offers "format" .format 1) {style : Style}
    {segments : List Segment} {arguments : List Value}
    (hnames : ∀ digits, .field digits ∈ segments → style.Names digits)
    (hcount : arguments.length ≤ Spec.countLimit) :
    ∃ x, Fills arguments.length (Segment.indices 0 segments)
        (Segment.interleave arguments 0 segments) x ∧
      (callWithin context budget l (.builtin f)
        (.string (String.ofList (segments.flatMap Segment.write)) :: arguments) record).1 =
      (x.map fun cs => .string (String.ofList cs)).mapError fun fault =>
        .error ⟨.callFailed "format" (.fault (.format fault)), l⟩ := by
  obtain ⟨x, hx, hfills⟩ := fill_write hnames hcount
  refine ⟨x, hfills, ?_⟩
  have hrun (s : Surroundings) := run_format s (String.ofList (segments.flatMap Segment.write))
    arguments
  simp only [hx] at hrun
  have hknown : Outcome.Yields (·.isKnown)
      (((x.map String.ofList).map Value.string).mapError CallFault.format : Outcome Value) := by
    cases x <;> rintro v ⟨⟩
    rfl
  rw [callWithin_standard hbudget l hf.routine (hf.accepts (by simp)) record (hrun _) hknown,
    hf.name]
  cases x <;> rfl

/-- A call of `concat` joins the texts of all arguments. -/
theorem call_concat (hf : f.Offers "concat" .concat 0) (arguments : List Value) :
    (callWithin context budget l (.builtin f) arguments record).1 =
      .ok (.string (String.join (Value.texts arguments))) := by
  have hknown : Outcome.Yields (·.isKnown) (Strings.concat arguments) := by
    rintro v ⟨⟩
    rfl
  rw [callWithin_standard hbudget l hf.routine (hf.accepts (Nat.zero_le _)) record rfl hknown]
  rfl

/-- A format text without specifications is its literal text and the texts of the arguments
that its fields take, if there are enough of them; else the call fails. No list is longer
than the bound here, the greatest number that a field may have. -/
theorem format_interleaves {style : Style} {segments : List Segment} {arguments : List Value}
    (hnames : ∀ digits, .field digits ∈ segments → style.Names digits)
    (hcount : arguments.length ≤ 0x7FFFFFFFFFFFFFFF) :
    ∃ format concat,
      Library.registry.find? "format" = some format ∧
      Library.registry.find? "concat" = some concat ∧
      (let text : Value := .string (String.ofList (segments.flatMap Segment.write))
        let outcome := (callWithin context budget l (.builtin format) (text :: arguments) record).1
        ((∀ i ∈ Segment.indices 0 segments, i < arguments.length) →
          outcome = .ok (.string (String.ofList (Segment.interleave arguments 0 segments)))) ∧
        ((∃ i ∈ Segment.indices 0 segments, arguments.length ≤ i) →
          ∃ fault, outcome = .error (.error ⟨.callFailed "format" (.fault fault), l⟩))) ∧
      ∀ v w : Value,
        (callWithin context budget l (.builtin format)
          [.string "\x7b\x7d\x7b\x7d", v, w] record).1 =
        (callWithin context budget l (.builtin concat) [v, w] record).1 := by
  obtain ⟨format, hformat, hoffers⟩ := find_format
  obtain ⟨concat, hconcat, hjoins⟩ := find_concat
  refine ⟨format, concat, hformat, hconcat, ⟨fun henough => ?_, fun hmissing => ?_⟩,
    fun v w => ?_⟩
  · obtain ⟨x, hfills, hcall⟩ := call_format hbudget l record hoffers hnames hcount
    rw [hcall, hfills.enough henough]
    rfl
  · obtain ⟨x, hfills, hcall⟩ := call_format hbudget l record hoffers hnames hcount
    obtain ⟨fault, hfault⟩ := hfills.missing hmissing
    refine ⟨.format fault, ?_⟩
    rw [hcall, hfault]
    rfl
  · have hfields : ∀ digits, .field digits ∈ [Segment.field [], .field []] →
        Style.automatic.Names digits := by
      simp [Style.Names]
    have htwo : [v, w].length ≤ Spec.countLimit := by simp [Spec.countLimit]
    obtain ⟨x, hfills, hcall⟩ := call_format hbudget l record hoffers hfields htwo
    have henough : ∀ i ∈ Segment.indices 0 [.field [], .field []], i < [v, w].length := by
      simp [Segment.indices, Segment.index, Segment.following]
    have hx := hfills.enough henough
    change (callWithin context budget l (.builtin format)
      (.string (String.ofList ([Segment.field [], .field []].flatMap Segment.write)) :: [v, w])
      record).1 = _
    rw [hcall, hx, call_concat hbudget l record hjoins]
    simp [Except.map, Except.mapError, Segment.interleave, Segment.index, Segment.following,
      Value.texts, String.join]

end

/-- Doubled braces and a numbered field that takes the second argument, if there is one. -/
theorem format_interleaves_numbered :
    let segments : List Segment := [.text ['\x7b', 'x'], .field ['0', '1']]
    let call (f : Function) (arguments : List Value) : Except Halt Value :=
      (callWithin ⟨Library.registry, Host.none, 0, 8⟩ 8 ⟨1, 5⟩ (.builtin f) arguments ⟨0, []⟩).1
    8 ≠ 0 ∧ (∀ digits, .field digits ∈ segments → Style.numbered.Names digits) ∧
      [Value.integer 7, .boolean true].length ≤ 0x7FFFFFFFFFFFFFFF ∧
      ∃ format fault, Library.registry.find? "format" = some format ∧
        call format [.string "\x7b\x7bx\x7b01\x7d", .integer 7, .boolean true] =
          .ok (.string "\x7bxtrue") ∧
        call format [.string "\x7b\x7bx\x7b01\x7d", .integer 7] =
          .error (.error ⟨.callFailed "format" (.fault fault), ⟨1, 5⟩⟩) := by
  intro segments call
  have hnames : ∀ digits, .field digits ∈ segments → Style.numbered.Names digits := by
    intro digits hmem
    obtain rfl : digits = ['0', '1'] := by simpa [segments] using hmem
    exact ⟨List.cons_ne_nil _ _, List.forall_mem_cons.mpr ⟨rfl, List.forall_mem_singleton.mpr rfl⟩⟩
  have hcall (arguments : List Value) := @format_interleaves
    ⟨Library.registry, Host.none, 0, 8⟩ 8 (by decide) ⟨1, 5⟩ ⟨0, []⟩ .numbered segments arguments
    hnames
  obtain ⟨format, _, hformat, -, hboth, -⟩ := hcall [.integer 7, .boolean true] (by decide)
  obtain ⟨format', _, hformat', -, hone, -⟩ := hcall [.integer 7] (by decide)
  obtain rfl : format = format' := Option.some.inj (hformat.symm.trans hformat')
  obtain ⟨fault, hfault⟩ := hone.2 ⟨1, by decide, by decide⟩
  exact ⟨by decide, hnames, by decide, format, fault, hformat, hboth.1 (by decide), hfault⟩

end Inlay
