import Inlay.Proofs.FreeNames
import Inlay.Proofs.TruePlaces

/-!
# The line that a report shows

A report of an error in a template shows a line of the source with a caret
under it. Places count lines by their line feeds, while the report cuts the
source at everything that ends a line anywhere (`Text.isLineEnd`). The two agree
as far as line feeds are the only ends (`Text.PlainTo`): up to there the report
shows the line that the place is in, with the caret under the character that the
place denotes, or just past the end of the line (`report_points`).

A form feed before the error is enough to make the report show another line
(`report_formFeed`).
-/

namespace Inlay

/-! ## Lines by line feeds -/

namespace Text

/-- Induction on the lines of a text, from the last one up. -/
@[elab_as_elim]
theorem lines_induction {P : List Char → Prop} (last : ∀ row, '\n' ∉ row → P row)
    (more : ∀ row rest, '\n' ∉ row → P rest → P (row ++ '\n' :: rest)) (cs : List Char) :
    P cs := by
  by_cases h : '\n' ∈ cs
  · obtain ⟨row, rest, heq, hline⟩ := List.eq_append_cons_of_mem h
    exact heq ▸ more row rest hline (lines_induction last more rest)
  · exact last cs h
termination_by cs.length
decreasing_by
  rw [heq, List.length_append, List.length_cons]
  omega

/-- The first lines of a text, so many of them, have no end in them. -/
def PlainTo (cs : List Char) (count : Nat) : Prop :=
  ∀ row ∈ (cs.splitOn '\n').take count, ∀ c ∈ row, isLineEnd c = false

instance (cs : List Char) (count : Nat) : Decidable (PlainTo cs count) :=
  have (row : List Char) : Decidable (∀ c ∈ row, isLineEnd c = false) := List.decidableBAll ..
  List.decidableBAll ..

theorem linesFrom_append {row : List Char} (h : ∀ c ∈ row, isLineEnd c = false)
    (before rest : List Char) :
    linesFrom before (row ++ rest) = linesFrom (row.reverse ++ before) rest := by
  induction row generalizing before with
  | nil => rfl
  | cons c row ih =>
      obtain ⟨hc, hline⟩ := List.forall_mem_cons.mp h
      have hreturn : c ≠ '\r' := by
        rintro rfl
        cases hc
      rw [List.cons_append, linesFrom, if_neg (by simp [hc]), ih hline, List.reverse_cons,
        List.append_assoc]
      · rfl
      · exact fun _ h => absurd h hreturn

/-- A line of a text whose only end is its line feed is a line of the text. -/
theorem linesFrom_more {row : List Char} (h : ∀ c ∈ row, isLineEnd c = false)
    (rest : List Char) : linesFrom [] (row ++ '\n' :: rest) = row :: linesFrom [] rest := by
  have hfeed : isLineEnd '\n' = true := rfl
  rw [linesFrom_append h, linesFrom, if_pos hfeed]
  · simp
  · exact nofun

theorem linesFrom_last {row : List Char} (h : ∀ c ∈ row, isLineEnd c = false) :
    linesFrom [] row = if row = [] then [] else [row] := by
  have happend := linesFrom_append h [] []
  rw [List.append_nil] at happend
  rw [happend, linesFrom]
  cases row <;> simp

/-- As far as line feeds are the only ends, both ways to count find the same
lines; but an empty line at the end is none. -/
theorem linesFrom_getElem? {cs row : List Char} {k : Nat} (hplain : PlainTo cs (k + 1))
    (hline : (cs.splitOn '\n')[k]? = some row) :
    (linesFrom [] cs)[k]? = some row ∨
      (linesFrom [] cs)[k]? = none ∧ row = [] ∧ (cs.splitOn '\n').length = k + 1 := by
  induction cs using lines_induction generalizing k with
  | last first hfirst =>
      rw [PlainTo, List.splitOn_eq_singleton hfirst] at hplain
      rw [List.splitOn_eq_singleton hfirst] at hline ⊢
      obtain ⟨hk, rfl⟩ := List.getElem?_eq_some_iff.mp hline
      obtain rfl : k = 0 := by simpa using hk
      rw [linesFrom_last (hplain first (by simp))]
      by_cases hempty : first = []
      · exact .inr (by simp [hempty])
      · exact .inl (by simp [hempty])
  | more first rest hfirst ih =>
      rw [PlainTo, List.splitOn_append_cons_self_of_not_mem hfirst] at hplain
      rw [List.splitOn_append_cons_self_of_not_mem hfirst] at hline ⊢
      rw [linesFrom_more (hplain first (by simp))]
      cases k with
      | zero => exact .inl hline
      | succ k =>
          have hrest : PlainTo rest (k + 1) := fun l hl => hplain l (by simp [hl])
          simpa using ih hrest hline

end Text

/-! ## The line of an offset -/

namespace Location

theorem lastLine_append_feed (xs ys : List Char) : lastLine (xs ++ '\n' :: ys) = lastLine ys := by
  induction ys using List.reverseRecOn with
  | nil => rw [lastLine_concat, if_pos rfl]; rfl
  | append_singleton ys c ih =>
      rw [← List.cons_append, ← List.append_assoc, lastLine_concat, lastLine_concat, ih]

theorem lastLine_of_notMem {cs : List Char} (h : '\n' ∉ cs) : lastLine cs = cs := by
  induction cs using List.reverseRecOn with
  | nil => rfl
  | append_singleton cs c ih =>
      simp only [List.mem_append, List.mem_singleton, not_or] at h
      rw [lastLine_concat, if_neg (Ne.symm h.2), ih h.1]

/-- In the first line an offset is the number of the characters before it. -/
theorem ofOffset_first {cs : List Char} {o : Nat} (h : '\n' ∉ cs.take o)
    (ho : o ≤ cs.length) : ofOffset cs o = ⟨1, o + 1⟩ := by
  rw [ofOffset, List.count_eq_zero.mpr h, lastLine_of_notMem h, List.length_take_of_le ho,
    Nat.add_comm 1 o]

/-- An offset behind a line is one of the rest, a line further on. -/
theorem ofOffset_more (row rest : List Char) (hline : '\n' ∉ row) (o : Nat) :
    ofOffset (row ++ '\n' :: rest) (row.length + (o + 1)) =
      ⟨(ofOffset rest o).line + 1, (ofOffset rest o).column⟩ := by
  have htake : (row ++ '\n' :: rest).take (row.length + (o + 1)) = row ++ '\n' :: rest.take o := by
    rw [List.take_length_add_append, List.take_succ_cons]
  rw [ofOffset, htake, lastLine_append_feed, List.count_append, List.count_cons_self,
    List.count_eq_zero.mpr hline, ofOffset, Nat.zero_add, Nat.add_assoc]

/-- A character of a line, or nothing for what ends it. -/
theorem getElem?_line {row : List Char} (hline : '\n' ∉ row) (rest : List Char)
    (hrest : ∀ c ∈ rest.head?, c = '\n') {o : Nat} (ho : o ≤ row.length) :
    row[o]? = ((row ++ rest)[o]?).filter (· != '\n') := by
  rcases Nat.lt_or_eq_of_le ho with hlt | rfl
  · have hne : row[o] ≠ '\n' := fun h => hline (h ▸ List.getElem_mem hlt)
    rw [List.getElem?_append_left hlt, List.getElem?_eq_getElem hlt, Option.filter_some]
    simp [hne]
  · rw [List.getElem?_append_right (Nat.le_refl _), Nat.sub_self, ← List.head?_eq_getElem?,
      List.getElem?_eq_none (Nat.le_refl _)]
    cases hhead : rest.head? with
    | none => rfl
    | some c => rw [hrest c hhead]; rfl

/-- The line that an offset is in, by the number that its place gives: the column
counts the characters of the line before the offset. -/
theorem exists_line {cs : List Char} {o : Nat} (ho : o ≤ cs.length) :
    ∃ row, (cs.splitOn '\n')[(ofOffset cs o).line - 1]? = some row ∧
      row[(ofOffset cs o).column - 1]? = (cs[o]?).filter (· != '\n') ∧
      (ofOffset cs o).column - 1 ≤ row.length := by
  induction cs using Text.lines_induction generalizing o with
  | last row hline =>
      have hfirst : ofOffset row o = ⟨1, o + 1⟩ :=
        ofOffset_first (fun h => hline (List.mem_of_mem_take h)) ho
      rw [hfirst, List.splitOn_eq_singleton hline]
      have hchar := getElem?_line hline [] nofun ho
      rw [List.append_nil] at hchar
      exact ⟨row, rfl, hchar, ho⟩
  | more row rest hline ih =>
      rw [List.splitOn_append_cons_self_of_not_mem hline]
      by_cases hin : o ≤ row.length
      · have htake : '\n' ∉ (row ++ '\n' :: rest).take o := by
          rw [List.take_append_of_le_length hin]
          exact fun h => hline (List.mem_of_mem_take h)
        rw [ofOffset_first htake ho]
        have hchar := getElem?_line hline ('\n' :: rest) (by simp) hin
        exact ⟨row, rfl, hchar, hin⟩
      · -- the offset is in a later line
        obtain ⟨o, rfl⟩ : ∃ o', o = row.length + (o' + 1) := ⟨o - row.length - 1, by omega⟩
        have ho' : o ≤ rest.length := by
          rw [List.length_append, List.length_cons] at ho
          omega
        obtain ⟨found, hfound, hchar, hcolumn⟩ := ih ho'
        have hnumber : (ofOffset rest o).line + 1 - 1 = (ofOffset rest o).line - 1 + 1 := by
          have hpos : 1 ≤ (ofOffset rest o).line := Nat.le_add_right 1 _
          omega
        have hoffset : (row ++ '\n' :: rest)[row.length + (o + 1)]? = rest[o]? := by
          rw [List.getElem?_append_right (by omega), Nat.add_sub_cancel_left,
            List.getElem?_cons_succ]
        rw [ofOffset_more row rest hline]
        refine ⟨found, ?_, ?_, hcolumn⟩
        · dsimp only
          rw [hnumber, List.getElem?_cons_succ, hfound]
        · rw [hoffset]
          exact hchar

end Location

/-! ## Reports about a text -/

/-- What may be reported about a text at a place of it, whatever the stacks of the reader
and of evaluation: that it is rejected or nests too deep, or that a rendering of its
template fails. -/
inductive Reported (text : String) : Diagnostic → Prop
  | rejected {reader : Reader.Stack} {failure : ParseFailure} {d : Diagnostic}
      (h : Template.parse reader text = .error failure) (hd : failure.diagnostic? = some d) :
      Reported text d
  | failed {reader : Reader.Stack} {stack : Evaluation.Stack} {t : Template} {context : Context}
      {own : Function → Prop} {properties : List Property} {record : Record} {e : RenderError}
      (h : Template.parse reader text = .ok t) (hown : context.Confined own)
      (he : (t.renderOn stack context (.ofProperties properties) record).1 = .error e) :
      Reported text e.diagnostic

/-- What a report shows for an offset of a text: the line that the offset is in,
with the caret under its character or just past the end of the line. A last line
without characters is not shown. -/
inductive Report.Shows (cs : List Char) (o : Nat) : List String → Prop
  | line {row : List Char}
      (hline : (cs.splitOn '\n')[(Location.ofOffset cs o).line - 1]? = some row)
      (hchar : row[(Location.ofOffset cs o).column - 1]? = (cs[o]?).filter (· != '\n'))
      (hcolumn : (Location.ofOffset cs o).column - 1 ≤ row.length) :
      Shows cs o [String.ofList row,
        String.ofList (List.replicate ((Location.ofOffset cs o).column - 1) ' ' ++ ['^'])]
  | nothing (hline : (cs.splitOn '\n')[(Location.ofOffset cs o).line - 1]? = some [])
      (hlast : (cs.splitOn '\n').length = (Location.ofOffset cs o).line) : Shows cs o []

/-- Whatever is reported at a place is reported at an offset of the text. -/
theorem Reported.offset {text : String} {d : Diagnostic} (hd : Reported text d) {l : Location}
    (hl : d.location = some l) : ∃ o ≤ text.toList.length, l = .ofOffset text.toList o := by
  cases hd with
  | @rejected reader failure _ h hd =>
      obtain ⟨os, hplaces⟩ := places_true reader text
      cases failure with
      | rejected cause l' =>
          cases hd
          cases hl
          obtain ⟨o, ho, hplace, -⟩ := hplaces.rejections cause l h
          exact ⟨o, ho, hplace⟩
      | tooDeep l' =>
          cases hd
          cases hl
          obtain ⟨o, hplace, t, -, ht⟩ := hplaces.givenUp l h
          exact ⟨o, ht.le, hplace⟩
      | numeralTooLong digits => cases hd
  | @failed reader _ t _ _ properties _ e h hown he =>
      obtain ⟨os, hplaces⟩ := places_true reader text
      cases hl
      rcases (t.error_of_render properties hown he).1 with ⟨n, hn, hplace⟩ | hplace
      · obtain ⟨_, _, _, o, -, -, ho, hnode⟩ := hplaces.nodes t h n hn
        exact ⟨o, ho.le, hplace ▸ hnode⟩
      · exact ⟨0, Nat.zero_le _, hplace ▸ hplaces.root t h⟩

/-- As far as line feeds are the only ends, the excerpt at an offset shows its
line. -/
theorem Report.excerpt_shows {text : String} {o : Nat} (ho : o ≤ text.toList.length)
    (hplain : Text.PlainTo text.toList (Location.ofOffset text.toList o).line) :
    Shows text.toList o (excerpt text (.ofOffset text.toList o)) := by
  obtain ⟨row, hline, hchar, hcolumn⟩ := Location.exists_line ho
  generalize hl : Location.ofOffset text.toList o = l at *
  have hnumber : l.line - 1 + 1 = l.line := by
    have hpos : 1 ≤ l.line := hl ▸ Nat.le_add_right 1 _
    omega
  have hsource : sourceLine? text l.line =
      ((Text.linesFrom [] text.toList)[l.line - 1]?).map String.ofList := by
    rw [sourceLine?, if_neg (by omega), Text.lines, List.getElem?_map]
  rcases Text.linesFrom_getElem? (hnumber.symm ▸ hplain) hline with hfound | ⟨hnone, rfl, hlast⟩
  · rw [excerpt, hsource, hfound]
    subst hl
    exact .line hline hchar hcolumn
  · rw [excerpt, hsource, hnone]
    subst hl
    exact .nothing hline (hlast.trans hnumber)

/-- The report of an error at a place of a text names the place, which is that of
an offset of the text; and as far as line feeds are the only ends of lines, it
shows the line of that number with the caret under the character at the offset,
or just past the end of the line. -/
theorem report_points {text : String} {d : Diagnostic} (hd : Reported text d) {l : Location}
    (hl : d.location = some l) :
    Report.diagnosticText d text = Report.errorText (d.heading ++ ": " ++ d.reason)
        (("at " ++ l.text) :: Report.excerpt text l) "" ∧
      ∃ o ≤ text.toList.length, l = .ofOffset text.toList o ∧
        (Text.PlainTo text.toList l.line →
          Report.Shows text.toList o (Report.excerpt text l)) := by
  constructor
  · rw [Report.diagnosticText, hl]
  · obtain ⟨o, ho, rfl⟩ := hd.offset hl
    exact ⟨o, ho, rfl, Report.excerpt_shows ho⟩

theorem report_points_rejected :
    let text := "a\n<%= ) %>"
    let d : Diagnostic := ⟨"Syntax error", "Expected expression but found ')'", some ⟨2, 5⟩⟩
    Reported text d ∧ Text.PlainTo text.toList 2 ∧
      Report.excerpt text ⟨2, 5⟩ = ["<%= ) %>", "    ^"] ∧
      ∃ o ≤ text.toList.length, (⟨2, 5⟩ : Location) = .ofOffset text.toList o ∧
        Report.Shows text.toList o (Report.excerpt text ⟨2, 5⟩) := by
  intro text d
  have hread : Template.parse .usual "a\n<%= ) %>" =
      .error (.rejected (.expected .expression "')'") ⟨2, 5⟩) := by
    with_unfolding_all rfl
  have hd : Reported text d := .rejected hread rfl
  have hplain : Text.PlainTo "a\n<%= ) %>".toList 2 := by
    decide +kernel
  have hexcerpt : Report.excerpt "a\n<%= ) %>" ⟨2, 5⟩ = ["<%= ) %>", "    ^"] := by
    with_unfolding_all rfl
  obtain ⟨-, o, ho, hplace, hshows⟩ := report_points hd rfl
  exact ⟨hd, hplain, hexcerpt, o, ho, hplace, hshows hplain⟩

/-- Behind a form feed the report shows another line than the one that the place
names. -/
theorem report_formFeed :
    let text := "a\x0cb\n<%= ) %>"
    let d : Diagnostic := ⟨"Syntax error", "Expected expression but found ')'", some ⟨2, 5⟩⟩
    Reported text d ∧ (text.toList.splitOn '\n')[1]? = some "<%= ) %>".toList ∧
      Report.diagnosticText d text =
        "Error: Syntax error: Expected expression but found ')'\n  at line 2, column 5\n  b\n      ^" := by
  intro text d
  have hread : Template.parse .usual "a\x0cb\n<%= ) %>" =
      .error (.rejected (.expected .expression "')'") ⟨2, 5⟩) := by
    with_unfolding_all rfl
  have hline : ("a\x0cb\n<%= ) %>".toList.splitOn '\n')[1]? = some "<%= ) %>".toList := by
    decide +kernel
  have hreport : Report.diagnosticText d "a\x0cb\n<%= ) %>" =
      "Error: Syntax error: Expected expression but found ')'\n  at line 2, column 5\n  b\n      ^" := by
    with_unfolding_all rfl
  exact ⟨.rejected hread rfl, hline, hreport⟩

end Inlay
