import Mathlib.Data.List.Infix
import Inlay.Library
import Inlay.Proofs.Likeness

/-!
# Pieces of a string

Splitting, joining, replacing and looking for a part all go by the same occurrences of a
separator: the first one from the left, then the first one after it, and so on, so that
no two overlap. Splitting takes a text to the pieces that this leaves between them, which
`Cut` tells without the loop that finds them; the other three functions are then settled
by induction on it.

A text is its pieces with the separator between each two, no piece holds the separator
within it, and there are two of them just if the text holds it (`split_join_replace`). The
other way round the pieces have to be those of their join, and for a separator of one
character any are that do not hold it.
-/

namespace Inlay

namespace Text

/-- The pieces of a text between the occurrences of a separator, where each occurrence is
the first one after the last. -/
inductive Cut (separator : List Char) : List Char → List (List Char) → Prop
  | nil : Cut separator [] [[]]
  | occurrence {rest p : List Char} {ps : List (List Char)} (h : Cut separator rest (p :: ps)) :
      Cut separator (separator ++ rest) ([] :: p :: ps)
  | character {c : Char} {rest p : List Char} {ps : List (List Char)}
      (hne : ¬ separator <+: c :: rest) (h : Cut separator rest (p :: ps)) :
      Cut separator (c :: rest) ((c :: p) :: ps)

variable {separator text : List Char} {ps : List (List Char)}

/-- The loop cuts what it has still to look at; what it has read of a piece stands in front
of the first one. -/
theorem cut_piecesFrom (hne : separator ≠ []) (piece : List Char) (skip : Nat)
    (text : List Char) :
    ∃ p ps, piecesFrom separator piece skip text = (piece.reverse ++ p) :: ps ∧
      Cut separator (text.drop skip) (p :: ps) := by
  fun_induction piecesFrom separator piece skip text with
  | case1 piece skip => exact ⟨[], [], by simp, by simpa using Cut.nil⟩
  | case2 piece skip c rest ih => exact ih
  | case3 piece c rest hprefix ih =>
      obtain ⟨p, ps, hpieces, hcut⟩ := ih
      obtain ⟨after, hafter⟩ := List.isPrefixOf_iff_prefix.mp hprefix
      obtain ⟨d, more, rfl⟩ := List.exists_cons_of_ne_nil hne
      cases hafter
      refine ⟨[], p :: ps, by rw [hpieces]; simp, ?_⟩
      simpa using Cut.occurrence hcut
  | case4 piece c rest hprefix ih =>
      obtain ⟨p, ps, hpieces, hcut⟩ := ih
      refine ⟨c :: p, ps, by simp [hpieces], ?_⟩
      exact .character (fun h => hprefix (List.isPrefixOf_iff_prefix.mpr h)) hcut

theorem cut_pieces (hne : separator ≠ []) (text : List Char) :
    Cut separator text (pieces separator text) := by
  obtain ⟨p, ps, hpieces, hcut⟩ := cut_piecesFrom hne [] 0 text
  rw [pieces, hpieces]
  exact hcut

namespace Cut

/-- A text is cut in one way. -/
theorem unique (hne : separator ≠ []) (h : Cut separator text ps) {qs : List (List Char)}
    (h' : Cut separator text qs) : ps = qs := by
  induction h generalizing qs with
  | nil =>
      generalize ht : ([] : List Char) = t at h'
      cases h' with
      | nil => rfl
      | occurrence h' => exact absurd (List.append_eq_nil_iff.mp ht.symm).1 hne
      | character => cases ht
  | @occurrence rest p ps h ih =>
      generalize ht : separator ++ rest = t at h'
      cases h' with
      | nil => exact absurd (List.append_eq_nil_iff.mp ht).1 hne
      | occurrence h' => rw [ih (List.append_cancel_left ht ▸ h')]
      | character hno _ => exact absurd ⟨_, ht⟩ hno
  | @character c rest p ps hno h ih =>
      generalize ht : c :: rest = t at h'
      cases h' with
      | nil => cases ht
      | occurrence h' => exact absurd ⟨_, ht.symm⟩ hno
      | character _ h' =>
          cases ht
          cases ih h'
          rfl

/-- The text is its pieces with the separator between each two. -/
theorem intercalate (h : Cut separator text ps) : separator.intercalate ps = text := by
  induction h with
  | nil => simp
  | occurrence h ih => simp_all
  | @character c rest p ps hne h ih => cases ps <;> simp_all

/-- The first piece is what the text starts with. -/
theorem head_prefix {p : List Char} (h : Cut separator text (p :: ps)) : p <+: text := by
  rw [← h.intercalate]
  cases ps with
  | nil => simp
  | cons q qs => simp

/-- No piece holds the separator: an occurrence within one would have been met before its
end. -/
theorem not_infix (hne : separator ≠ []) (h : Cut separator text ps) :
    ∀ p ∈ ps, ¬ separator <:+: p := by
  have hnil : ¬ separator <:+: [] := fun h => hne (List.eq_nil_of_infix_nil h)
  induction h with
  | nil => simpa using hnil
  | occurrence h ih => exact List.forall_mem_cons.mpr ⟨hnil, ih⟩
  | @character c rest p ps hno h ih =>
      obtain ⟨hfirst, hrest⟩ := List.forall_mem_cons.mp ih
      refine List.forall_mem_cons.mpr ⟨fun hoccurs => ?_, hrest⟩
      rcases List.infix_cons_iff.mp hoccurs with hstart | hwithin
      · exact hno (hstart.trans (List.prefix_cons_inj c |>.mpr h.head_prefix))
      · exact hfirst hwithin

/-- There are two pieces just if the separator occurs. -/
theorem two_le_length_iff (hne : separator ≠ []) (h : Cut separator text ps) :
    2 ≤ ps.length ↔ separator <:+: text := by
  induction h with
  | nil => simp [hne]
  | occurrence h ih => simp [List.infix_append_of_infix_left List.infix_rfl]
  | character hno h ih =>
      rw [List.infix_cons_iff, ← ih]
      simp [hno]

/-- Characters other than the separator belong to the piece that they stand before. -/
theorem append {c : Char} {rest p q : List Char} {qs : List (List Char)} (hp : c ∉ p)
    (h : Cut [c] rest (q :: qs)) : Cut [c] (p ++ rest) ((p ++ q) :: qs) := by
  induction p with
  | nil => exact h
  | cons d p ih =>
      obtain ⟨hne, hrest⟩ := not_or.mp (mt List.mem_cons.mpr hp)
      exact .character (by simpa using hne) (ih hrest)

/-- Pieces that do not hold a character are those of their join at it. -/
theorem ofIntercalate {c : Char} (hne : ps ≠ []) (h : ∀ p ∈ ps, c ∉ p) :
    Cut [c] ([c].intercalate ps) ps := by
  induction ps with
  | nil => exact absurd rfl hne
  | cons p ps ih =>
      obtain ⟨hfirst, hrest⟩ := List.forall_mem_cons.mp h
      cases ps with
      | nil => simpa using append hfirst Cut.nil
      | cons q qs => simpa using append hfirst (.occurrence (ih (by simp) hrest))

end Cut

theorem occurs_iff {sought text : List Char} : occurs sought text = true ↔ sought <:+: text := by
  induction text with
  | nil => simp [occurs]
  | cons c rest ih => simp [occurs, ih, List.infix_cons_iff]

end Text

/-! ## The functions that go by the pieces -/

section

open StandardRoutine

variable (s : Surroundings) (text separator new : String)

def Text.parts (separator text : String) : List String :=
  (pieces separator.toList text.toList).map String.ofList

theorem Text.toList_parts :
    (parts separator text).map String.toList = pieces separator.toList text.toList := by
  simp [parts, Function.comp_def]

/-- Texts that do not hold a character are the parts of their join. -/
theorem Text.parts_intercalate {c : Char} {texts : List String} (hne : texts ≠ [])
    (h : ∀ t ∈ texts, c ∉ t.toList) :
    parts (.singleton c) ((String.singleton c).intercalate texts) = texts := by
  have hcut : Cut [c] ([c].intercalate (texts.map String.toList)) (texts.map String.toList) :=
    .ofIntercalate (by simpa using hne) (by simpa using h)
  have hpieces := (cut_pieces (by simp) _).unique (by simp) hcut
  rw [parts, String.toList_intercalate, String.toList_singleton, hpieces, List.map_map]
  simp [Function.comp_def]

def Value.stringList (o : Origin) (texts : List String) : Value := .list o (texts.map .string)

theorem run_split (hne : separator ≠ "") :
    split.run s [.string text, .string separator] =
      .ok (Value.stringList .template (Text.parts separator text)) := by
  have hempty : ¬ separator.isEmpty = true := by simpa using hne
  calc split.run s [.string text, .string separator]
      = .ok (.list .template ((Text.pieces separator.toList text.toList).map fun piece =>
          .string (String.ofList piece))) := if_neg hempty
    _ = .ok (Value.stringList .template (Text.parts separator text)) := by
        rw [Value.stringList, Text.parts, List.map_map]
        rfl

theorem run_join (o : Origin) (texts : List String) :
    join.run s [Value.stringList o texts, .string separator] =
      .ok (.string (separator.intercalate texts)) := by
  have htexts : Value.texts (texts.map .string) = texts := by
    rw [Likeness.texts_eq, List.map_map]
    exact List.map_id texts
  calc join.run s [Value.stringList o texts, .string separator]
      = .ok (.string (separator.intercalate (Value.texts (texts.map .string)))) := rfl
    _ = .ok (.string (separator.intercalate texts)) := by rw [htexts]

theorem run_replace (hne : separator ≠ "") :
    replace.run s [.string text, .string separator, .string new] =
      .ok (.string (new.intercalate (Text.parts separator text))) := by
  have hreplaced : String.ofList (Text.replaceAll separator.toList new.toList text.toList) =
      new.intercalate (Text.parts separator text) := by
    apply String.toList_inj.mp
    have hempty : ¬ separator.toList.isEmpty = true := by simpa using hne
    rw [String.toList_ofList, String.toList_intercalate, Text.toList_parts, Text.replaceAll,
      if_neg hempty]
  exact congrArg (fun t => Except.ok (Value.string t)) hreplaced

theorem run_contains :
    contains.run s [.string text, .string separator] =
      .ok (.boolean (decide (separator.toList <:+: text.toList))) := by
  have hoccurs : Text.occurs separator.toList text.toList =
      decide (separator.toList <:+: text.toList) :=
    Bool.eq_iff_iff.mpr (Text.occurs_iff.trans decide_eq_true_iff.symm)
  exact congrArg (fun b => Except.ok (Value.boolean b)) hoccurs

/-- Splitting, joining, replacing and looking for a part agree on where a separator occurs.
The pieces of a text are cut at its first occurrences, they join to the text again, none of
them holds the separator, to replace it is to join the pieces with something else, and it
occurs just if there are two. And strings that do not hold a character are the pieces of
their join at it. -/
theorem split_join_replace (s : Surroundings) :
    (∀ text separator new : String, separator ≠ "" → ∃ parts : List String,
      Text.Cut separator.toList text.toList (parts.map String.toList) ∧
      split.run s [.string text, .string separator] =
        .ok (Value.stringList .template parts) ∧
      join.run s [Value.stringList .template parts, .string separator] = .ok (.string text) ∧
      (∀ part ∈ parts, contains.run s [.string part, .string separator] =
        .ok (.boolean false)) ∧
      replace.run s [.string text, .string separator, .string new] =
        join.run s [Value.stringList .template parts, .string new] ∧
      contains.run s [.string text, .string separator] =
        .ok (.boolean (decide (2 ≤ parts.length)))) ∧
    (∀ (c : Char) (o : Origin) (texts : List String), texts ≠ [] →
      (∀ t ∈ texts, c ∉ t.toList) → ∃ joined : String,
        join.run s [Value.stringList o texts, .string (.singleton c)] = .ok (.string joined) ∧
        split.run s [.string joined, .string (.singleton c)] =
          .ok (Value.stringList .template texts)) ∧
    (∀ text part : String, contains.run s [.string text, .string part] =
      .ok (.boolean (decide (part.toList <:+: text.toList)))) := by
  refine ⟨fun text separator new hne => ?_, fun c o texts hne hfree => ?_, run_contains s⟩
  · have hchars : separator.toList ≠ [] := by simpa using hne
    have hcut := Text.cut_pieces hchars text.toList
    rw [← Text.toList_parts] at hcut
    refine ⟨Text.parts separator text, hcut, run_split s text separator hne, ?_, ?_, ?_, ?_⟩
    · have hjoined : separator.intercalate (Text.parts separator text) = text :=
        String.toList_inj.mp (by rw [String.toList_intercalate, hcut.intercalate])
      rw [run_join, hjoined]
    · intro part hpart
      rw [run_contains, decide_eq_false (hcut.not_infix hchars _ (List.mem_map_of_mem hpart))]
    · rw [run_replace s text separator new hne, run_join]
    · have htwo := hcut.two_le_length_iff hchars
      rw [List.length_map] at htwo
      rw [run_contains, decide_eq_decide.mpr htwo.symm]
  · refine ⟨_, run_join s (.singleton c) o texts, ?_⟩
    rw [run_split s _ _ (by simp), Text.parts_intercalate hne hfree]

/-- A separator that overlaps itself and stands at both ends, and empty strings joined. -/
theorem split_join_replace_overlap :
    "aa" ≠ "" ∧
      split.run ⟨0, 0⟩ [.string "aaabaa", .string "aa"] =
        .ok (Value.stringList .template ["", "ab", ""]) ∧
      join.run ⟨0, 0⟩ [Value.stringList .template ["", "ab", ""], .string "aa"] =
        .ok (.string "aaabaa") ∧
      replace.run ⟨0, 0⟩ [.string "aaabaa", .string "aa", .string "-"] =
        join.run ⟨0, 0⟩ [Value.stringList .template ["", "ab", ""], .string "-"] ∧
      ["", "b", ""] ≠ [] ∧ (∀ t ∈ ["", "b", ""], 'a' ∉ t.toList) ∧
      ∃ joined, split.run ⟨0, 0⟩ [.string joined, .string "a"] =
        .ok (Value.stringList .template ["", "b", ""]) := by
  have hsplit : split.run ⟨0, 0⟩ [.string "aaabaa", .string "aa"] =
      .ok (Value.stringList .template ["", "ab", ""]) := by rfl
  have hne : "aa" ≠ "" := by decide
  have hfree : ∀ t ∈ ["", "b", ""], 'a' ∉ t.toList := by decide
  obtain ⟨hcut, hjoined, -⟩ := split_join_replace ⟨0, 0⟩
  obtain ⟨parts, -, hparts, hjoin, -, hreplace, -⟩ := hcut "aaabaa" "aa" "-" hne
  obtain ⟨joined, -, hagain⟩ := hjoined 'a' .host ["", "b", ""] (by decide) hfree
  rw [Except.ok.inj (hparts.symm.trans hsplit)] at hjoin hreplace
  exact ⟨hne, hsplit, hjoin, hreplace, by decide, hfree, joined, hagain⟩

end

end Inlay
