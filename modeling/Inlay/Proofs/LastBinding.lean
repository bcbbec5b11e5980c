import Mathlib.Data.List.Induction
import Mathlib.Data.List.TakeWhile
import Inlay.Proofs.LoadFaults
import Inlay.Proofs.Results
import Inlay.Proofs.Scopes

/-!
# The last binding wins

What a name means after properties have been loaded from files, read from
assignments, merged and bound: the value of the last of all properties that has the
name, where files come before assignments (`Property.lastBinding`).

The way from the texts to a name's meaning has three parts, each with its own lemma:
an assignment is read as the text before its first `=` says, without the blanks
around it, and everything after it (`ofAssignment?_eq_some_iff`); what is read is
joined in order (`collect_eq_ok`); and a scope of properties has the last property of
each name (`lookup_ofProperties_eq_some_iff`). Only a text that is no assignment stops the
collection once the files are loaded (`collect_eq_error`).
-/

namespace Inlay

/-! ## Blanks at the ends of a text -/

namespace Text

/-- Neither the first nor the last character is blank. -/
structure Trimmed (cs : List Char) : Prop where
  head : ∀ c, cs.head? = some c → isBlank c = false
  last : ∀ c, cs.getLast? = some c → isBlank c = false

theorem dropWhile_blank {left cs : List Char} (hleft : ∀ c ∈ left, isBlank c = true)
    (hhead : ∀ c, cs.head? = some c → isBlank c = false) :
    (left ++ cs).dropWhile isBlank = cs := by
  rw [List.dropWhile_append_of_pos hleft]
  cases cs with
  | nil => rfl
  | cons c cs => exact List.dropWhile_cons_of_neg (by rw [hhead c rfl]; exact Bool.false_ne_true)

theorem head?_dropWhile_blank {cs : List Char} {c : Char}
    (h : (cs.dropWhile isBlank).head? = some c) : isBlank c = false := by
  have hhead := List.head?_dropWhile_not isBlank cs
  rw [h] at hhead
  simpa using hhead

/-- Trimming takes blanks away, and only from the ends. -/
theorem exists_trim (cs : List Char) :
    ∃ left right, cs = left ++ trim cs ++ right ∧ (∀ c ∈ left, isBlank c = true) ∧
      (∀ c ∈ right, isBlank c = true) ∧ Trimmed (trim cs) := by
  have hright : cs.dropWhile isBlank =
      trim cs ++ ((cs.dropWhile isBlank).reverse.takeWhile isBlank).reverse := by
    rw [trim, trimRight, ← List.reverse_append, List.takeWhile_append_dropWhile,
      List.reverse_reverse]
  refine ⟨cs.takeWhile isBlank, ((cs.dropWhile isBlank).reverse.takeWhile isBlank).reverse,
    ?_, fun c hc => List.mem_takeWhile_imp hc,
    fun c hc => List.mem_takeWhile_imp (List.mem_reverse.mp hc), fun c hc => ?_, fun c hc => ?_⟩
  · rw [List.append_assoc, ← hright, List.takeWhile_append_dropWhile]
  · have hhead : (cs.dropWhile isBlank).head? = some c := by
      rw [hright, List.head?_append, hc]
      rfl
    exact head?_dropWhile_blank hhead
  · rw [trim, trimRight, List.getLast?_reverse] at hc
    exact head?_dropWhile_blank hc

/-- Blanks around a text that has none at its ends are trimmed away. -/
theorem trim_eq {left name right : List Char} (hleft : ∀ c ∈ left, isBlank c = true)
    (hright : ∀ c ∈ right, isBlank c = true) (hname : Trimmed name) (hne : name ≠ []) :
    trim (left ++ name ++ right) = name := by
  have hhead : ∀ c, (name ++ right).head? = some c → isBlank c = false := by
    intro c hc
    cases name with
    | nil => exact absurd rfl hne
    | cons d name => exact hname.head c hc
  have hlast : ∀ c, name.reverse.head? = some c → isBlank c = false := by
    intro c hc
    rw [List.head?_reverse] at hc
    exact hname.last c hc
  rw [trim, List.append_assoc, dropWhile_blank hleft hhead, trimRight, List.reverse_append,
    dropWhile_blank (fun c hc => hright c (List.mem_reverse.mp hc)) hlast, List.reverse_reverse]

theorem trim_eq_nil_iff {cs : List Char} : trim cs = [] ↔ ∀ c ∈ cs, isBlank c = true := by
  constructor
  · intro h
    obtain ⟨left, right, hcs, hleft, hright, -⟩ := exists_trim cs
    rw [h, List.append_nil] at hcs
    rw [hcs]
    exact List.forall_mem_append.mpr ⟨hleft, hright⟩
  · intro h
    rw [trim, List.dropWhile_eq_nil_iff.mpr h]
    rfl

end Text

namespace Property

/-! ## Assignments -/

/-- A text is an assignment of a property: its name, which is not empty, perhaps with
blanks around it, then the first `=` of the text, then the value. -/
structure Assigns (text : String) (p : Property) : Prop where
  split : ∃ left right, text.toList = left ++ p.name.toList ++ right ++ '=' :: p.value.toList ∧
    (∀ c ∈ left, Text.isBlank c = true) ∧ ∀ c ∈ right, Text.isBlank c = true
  trimmed : Text.Trimmed p.name.toList
  plain : '=' ∉ p.name.toList
  nonempty : p.name.toList ≠ []

/-- A text without `=`, or with nothing but blanks before the first one. -/
def NoAssignment (text : String) : Prop :=
  '=' ∉ text.toList ∨
    ∃ blanks rest, text.toList = blanks ++ '=' :: rest ∧ ∀ c ∈ blanks, Text.isBlank c = true

theorem notMem_of_blank {cs : List Char} (h : ∀ c ∈ cs, Text.isBlank c = true) : '=' ∉ cs := by
  intro hmem
  have hblank := h _ hmem
  revert hblank
  decide

/-- A text at its first `=`. -/
theorem takeWhile_split {before : List Char} (h : '=' ∉ before) (rest : List Char) :
    (before ++ '=' :: rest).takeWhile (· != '=') = before ∧
      (before ++ '=' :: rest).dropWhile (· != '=') = '=' :: rest := by
  have hall : ∀ c ∈ before, (c != '=') = true := fun c hc =>
    bne_iff_ne.mpr fun heq => h (heq ▸ hc)
  rw [List.takeWhile_append_of_pos hall, List.dropWhile_append_of_pos hall]
  exact ⟨by simp, by simp⟩

theorem ofAssignment?_split {text : String} {before rest : List Char}
    (htext : text.toList = before ++ '=' :: rest) (h : '=' ∉ before) :
    ofAssignment? text = if (Text.trim before).isEmpty then none
      else some ⟨String.ofList (Text.trim before), String.ofList rest⟩ := by
  obtain ⟨htake, hdrop⟩ := takeWhile_split h rest
  rw [ofAssignment?, htext, htake, hdrop]

theorem Assigns.ofAssignment? {text : String} {p : Property} (h : Assigns text p) :
    ofAssignment? text = some p := by
  obtain ⟨left, right, htext, hleft, hright⟩ := h.split
  have hbefore : '=' ∉ left ++ p.name.toList ++ right := by
    simp [notMem_of_blank hleft, notMem_of_blank hright, h.plain]
  rw [ofAssignment?_split htext hbefore, Text.trim_eq hleft hright h.trimmed h.nonempty,
    if_neg fun hempty => h.nonempty (List.isEmpty_iff.mp hempty), String.ofList_toList,
    String.ofList_toList]

theorem NoAssignment.ofAssignment? {text : String} (h : NoAssignment text) :
    ofAssignment? text = none := by
  rcases h with hnone | ⟨blanks, rest, htext, hblanks⟩
  · have hdrop : text.toList.dropWhile (· != '=') = [] :=
      List.dropWhile_eq_nil_iff.mpr fun c hc => bne_iff_ne.mpr fun heq => hnone (heq ▸ hc)
    rw [Property.ofAssignment?, hdrop]
  · rw [ofAssignment?_split htext (notMem_of_blank hblanks), Text.trim_eq_nil_iff.mpr hblanks]
    rfl

theorem Assigns.not_noAssignment {text : String} {p : Property} (h : Assigns text p) :
    ¬ NoAssignment text := by
  intro hno
  have hp := h.ofAssignment?
  rw [hno.ofAssignment?] at hp
  cases hp

/-- Every text is no assignment or one of some property. -/
theorem noAssignment_or_assigns (text : String) : NoAssignment text ∨ ∃ p, Assigns text p := by
  by_cases hmem : '=' ∈ text.toList
  · obtain ⟨before, rest, htext, hbefore⟩ := List.eq_append_cons_of_mem hmem
    by_cases hblank : Text.trim before = []
    · exact .inl (.inr ⟨before, rest, htext, Text.trim_eq_nil_iff.mp hblank⟩)
    · obtain ⟨left, right, hsplit, hleft, hright, htrimmed⟩ := Text.exists_trim before
      refine .inr ⟨⟨String.ofList (Text.trim before), String.ofList rest⟩, ?_, ?_, ?_, ?_⟩
      · refine ⟨left, right, ?_, hleft, hright⟩
        rw [String.toList_ofList, String.toList_ofList, ← hsplit, htext]
      · rwa [String.toList_ofList]
      · rw [String.toList_ofList]
        intro hin
        rw [hsplit] at hbefore
        exact hbefore (by simp [hin])
      · rwa [String.toList_ofList]
  · exact .inl (.inl hmem)

theorem ofAssignment?_eq_some_iff {text : String} {p : Property} :
    ofAssignment? text = some p ↔ Assigns text p := by
  refine ⟨fun h => ?_, Assigns.ofAssignment?⟩
  rcases noAssignment_or_assigns text with hno | ⟨q, hq⟩
  · rw [hno.ofAssignment?] at h
    cases h
  · rw [hq.ofAssignment?] at h
    cases h
    exact hq

theorem ofAssignment?_eq_none_iff {text : String} :
    ofAssignment? text = none ↔ NoAssignment text := by
  refine ⟨fun h => ?_, NoAssignment.ofAssignment?⟩
  rcases noAssignment_or_assigns text with hno | ⟨q, hq⟩
  · exact hno
  · rw [hq.ofAssignment?] at h
    cases h

/-! ## The collection -/

theorem exists_yields_bind {α β : Type} {l : Loading α} {f : α → Loading β}
    (h : ∃ x, Loading.Yields l x) (hf : ∀ a, ∃ y, Loading.Yields (f a) y) :
    ∃ y, Loading.Yields (l >>= f) y := by
  obtain ⟨x, hx⟩ := h
  choose g hg using hf
  exact ⟨x >>= g, hx.bind fun a _ => hg a⟩

theorem load_yields (files : Files) (path : String) :
    Loading.Yields (load files path) (load files path).outcome.1 := by
  suffices h : ∃ x, Loading.Yields (load files path) x by
    obtain ⟨x, hx⟩ := h
    rwa [hx.outcome]
  unfold load
  dsimp only
  split
  · exact ⟨_, .throw _⟩
  · refine exists_yields_bind ⟨_, .lift _⟩ fun d => ?_
    split
    · exact exists_yields_bind ⟨_, .note _ _ _ _⟩ fun _ => ⟨_, .pure _⟩
    · split
      · exact ⟨_, .throw _⟩
      · exact exists_yields_bind ⟨_, .note _ _ _ _⟩ fun _ => ⟨_, .pure _⟩

/-- The result of an assignment. -/
def assigned (text : String) : Except LoadFault Property :=
  match ofAssignment? text with
  | some p => .ok p
  | none => .error (.property (.notAssignment text))

theorem assigned_eq_ok_iff {text : String} {p : Property} :
    assigned text = .ok p ↔ Assigns text p := by
  rw [← ofAssignment?_eq_some_iff, assigned]
  cases ofAssignment? text <;> simp

theorem assigned_eq_error_iff {text : String} {fault : LoadFault} :
    assigned text = .error fault ↔
      NoAssignment text ∧ fault = .property (.notAssignment text) := by
  rw [← ofAssignment?_eq_none_iff, assigned]
  cases ofAssignment? text <;> simp [eq_comm]

theorem assign_yields (text : String) : Loading.Yields (assign text) (assigned text) := by
  unfold assign assigned
  cases ofAssignment? text with
  | none => exact .throw _
  | some p => exact .pure p

section

variable {files : Files} {paths : List String} {groups : List (List Property)}
  (hfiles : List.Forall₂ (fun path group => (load files path).outcome.1 = .ok group) paths groups)
  (assignments : List String)
include hfiles

/-- Once the files are loaded, all hangs on the assignments. -/
theorem collect_outcome :
    (collect files paths assignments).outcome.1 =
      (assignments.mapM assigned).map fun ps => groups.flatten ++ ps := by
  have hgroups : paths.mapM (fun path => (load files path).outcome.1) = .ok groups :=
    mapM_eq_ok_iff.mpr hfiles
  have hcollect : Loading.Yields (collect files paths assignments)
      (paths.mapM (fun path => (load files path).outcome.1) >>= fun groups =>
        assignments.mapM assigned >>= fun ps => .ok (merge (groups ++ [ps]))) :=
    (Loading.Yields.mapM (load_yields files) paths).bind fun groups _ =>
      (Loading.Yields.mapM assign_yields assignments).bind fun ps _ => .pure _
  rw [hcollect.outcome, hgroups]
  change (assignments.mapM assigned >>= fun ps => .ok (merge (groups ++ [ps]))) = _
  cases assignments.mapM assigned with
  | error f => rfl
  | ok ps =>
      change Except.ok (groups ++ [ps]).flatten = .ok (groups.flatten ++ ps)
      rw [List.flatten_append, List.flatten_singleton]

/-- A text that is no assignment stops the collection. -/
theorem collect_eq_error {fault : LoadFault}
    (h : (collect files paths assignments).outcome.1 = .error fault) :
    ∃ text ∈ assignments, NoAssignment text ∧ fault = .property (.notAssignment text) := by
  rw [collect_outcome hfiles] at h
  cases hassigned : assignments.mapM assigned with
  | ok ps => rw [hassigned] at h; cases h
  | error f =>
      rw [hassigned] at h
      cases h
      obtain ⟨text, hmem, htext⟩ := exists_of_mapM_eq_error hassigned
      exact ⟨text, hmem, assigned_eq_error_iff.mp htext⟩

/-- Without such a text the properties are those of the files and then those assigned. -/
theorem collect_eq_ok {properties : List Property}
    (h : (collect files paths assignments).outcome.1 = .ok properties) :
    ∃ ps, List.Forall₂ Assigns assignments ps ∧ properties = groups.flatten ++ ps := by
  rw [collect_outcome hfiles] at h
  cases hassigned : assignments.mapM assigned with
  | error f => rw [hassigned] at h; cases h
  | ok ps =>
      rw [hassigned] at h
      cases h
      exact ⟨ps, (mapM_eq_ok_iff.mp hassigned).imp fun _ _ => assigned_eq_ok_iff.mp, rfl⟩

end

/-! ## The meaning of a name -/

def IsLast (properties : List Property) (n value : String) : Prop :=
  ∃ before after, properties = before ++ ⟨n, value⟩ :: after ∧ ∀ p ∈ after, p.name ≠ n

theorem isLast_or_unnamed (properties : List Property) (n : String) :
    (∃ value, IsLast properties n value) ∨ ∀ p ∈ properties, p.name ≠ n := by
  induction properties using List.reverseRecOn with
  | nil => exact .inr fun _ hp => nomatch hp
  | append_singleton properties p ih =>
      by_cases hp : p.name = n
      · subst hp
        exact .inl ⟨p.value, properties, [], rfl, fun _ hq => nomatch hq⟩
      · rcases ih with ⟨value, before, after, rfl, hafter⟩ | hnone
        · refine .inl ⟨value, before, after ++ [p], by simp, ?_⟩
          simpa [or_imp, forall_and, hp] using hafter
        · exact .inr (by simpa [or_imp, forall_and, hp] using hnone)

end Property

namespace Scope

open Property

theorem lookup_ofProperties_of_isLast {properties : List Property} {n value : String}
    (h : IsLast properties n value) :
    (ofProperties properties).lookup n = some (.string value) := by
  obtain ⟨before, after, rfl, hafter⟩ := h
  exact lookup_ofProperties hafter value

/-- A name means the value of the last property that has it. -/
theorem lookup_ofProperties_eq_some_iff {properties : List Property} {n : String} {v : Value} :
    (ofProperties properties).lookup n = some v ↔
      ∃ value, v = .string value ∧ IsLast properties n value := by
  constructor
  · intro h
    rcases isLast_or_unnamed properties n with ⟨value, hlast⟩ | hnone
    · rw [lookup_ofProperties_of_isLast hlast] at h
      cases h
      exact ⟨value, rfl, hlast⟩
    · rw [lookup_ofProperties_eq_none.mpr hnone] at h
      cases h
  · rintro ⟨value, rfl, hlast⟩
    exact lookup_ofProperties_of_isLast hlast

end Scope

namespace Property

/-- The last binding wins. Once the files are loaded, the properties cannot be had just
if some text is no assignment. Otherwise they are those of the files, in order, and then
those that the texts assign, and in the scope of all of them a name means the value of
the last one that has it, and nothing if none has. -/
theorem lastBinding {files : Files} {paths : List String} {groups : List (List Property)}
    (hfiles : List.Forall₂ (fun path group => (load files path).outcome.1 = .ok group)
      paths groups) (assignments : List String) :
    ((∃ f, (collect files paths assignments).outcome.1 = .error (.property f)) ↔
      ∃ text ∈ assignments, NoAssignment text) ∧
    ((∀ text ∈ assignments, ¬ NoAssignment text) →
      ∃ assigned properties, List.Forall₂ Assigns assignments assigned ∧
        properties = groups.flatten ++ assigned ∧
        (collect files paths assignments).outcome.1 = .ok properties ∧
        ∀ n, (∀ v, (Scope.ofProperties properties).lookup n = some v ↔
            ∃ value, v = .string value ∧ IsLast properties n value) ∧
          ((Scope.ofProperties properties).lookup n = none ↔ ∀ p ∈ properties, p.name ≠ n)) := by
  refine ⟨⟨?_, ?_⟩, fun hall => ?_⟩
  · rintro ⟨f, hf⟩
    obtain ⟨text, hmem, hno, -⟩ := collect_eq_error hfiles assignments hf
    exact ⟨text, hmem, hno⟩
  · rintro ⟨text, hmem, hno⟩
    cases h : (collect files paths assignments).outcome.1 with
    | error fault =>
        obtain ⟨other, -, -, rfl⟩ := collect_eq_error hfiles assignments h
        exact ⟨_, rfl⟩
    | ok properties =>
        obtain ⟨ps, hps, -⟩ := collect_eq_ok hfiles assignments h
        have hall : ∀ text ∈ assignments, ¬ NoAssignment text :=
          ((List.forall₂_and_left _ _).mp (hps.imp fun _ _ h => ⟨h.not_noAssignment, h⟩)).1
        exact absurd hno (hall text hmem)
  · cases h : (collect files paths assignments).outcome.1 with
    | error fault =>
        obtain ⟨text, hmem, hno, -⟩ := collect_eq_error hfiles assignments h
        exact absurd hno (hall text hmem)
    | ok properties =>
        obtain ⟨ps, hps, rfl⟩ := collect_eq_ok hfiles assignments h
        exact ⟨ps, _, hps, rfl, rfl, fun n =>
          ⟨fun v => Scope.lookup_ofProperties_eq_some_iff, Scope.lookup_ofProperties_eq_none⟩⟩

/-- Two files and two assignments, of which the second one has a name again. -/
theorem lastBinding_again :
    let files : Files := fun path =>
      .regular (if path = "a.yaml" then "x: 1\ny: 2\n" else "x: 3\n").toUTF8
    let groups : List (List Property) := [[⟨"x", "1"⟩, ⟨"y", "2"⟩], [⟨"x", "3"⟩]]
    let properties := groups.flatten ++ [⟨"y", " = 4"⟩, ⟨"z", ""⟩]
    List.Forall₂ (fun path group => (load files path).outcome.1 = .ok group)
      ["a.yaml", "b.yaml"] groups ∧
    (collect files ["a.yaml", "b.yaml"] [" y = = 4", "z="]).outcome.1 = .ok properties ∧
    (Scope.ofProperties properties).lookup "x" = some (.string "3") ∧
    (Scope.ofProperties properties).lookup "y" = some (.string " = 4") := by
  intro files groups properties
  have hload : ∀ path group, (load files path).outcome.1.toOption = some group →
      (load files path).outcome.1 = .ok group := by
    intro path group h
    cases hresult : (load files path).outcome.1 with
    | error f => rw [hresult] at h; cases h
    | ok ps => rw [hresult] at h; cases h; rfl
  have hfiles : List.Forall₂ (fun path group => (load files path).outcome.1 = .ok group)
      ["a.yaml", "b.yaml"] groups :=
    .cons (hload _ _ (by decide +kernel)) (.cons (hload _ _ (by decide +kernel)) .nil)
  have hy : Assigns " y = = 4" ⟨"y", " = 4"⟩ := ofAssignment?_eq_some_iff.mp (by decide)
  have hz : Assigns "z=" ⟨"z", ""⟩ := ofAssignment?_eq_some_iff.mp (by decide)
  obtain ⟨-, hresult⟩ := lastBinding hfiles [" y = = 4", "z="]
  obtain ⟨assigned, _, hassigned, rfl, hcollect, hmeaning⟩ := hresult (by
    simp [hy.not_noAssignment, hz.not_noAssignment])
  obtain ⟨p, ps, hp, hps, rfl⟩ := List.forall₂_cons_left_iff.mp hassigned
  obtain ⟨q, qs, hq, hqs, rfl⟩ := List.forall₂_cons_left_iff.mp hps
  obtain rfl := List.forall₂_nil_left_iff.mp hqs
  obtain rfl : ⟨"y", " = 4"⟩ = p := Option.some.inj (hy.ofAssignment?.symm.trans hp.ofAssignment?)
  obtain rfl : ⟨"z", ""⟩ = q := Option.some.inj (hz.ofAssignment?.symm.trans hq.ofAssignment?)
  refine ⟨hfiles, hcollect, ((hmeaning "x").1 _).mpr ⟨"3", rfl, ?_⟩,
    ((hmeaning "y").1 _).mpr ⟨" = 4", rfl, ?_⟩⟩
  · exact ⟨[⟨"x", "1"⟩, ⟨"y", "2"⟩], [⟨"y", " = 4"⟩, ⟨"z", ""⟩], rfl, by decide⟩
  · exact ⟨groups.flatten, [⟨"z", ""⟩], rfl, by decide⟩

end Property

end Inlay
