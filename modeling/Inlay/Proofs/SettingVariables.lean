import Mathlib.Data.List.Induction
import Mathlib.Data.List.Nodup
import Inlay.Proofs.LoadFaults

/-!
# The settings of variables

Variables are looked up by their names in lower case, where a later one takes the place of
an earlier one of that name. A name that only one spelling of leads to is thus found as in
the variables themselves (`Settings.value?_lowered`). Where no other variable sets anything
(`Settings.OnlyKnown`), the data of the variables is that of the two that have a setting
each (`Settings.variableData_eq`).
-/

namespace Inlay

/-! ## Names in lower case -/

namespace Text

/-- A row that is written out is taken for the row of its characters, which are then there
without being read from its bytes. -/
theorem tableWords_cons (cs : List Char) (rows : List String) :
    tableWords (String.ofList cs :: rows) = cutAt (· == ' ') cs ++ tableWords rows := by
  rw [tableWords, List.flatMap_cons, String.toList_ofList]
  rfl

/-- The table of cases is opened here once for all characters of ASCII. -/
theorem lowerOf_ascii {c : Char} (h : c.toNat < 128) : lowerOf c = [c.toLower] := by
  have hall : ∀ n < 128, lowerOf (Char.ofNat n) = [(Char.ofNat n).toLower] := by
    unfold lowerOf lowerRuns lowerRows
    repeat rw [tableWords_cons]
    decide +kernel
  have hc := hall _ h
  rwa [Char.ofNat_toNat] at hc

theorem lowerFrom_ascii {before cs : List Char} (h : ∀ c ∈ cs, c.toNat < 128) :
    lowerFrom before cs = cs.map Char.toLower := by
  induction cs generalizing before with
  | nil => rfl
  | cons c rest ih =>
      obtain ⟨hc, hrest⟩ := List.forall_mem_cons.mp h
      rw [lowerFrom, if_neg (by omega), lowerOf_ascii hc, ih hrest]
      rfl

theorem lower_ascii {s : String} (h : s.toList.all (·.toNat < 128) = true) :
    lower s = String.ofList (s.toList.map Char.toLower) :=
  congrArg String.ofList
    (lowerFrom_ascii fun c hc => of_decide_eq_true (List.all_eq_true.mp h c hc))

end Text

/-! ## Variables -/

namespace Environment

theorem value?_concat (env : Environment) (name value m : String) :
    value? (env ++ [(name, value)]) m = if m = name then some value else env.value? m := by
  unfold value?
  rw [List.reverse_append, List.reverse_singleton, List.singleton_append, List.lookup_cons]
  by_cases h : m = name
  · rw [if_pos h, beq_iff_eq.mpr h]
  · rw [if_neg h, beq_false_of_ne h]

theorem value?_cons (name value m : String) (env : Environment) :
    value? ((name, value) :: env) m =
      (env.value? m).or (if m = name then some value else none) := by
  unfold value?
  rw [List.reverse_cons, List.lookup_append, List.lookup_cons]
  by_cases h : m = name
  · rw [if_pos h, beq_iff_eq.mpr h]
  · rw [if_neg h, beq_false_of_ne h, List.lookup_nil]

theorem names_set (env : Environment) (name value : String) :
    (env.set name value).map Prod.fst =
      if name ∈ env.map Prod.fst then env.map Prod.fst else env.map Prod.fst ++ [name] := by
  induction env with
  | nil => rfl
  | cons p rest ih =>
      obtain ⟨n, v⟩ := p
      rw [set]
      by_cases hn : n = name
      · subst hn
        rw [if_pos rfl, if_pos (by simp)]
        rfl
      · have hmem : name ∈ n :: rest.map Prod.fst ↔ name ∈ rest.map Prod.fst := by
          simp [Ne.symm hn]
        rw [if_neg hn, List.map_cons, List.map_cons, ih]
        by_cases hrest : name ∈ rest.map Prod.fst
        · rw [if_pos hrest, if_pos (hmem.mpr hrest)]
        · rw [if_neg hrest, if_neg fun h => hrest (hmem.mp h)]
          rfl

theorem value?_eq_none {env : Environment} {name : String} (h : name ∉ env.map Prod.fst) :
    env.value? name = none := by
  refine List.lookup_eq_none_iff.mpr fun p hp => bne_iff_ne.mpr ?_
  rintro rfl
  exact h (List.mem_map_of_mem (List.mem_reverse.mp hp))

/-- What is set is found, if names are there once. -/
theorem value?_set {env : Environment} (h : (env.map Prod.fst).Nodup) (name value m : String) :
    (env.set name value).value? m = if m = name then some value else env.value? m := by
  induction env with
  | nil => exact value?_concat [] name value m
  | cons p rest ih =>
      obtain ⟨n, v⟩ := p
      rw [List.map_cons, List.nodup_cons] at h
      rw [set]
      split_ifs with hn hm hm
      · subst hn hm
        rw [value?_cons, value?_eq_none h.1, if_pos rfl]
        rfl
      · subst hn
        rw [value?_cons, value?_cons, if_neg hm, if_neg hm]
      · subst hm
        rw [value?_cons, ih h.2, if_pos rfl]
        rfl
      · rw [value?_cons, value?_cons, ih h.2, if_neg hm]

end Environment

namespace Settings

/-! ## Names without case -/

theorem lowered_concat (env : Environment) (p : String × String) :
    lowered (env ++ [p]) = (lowered env).set (Text.lower p.1) p.2 := by
  unfold lowered
  rw [List.foldl_append]
  rfl

theorem lowered_nodup (env : Environment) : ((lowered env).map Prod.fst).Nodup := by
  induction env using List.reverseRecOn with
  | nil => exact List.nodup_nil
  | append_singleton env p ih =>
      rw [lowered_concat, Environment.names_set]
      split_ifs with hmem
      · exact ih
      · refine List.nodup_append.mpr ⟨ih, List.nodup_singleton _, fun n hn m hm => ?_⟩
        rw [List.mem_singleton.mp hm]
        rintro rfl
        exact hmem hn

/-- A variable is found under its name in lower case if no other one has that name. -/
theorem value?_lowered {env : Environment} {name : String}
    (h : ∀ p ∈ env, Text.lower p.1 = Text.lower name → p.1 = name) :
    (lowered env).value? (Text.lower name) = env.value? name := by
  induction env using List.reverseRecOn with
  | nil => rfl
  | append_singleton env p ih =>
      obtain ⟨n, v⟩ := p
      rw [lowered_concat, Environment.value?_set (lowered_nodup env), Environment.value?_concat,
        ih fun q hq => h q (List.mem_append_left _ hq)]
      by_cases hn : name = n
      · subst hn
        rw [if_pos rfl, if_pos rfl]
      · have hlower : Text.lower name ≠ Text.lower n := fun heq =>
          hn (h (n, v) (by simp) heq.symm).symm
        rw [if_neg hn, if_neg hlower]

theorem value?_lowered_eq_none {env : Environment} {name : String}
    (h : ∀ p ∈ env, Text.lower p.1 ≠ name) : (lowered env).value? name = none := by
  cases hvalue : (lowered env).value? name with
  | none => rfl
  | some value =>
      obtain ⟨n, hmem, hn⟩ := mem_lowered (Environment.mem_of_value? hvalue)
      exact absurd hn (h _ hmem)

/-! ## The variables of the settings -/

def depthVariable : String := "CAMINO_RENDER__MAX_CALL_DEPTH"

def verbosityVariable : String := "CAMINO_VERBOSITY"

theorem lower_depthVariable : Text.lower depthVariable = "camino_render__max_call_depth" :=
  (Text.lower_ascii (by decide +kernel)).trans (by decide +kernel)

theorem lower_verbosityVariable : Text.lower verbosityVariable = "camino_verbosity" :=
  (Text.lower_ascii (by decide +kernel)).trans (by decide +kernel)

/-- No variable sets anything but for the two that have these names. -/
structure OnlyKnown (env : Environment) : Prop where
  group : ∀ p ∈ env, Text.lower p.1 ≠ "camino_render"
  member : ∀ p ∈ env, (Text.lower p.1).startsWith "camino_render__" = true → p.1 = depthVariable
  verbosity : ∀ p ∈ env, Text.lower p.1 = "camino_verbosity" → p.1 = verbosityVariable

def memberEntries (value : Option String) : List (Data × Data) :=
  (value.map fun s => (.text depthName, .text s)).toList

/-- What the two variables set. -/
def variableEntries (depth word : Option String) : List (Data × Data) :=
  (depth.map fun s => (.text renderName, .mapping (memberEntries (some s)))).toList ++
    (word.map fun s => (.text verbosityName, .text s)).toList

theorem memberData_concat (env : Environment) (name value : String) :
    memberData (env ++ [(name, value)]) renderName =
      if name.startsWith "camino_render__" then
        setWithin ((Text.pieces memberMark.toList (name.toList.drop 15)).map String.ofList)
          (.text value) (memberData env renderName)
      else memberData env renderName := by
  have hstart : variablePrefix ++ renderName ++ memberMark = "camino_render__" := by decide
  unfold memberData
  rw [hstart, List.foldl_append]
  rfl

theorem memberData_eq {env : Environment}
    (h : ∀ p ∈ env, p.1.startsWith "camino_render__" = true →
      p.1 = "camino_render__max_call_depth") :
    memberData env renderName =
      .mapping (memberEntries (env.value? "camino_render__max_call_depth")) := by
  induction env using List.reverseRecOn with
  | nil => rfl
  | append_singleton env p ih =>
      obtain ⟨n, v⟩ := p
      rw [memberData_concat, ih fun q hq => h q (List.mem_append_left _ hq),
        Environment.value?_concat]
      by_cases hn : n.startsWith "camino_render__" = true
      · obtain rfl : n = "camino_render__max_call_depth" := h (n, v) (by simp) hn
        have hname : (Text.pieces memberMark.toList
            ("camino_render__max_call_depth".toList.drop 15)).map String.ofList = [depthName] := by
          decide +kernel
        rw [if_pos hn, if_pos rfl, hname]
        cases Environment.value? env "camino_render__max_call_depth" <;> rfl
      · have hne : "camino_render__max_call_depth" ≠ n := by
          rintro rfl
          exact hn (by decide +kernel)
        rw [if_neg hn, if_neg hne]

section

variable {env : Environment} (henv : OnlyKnown env)
include henv

theorem groupData_eq :
    groupData (lowered env) renderName [depthName] =
      .ok ((env.value? depthVariable).map fun s => .mapping (memberEntries (some s))) := by
  have hgroup : (lowered env).value? (variablePrefix ++ renderName) = none :=
    value?_lowered_eq_none henv.group
  have hmember : ∀ p ∈ lowered env, p.1.startsWith "camino_render__" = true →
      p.1 = "camino_render__max_call_depth" := by
    intro p hp hstart
    obtain ⟨name, hname, hp⟩ := mem_lowered hp
    rw [← hp] at hstart ⊢
    exact (congrArg Text.lower (henv.member _ hname hstart)).trans lower_depthVariable
  have hvalue : (lowered env).value? "camino_render__max_call_depth" =
      env.value? depthVariable := by
    rw [← lower_depthVariable]
    refine value?_lowered fun p hp heq => henv.member p hp ?_
    rw [heq, lower_depthVariable]
    decide +kernel
  have hknown : ∀ v : Data, knownMembers [depthName] (.mapping [(.text depthName, v)]) =
      .mapping [(.text depthName, v)] := by
    intro v
    have hname : Text.lower depthName = depthName :=
      (Text.lower_ascii (by decide +kernel)).trans (by decide +kernel)
    have hlist : [depthName].contains depthName = true := by decide
    change Data.mapping (Data.put (if [depthName].contains (Text.lower depthName) = true then
      .text (Text.lower depthName) else .text depthName) v []) = _
    rw [hname, if_pos hlist]
    rfl
  unfold groupData
  rw [hgroup, memberData_eq hmember, hvalue]
  cases env.value? depthVariable with
  | none => rfl
  | some s =>
      change Except.ok (some (knownMembers [depthName] (.mapping [(.text depthName, .text s)]))) = _
      rw [hknown]
      rfl

/-- Variables set just what the two do. -/
theorem variableData_eq : variableData env = .ok
    (.mapping (variableEntries (env.value? depthVariable) (env.value? verbosityVariable))) := by
  have hword : (lowered env).value? (variablePrefix ++ verbosityName) =
      env.value? verbosityVariable := by
    change (lowered env).value? "camino_verbosity" = _
    rw [← lower_verbosityVariable]
    exact value?_lowered fun p hp heq => henv.verbosity p hp (heq.trans lower_verbosityVariable)
  unfold variableData
  dsimp only
  rw [groupData_eq henv, hword]
  cases env.value? depthVariable <;> rfl

end

end Settings

end Inlay
