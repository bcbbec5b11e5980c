import Inlay.Proofs.DistinctNames
import Inlay.Proofs.SettingVariables

/-!
# Which source a setting comes from

Loading lays the file of the project over that of the user, and the variables over both
(`Settings.load_yields`). As the names of what is read are distinct, one may look at one
setting at a time: `Settings.depth_merged` and `Settings.verbosity_merged` give what is
found in the end by what each source has (`Settings.effective`). What is merged is then
checked, the depth of calls first (`Settings.checked_iff`).
-/

namespace Inlay

namespace Settings

/-! ## Files -/

/-- The entries that a file of settings has: none if it is not there or empty. -/
inductive FileSets (files : Files) (path : String) : List (Data × Data) → Prop
  | missing (h : ∀ bytes, files path ≠ .regular bytes) : FileSets files path []
  | empty {bytes : ByteArray} (hbytes : files path = .regular bytes) (h : Holds bytes .null) :
      FileSets files path []
  | mapping {bytes : ByteArray} {entries : List (Data × Data)}
      (hbytes : files path = .regular bytes) (h : Holds bytes (.mapping entries)) :
      FileSets files path entries

theorem fileData_yields {files : Files} {path : String} {entries : List (Data × Data)}
    (h : FileSets files path entries) :
    Loading.Yields (fileData files path) (.ok (.mapping entries)) := by
  unfold fileData
  cases h with
  | missing h =>
      split
      · exact absurd ‹_› (h _)
      · exact .pure _
  | empty hbytes h =>
      obtain ⟨text, htext, hread⟩ := h
      rw [hbytes]
      dsimp only
      rw [htext]
      refine .ok_bind (.pure text) ?_
      rw [hread]
      exact .ok_bind (.note _ _ _ _) (.pure _)
  | mapping hbytes h =>
      obtain ⟨text, htext, hread⟩ := h
      rw [hbytes]
      dsimp only
      rw [htext]
      refine .ok_bind (.pure text) ?_
      rw [hread]
      exact .ok_bind (.note _ _ _ _) (.pure _)

theorem FileSets.distinctNames {files : Files} {path : String} {entries : List (Data × Data)}
    (h : FileSets files path entries) : (Data.mapping entries).DistinctNames := by
  have hempty : (Data.mapping []).DistinctNames := .mapping .nil fun _ hp => nomatch hp
  cases h with
  | missing => exact hempty
  | empty => exact hempty
  | mapping _ h =>
      obtain ⟨text, -, hread⟩ := h
      exact Yaml.read_distinctNames hread

/-! ## Groups of settings -/

def IsGroup (given : Option Data) : Prop := ∀ d, given = some d → ∃ entries, d = .mapping entries

def member? (given : Option Data) (name : String) : Option Data := given.bind fun d => d.get? name

section

variable {below above : Option Data} (hbelow : IsGroup below) (habove : IsGroup above)
include hbelow habove

theorem IsGroup.overlaid : IsGroup (Data.overlaid? below above) := by
  cases above with
  | none => exact hbelow
  | some e =>
      obtain ⟨upper, rfl⟩ := habove e rfl
      cases below with
      | none => exact habove
      | some d =>
          obtain ⟨lower, rfl⟩ := hbelow d rfl
          intro d hd
          cases hd
          exact ⟨_, by rw [Option.elim, Data.overlaid]⟩

/-- Groups are laid over each other member by member. -/
theorem member?_overlaid (hdistinct : ∀ d, above = some d → d.DistinctNames) (name : String) :
    member? (Data.overlaid? below above) name =
      Data.overlaid? (member? below name) (member? above name) := by
  cases above with
  | none => rfl
  | some e =>
      obtain ⟨upper, rfl⟩ := habove e rfl
      cases below with
      | none =>
          change Data.find? upper (.text name) = Data.overlaid? none (Data.find? upper (.text name))
          cases Data.find? upper (.text name) <;> rfl
      | some d =>
          obtain ⟨lower, rfl⟩ := hbelow d rfl
          have hfind := Data.find?_overlayEntries (hdistinct _ rfl).differ lower name
          change ((Data.mapping lower).overlaid (.mapping upper)).get? name = _
          rw [Data.overlaid]
          exact hfind

end

/-! ## Checking -/

def checkDepth : Option Data → Except SettingsFault Nat
  | none => .ok default.maxCallDepth
  | some found =>
    match readDepth found with
    | .ok n => .ok n
    | .error problem => .error (.invalid [renderName, depthName] problem found)

def verbosityOf? : Data → Option Verbosity
  | .text s => Verbosity.ofName? s
  | _ => none

def checkVerbosity : Option Data → Except SettingsFault Verbosity
  | none => .ok default.verbosity
  | some found =>
    match verbosityOf? found with
    | some v => .ok v
    | none => .error (.invalid [verbosityName]
        (.unknownWord (Verbosity.all.map Verbosity.name)) found)

def checkBoth (depth verbosity : Option Data) : Except SettingsFault Settings := do
  let n ← checkDepth depth
  let v ← checkVerbosity verbosity
  return ⟨n, v⟩

theorem ofData_eq {d : Data} (h : IsGroup (d.get? renderName)) :
    ofData d = checkBoth (member? (d.get? renderName) depthName) (d.get? verbosityName) := by
  unfold ofData
  extract_lets finish
  have hfinish : ∀ depth, finish depth =
      checkVerbosity (d.get? verbosityName) >>= fun verbosity => .ok ⟨depth, verbosity⟩ := by
    intro depth
    dsimp only [finish]
    cases d.get? verbosityName with
    | none => rfl
    | some found =>
        cases found with
        | text s =>
            rw [checkVerbosity, verbosityOf?]
            dsimp only
            cases Verbosity.ofName? s <;> rfl
        | _ => rfl
  cases hrender : d.get? renderName with
  | none => exact hfinish _
  | some group =>
      obtain ⟨entries, rfl⟩ := h group hrender
      change _ = checkBoth (Data.find? entries (.text depthName)) _
      rw [checkBoth]
      dsimp only
      cases Data.find? entries (.text depthName) with
      | none => exact hfinish _
      | some found =>
          rw [checkDepth]
          dsimp only
          cases readDepth found with
          | error problem => rfl
          | ok n => exact hfinish n

/-! ## Loading -/

/-- The file of the project: one that is given, or else the usual one. -/
def projectPath (s : Surroundings) (path? : Option String) : String :=
  match path? with
  | some path => FilePath.normalize path
  | none => FilePath.within s.directory projectFileName

def userPath (s : Surroundings) : String := FilePath.within s.home userFileName

/-- What counts for a setting: its variable, or else what the file of the project has, or
else what that of the user has. Where both files have a mapping, it is the mapping of the
user with that of the project over it. -/
def effective : Option String → Option Data → Option Data → Option Data
  | some s, _, _ => some (.text s)
  | none, some (.mapping above), some (.mapping below) =>
    some (.mapping (Data.overlayEntries below above))
  | none, some above, _ => some above
  | none, none, below => below

theorem overlaid_text (d : Data) (s : String) : d.overlaid (.text s) = .text s := by
  rw [Data.overlaid]
  intro _ _ _ h
  cases h

theorem overlaid?_eq_effective (given : Option String) (project user : Option Data) :
    Data.overlaid? (Data.overlaid? user project) (given.map .text) =
      effective given project user := by
  cases given with
  | some s =>
      change some ((Data.overlaid? user project).elim (.text s) fun d => d.overlaid (.text s)) = _
      cases Data.overlaid? user project with
      | none => cases project <;> rfl
      | some d =>
          rw [Option.elim, overlaid_text]
          cases project <;> rfl
  | none =>
      cases project with
      | none => rfl
      | some above =>
          cases user with
          | none => cases above <;> rfl
          | some below =>
              change some (below.overlaid above) = _
              by_cases h : ∃ lower upper, below = .mapping lower ∧ above = .mapping upper
              · obtain ⟨lower, upper, rfl, rfl⟩ := h
                rw [Data.overlaid, effective]
              · rw [Data.overlaid, effective]
                · rintro upper lower ⟨⟩ ⟨⟩
                  exact h ⟨lower, upper, rfl, rfl⟩
                · exact fun lower upper hb ha => h ⟨lower, upper, hb, ha⟩

/-- Every entry has a text as its name. -/
def TextNames (entries : List (Data × Data)) : Prop := ∀ p ∈ entries, ∃ name, p.1 = .text name

theorem TextNames.overlay {below above : List (Data × Data)} (hbelow : TextNames below)
    (habove : TextNames above) : TextNames (Data.overlayEntries below above) :=
  Data.overlayEntries_keys (K := fun k => ∃ name, k = .text name) hbelow habove

theorem allNamed_of_textNames {entries : List (Data × Data)} (h : TextNames entries) :
    allNamed (.mapping entries) = true := by
  refine List.all_eq_true.mpr fun p hp => ?_
  obtain ⟨k, v⟩ := p
  obtain ⟨name, hname⟩ := h _ hp
  dsimp only at hname
  rw [hname]

theorem textNames_variableEntries (depth word : Option String) :
    TextNames (variableEntries depth word) := by
  simp only [TextNames, variableEntries, List.mem_append, Option.mem_toList,
    Option.map_eq_some_iff]
  rintro p (⟨d, -, rfl⟩ | ⟨w, -, rfl⟩)
  · exact ⟨_, rfl⟩
  · exact ⟨_, rfl⟩

/-- Settings of what two files and the variables have. -/
def merged (env : Environment) (project user : List (Data × Data)) : List (Data × Data) :=
  Data.overlayEntries (Data.overlayEntries user project)
    (variableEntries (env.value? depthVariable) (env.value? verbosityVariable))

/-- The result of loading what has been merged. -/
def checked (entries : List (Data × Data)) : Except LoadFault Settings :=
  match ofData (.mapping entries) with
  | .ok settings => .ok settings
  | .error f => .error (.settings f)

section

variable {s : Surroundings} {path? : Option String} {project user : List (Data × Data)}
  (hproject : FileSets s.files (projectPath s path?) project)
  (huser : FileSets s.files (userPath s) user)
include hproject huser

theorem load_yields (hnamed : TextNames (project ++ user)) (henv : OnlyKnown s.environment) :
    Loading.Yields (load s path?) (checked (merged s.environment project user)) := by
  have hproject' : TextNames project := fun p hp => hnamed p (List.mem_append_left _ hp)
  have huser' : TextNames user := fun p hp => hnamed p (List.mem_append_right _ hp)
  have hmerged : TextNames (merged s.environment project user) :=
    (huser'.overlay hproject').overlay (textNames_variableEntries _ _)
  unfold load
  extract_lets path rest
  have hrest : Loading.Yields (rest ()) (checked (merged s.environment project user)) := by
    refine .ok_bind (fileData_yields hproject) (.ok_bind (fileData_yields huser)
      (.ok_bind (.lift_ok (variableData_eq henv)) ?_))
    rw [Data.overlaid, Data.overlaid]
    change Loading.Yields (if (!allNamed (.mapping (merged s.environment project user))) = true
      then _ else _) _
    rw [allNamed_of_textNames hmerged, checked]
    dsimp only
    rw [if_neg (by decide)]
    change Loading.Yields (match ofData (.mapping (merged s.environment project user)) with
      | .ok settings => Pure.pure settings
      | .error f => MonadExcept.throw (.settings f)) _
    cases ofData (.mapping (merged s.environment project user)) with
    | ok settings => exact .pure _
    | error f => exact .throw _
  split
  · exact .ok_bind (.note _ _ _ _) hrest
  · exact hrest

end

/-! ## The settings that count -/

def depthOf? (entries : List (Data × Data)) : Option Data :=
  member? (Data.find? entries (.text renderName)) depthName

def verbosityIn? (entries : List (Data × Data)) : Option Data :=
  Data.find? entries (.text verbosityName)

theorem find?_variableEntries (depth word : Option String) :
    Data.find? (variableEntries depth word) (.text renderName) =
        depth.map (fun s => .mapping (memberEntries (some s))) ∧
      Data.find? (variableEntries depth word) (.text verbosityName) = word.map .text := by
  cases depth <;> cases word <;> exact ⟨rfl, rfl⟩

theorem namesDiffer_variableEntries (depth word : Option String) :
    Data.NamesDiffer (variableEntries depth word) := by
  cases depth <;> cases word
  · exact .nil
  · exact List.pairwise_singleton _ _
  · exact List.pairwise_singleton _ _
  · refine List.pairwise_pair.mpr fun name hname hother => ?_
    have hsame : renderName = verbosityName :=
      (Data.text.inj hname).trans (Data.text.inj hother).symm
    exact absurd hsame (by decide)

section

variable {project user : List (Data × Data)} (hproject : (Data.mapping project).DistinctNames)
  (hgroup : IsGroup (Data.find? project (.text renderName)))
  (hgroup' : IsGroup (Data.find? user (.text renderName))) (env : Environment)

include hproject in
theorem find?_merged (name : String) :
    Data.find? (merged env project user) (.text name) =
      Data.overlaid?
        (Data.overlaid? (Data.find? user (.text name)) (Data.find? project (.text name)))
        (Data.find? (variableEntries (env.value? depthVariable) (env.value? verbosityVariable))
          (.text name)) := by
  rw [merged, Data.find?_overlayEntries (namesDiffer_variableEntries _ _),
    Data.find?_overlayEntries hproject.differ]

include hproject in
theorem verbosity_merged :
    Data.find? (merged env project user) (.text verbosityName) =
      effective (env.value? verbosityVariable) (verbosityIn? project) (verbosityIn? user) := by
  rw [find?_merged hproject, (find?_variableEntries _ _).2, overlaid?_eq_effective]
  rfl

include hproject hgroup hgroup' in
theorem depth_merged :
    IsGroup (Data.find? (merged env project user) (.text renderName)) ∧
      depthOf? (merged env project user) =
        effective (env.value? depthVariable) (depthOf? project) (depthOf? user) := by
  have hfiles := hgroup'.overlaid hgroup
  have hmember := member?_overlaid hgroup' hgroup (fun _ hd => hproject.value hd) depthName
  unfold depthOf?
  rw [find?_merged hproject, (find?_variableEntries _ _).1, ← overlaid?_eq_effective, ← hmember]
  cases env.value? depthVariable with
  | none => exact ⟨hfiles, rfl⟩
  | some s =>
      have hvariable : IsGroup (some (.mapping (memberEntries (some s)))) := by
        rintro _ ⟨⟩
        exact ⟨_, rfl⟩
      have hdistinct : (Data.mapping (memberEntries (some s))).DistinctNames := by
        refine .mapping (List.pairwise_singleton _ _) fun p hp => ?_
        rw [List.mem_singleton.mp hp]
        exact .other fun _ h => nomatch h
      refine ⟨hfiles.overlaid hvariable, ?_⟩
      exact member?_overlaid hfiles hvariable (by rintro _ ⟨⟩; exact hdistinct) depthName

end

/-! ## What counts -/

/-- A depth of calls that is given, or the usual one. -/
def DepthIs (given : Option Data) (n : Nat) : Prop :=
  (given = none ∧ n = default.maxCallDepth) ∨ ∃ d, given = some d ∧ readDepth d = .ok n

def VerbosityIs (given : Option Data) (v : Verbosity) : Prop :=
  (given = none ∧ v = default.verbosity) ∨ ∃ d, given = some d ∧ verbosityOf? d = some v

/-- The fault of the first setting that is refused, with what was given for it. -/
inductive Refuses (depth verbosity : Option Data) : SettingsFault → Prop
  | depth {found : Data} {problem : SettingProblem} (h : depth = some found)
      (hread : readDepth found = .error problem) :
      Refuses depth verbosity (.invalid [renderName, depthName] problem found)
  | verbosity {n : Nat} {found : Data} (hdepth : DepthIs depth n) (h : verbosity = some found)
      (hword : verbosityOf? found = none) :
      Refuses depth verbosity
        (.invalid [verbosityName] (.unknownWord (Verbosity.all.map Verbosity.name)) found)

theorem checkDepth_eq_ok_iff {given : Option Data} {n : Nat} :
    checkDepth given = .ok n ↔ DepthIs given n := by
  unfold checkDepth DepthIs
  cases given with
  | none => simp [eq_comm]
  | some found => cases hread : readDepth found <;> simp [hread]

theorem checkVerbosity_eq_ok_iff {given : Option Data} {v : Verbosity} :
    checkVerbosity given = .ok v ↔ VerbosityIs given v := by
  unfold checkVerbosity VerbosityIs
  cases given with
  | none => simp [eq_comm]
  | some found => cases hword : verbosityOf? found <;> simp [hword]

theorem refuses_iff {depth verbosity : Option Data} {f : SettingsFault} :
    Refuses depth verbosity f ↔ checkDepth depth = .error f ∨
      (∃ n, checkDepth depth = .ok n) ∧ checkVerbosity verbosity = .error f := by
  constructor
  · rintro (⟨rfl, hread⟩ | ⟨hdepth, rfl, hword⟩)
    · left
      rw [checkDepth, hread]
    · refine .inr ⟨⟨_, checkDepth_eq_ok_iff.mpr hdepth⟩, ?_⟩
      rw [checkVerbosity, hword]
  · rintro (hf | ⟨⟨n, hn⟩, hf⟩)
    · cases depth with
      | none => cases hf
      | some found =>
          rw [checkDepth] at hf
          cases hread : readDepth found with
          | ok n => rw [hread] at hf; cases hf
          | error problem => rw [hread] at hf; cases hf; exact .depth rfl hread
    · cases verbosity with
      | none => cases hf
      | some found =>
          rw [checkVerbosity] at hf
          cases hword : verbosityOf? found with
          | some v => rw [hword] at hf; cases hf
          | none =>
              rw [hword] at hf
              cases hf
              exact .verbosity (checkDepth_eq_ok_iff.mp hn) rfl hword

/-- What has been merged is settings or is refused for the first setting that is. -/
theorem checked_iff {entries : List (Data × Data)}
    (h : IsGroup (Data.find? entries (.text renderName))) :
    (∀ settings, checked entries = .ok settings ↔
      DepthIs (depthOf? entries) settings.maxCallDepth ∧
        VerbosityIs (verbosityIn? entries) settings.verbosity) ∧
    ∀ fault, checked entries = .error fault ↔
      ∃ f, fault = .settings f ∧ Refuses (depthOf? entries) (verbosityIn? entries) f := by
  have hdata : ofData (.mapping entries) =
      checkBoth (depthOf? entries) (verbosityIn? entries) := ofData_eq h
  simp only [← checkDepth_eq_ok_iff, ← checkVerbosity_eq_ok_iff, refuses_iff]
  cases hdepth : checkDepth (depthOf? entries) with
  | error f =>
      have hchecked : checked entries = .error (.settings f) := by
        rw [checked, hdata, checkBoth, hdepth]
        rfl
      simp [hchecked, eq_comm]
  | ok n =>
      cases hverbosity : checkVerbosity (verbosityIn? entries) with
      | error f =>
          have hchecked : checked entries = .error (.settings f) := by
            rw [checked, hdata, checkBoth, hdepth, hverbosity]
            rfl
          simp [hchecked, eq_comm]
      | ok v =>
          have hchecked : checked entries = .ok ⟨n, v⟩ := by
            rw [checked, hdata, checkBoth, hdepth, hverbosity]
            rfl
          rw [hchecked]
          constructor
          · rintro ⟨depth, verbosity⟩
            simp
          · simp

/-- What loading gives: the settings that count, if both are good, and else the fault of the
first one that is not. Of a value that does not count nothing is seen. -/
theorem load_priority {s : Surroundings} {path? : Option String}
    {project user : List (Data × Data)}
    (hproject : FileSets s.files (projectPath s path?) project)
    (huser : FileSets s.files (userPath s) user) (hnamed : TextNames (project ++ user))
    (hgroup : IsGroup (Data.find? project (.text renderName)))
    (hgroup' : IsGroup (Data.find? user (.text renderName)))
    (henv : OnlyKnown s.environment) :
    let depth := effective (s.environment.value? depthVariable) (depthOf? project) (depthOf? user)
    let verbosity := effective (s.environment.value? verbosityVariable) (verbosityIn? project)
      (verbosityIn? user)
    (∀ settings, (load s path?).outcome.1 = .ok settings ↔
      DepthIs depth settings.maxCallDepth ∧ VerbosityIs verbosity settings.verbosity) ∧
    ∀ fault, (load s path?).outcome.1 = .error fault ↔
      ∃ f, fault = .settings f ∧ Refuses depth verbosity f := by
  intro depth verbosity
  obtain ⟨hrender, hdepth⟩ := depth_merged hproject.distinctNames hgroup hgroup' s.environment
  have hverbosity : Data.find? (merged s.environment project user) (.text verbosityName) =
      verbosity := verbosity_merged hproject.distinctNames s.environment
  have hchecked := checked_iff hrender
  rw [hdepth, verbosityIn?, hverbosity] at hchecked
  rw [(load_yields hproject huser hnamed henv).outcome]
  exact hchecked

/-! ### Files of one entry each -/

/-- The names and the text of a mapping that holds a mapping that holds a text. -/
def nested? : Data → Option (String × String × String)
  | .mapping [(.text outer, .mapping [(.text inner, .text s)])] => some (outer, inner, s)
  | _ => none

/-- The entries that `nested?` stands for. -/
def nestedEntries (outer inner s : String) : List (Data × Data) :=
  [(.text outer, .mapping [(.text inner, .text s)])]

theorem eq_of_nested? {d : Data} {outer inner s : String}
    (h : nested? d = some (outer, inner, s)) : d = .mapping (nestedEntries outer inner s) := by
  unfold nested? at h
  split at h
  · cases h
    rfl
  · cases h

theorem holds_of_nested? {bytes : ByteArray} {outer inner s : String}
    (h : ((fileText bytes).toOption.bind fun text => (Yaml.read text).toOption.bind nested?) =
      some (outer, inner, s)) : Holds bytes (.mapping (nestedEntries outer inner s)) := by
  obtain ⟨text, htext, h⟩ := Option.bind_eq_some_iff.mp h
  obtain ⟨d, hread, h⟩ := Option.bind_eq_some_iff.mp h
  cases htext' : fileText bytes with
  | error f => rw [htext'] at htext; cases htext
  | ok t =>
      rw [htext'] at htext
      cases htext
      cases hread' : Yaml.read text with
      | error f => rw [hread'] at hread; cases hread
      | ok e =>
          rw [hread'] at hread
          cases hread
          exact ⟨text, htext', hread'.trans (congrArg _ (eq_of_nested? h))⟩

/-- The file of a project and that of a user with some text, and some variables. -/
def twoFiles (project user : String) (env : Environment) : Surroundings :=
  ⟨fun path => .regular (if path = "/work/camino.yaml" then project.toUTF8 else user.toUTF8), env,
    "/work", "/home"⟩

section

variable (project user : String) (env : Environment)

theorem twoFiles_project :
    (twoFiles project user env).files (projectPath (twoFiles project user env) none) =
      .regular project.toUTF8 := by
  have hpath : FilePath.within "/work" projectFileName = "/work/camino.yaml" := by decide +kernel
  exact congrArg FileState.regular (if_pos hpath)

theorem twoFiles_user :
    (twoFiles project user env).files (userPath (twoFiles project user env)) =
      .regular user.toUTF8 := by
  have hpath : FilePath.within "/home" userFileName ≠ "/work/camino.yaml" := by decide +kernel
  exact congrArg FileState.regular (if_neg hpath)

end

theorem onlyKnown_nil : OnlyKnown [] :=
  ⟨fun _ hp => absurd hp List.not_mem_nil, fun _ hp => absurd hp List.not_mem_nil,
    fun _ hp => absurd hp List.not_mem_nil⟩

theorem OnlyKnown.cons_verbosity {env : Environment} (h : OnlyKnown env) (word : String) :
    OnlyKnown ((verbosityVariable, word) :: env) := by
  refine ⟨List.forall_mem_cons.mpr ⟨?_, h.group⟩, List.forall_mem_cons.mpr ⟨?_, h.member⟩,
    List.forall_mem_cons.mpr ⟨fun _ => rfl, h.verbosity⟩⟩
  · rw [lower_verbosityVariable]
    decide
  · rw [lower_verbosityVariable]
    intro hstart
    exact absurd hstart (by decide +kernel)

theorem textNames_nestedEntries (outer inner s : String) :
    TextNames (nestedEntries outer inner s) :=
  fun _ hp => ⟨outer, by rw [List.mem_singleton.mp hp]⟩

theorem isGroup_nestedEntries (outer inner s name : String) :
    IsGroup (Data.find? (nestedEntries outer inner s) (.text name)) := by
  intro d hd
  obtain ⟨k, hp⟩ := Data.mem_of_find? hd
  cases List.mem_singleton.mp hp
  exact ⟨_, rfl⟩

/-- The project has a depth, and what the user has for it would be refused. -/
theorem load_priority_masked :
    let s := twoFiles "render:\n  max_call_depth: '7'\n" "render:\n  max_call_depth: many\n"
      [("CAMINO_VERBOSITY", "debug")]
    let project := nestedEntries "render" "max_call_depth" "7"
    let user := nestedEntries "render" "max_call_depth" "many"
    FileSets s.files (projectPath s none) project ∧ FileSets s.files (userPath s) user ∧
      TextNames (project ++ user) ∧ IsGroup (Data.find? project (.text renderName)) ∧
      IsGroup (Data.find? user (.text renderName)) ∧ OnlyKnown s.environment ∧
      (load s none).outcome.1 = .ok ⟨7, .debug⟩ := by
  intro s project user
  have hproject : FileSets s.files (projectPath s none) project :=
    .mapping (twoFiles_project _ _ _) (holds_of_nested? (by decide +kernel))
  have huser : FileSets s.files (userPath s) user :=
    .mapping (twoFiles_user _ _ _) (holds_of_nested? (by decide +kernel))
  have hnamed : TextNames (project ++ user) := fun p hp =>
    (List.mem_append.mp hp).elim (textNames_nestedEntries _ _ _ p) (textNames_nestedEntries _ _ _ p)
  have hgroup : IsGroup (Data.find? project (.text renderName)) := isGroup_nestedEntries _ _ _ _
  have hgroup' : IsGroup (Data.find? user (.text renderName)) := isGroup_nestedEntries _ _ _ _
  have henv : OnlyKnown s.environment := onlyKnown_nil.cons_verbosity "debug"
  refine ⟨hproject, huser, hnamed, hgroup, hgroup', henv, ?_⟩
  refine ((load_priority hproject huser hnamed hgroup hgroup' henv).1 _).mpr ⟨?_, ?_⟩
  · exact .inr ⟨.text "7", rfl, rfl⟩
  · exact .inr ⟨.text "debug", rfl, rfl⟩

/-- Mappings of both files for one setting are refused as one, with the entries of either. -/
theorem load_merges :
    let s := twoFiles "verbosity:\n  b: x\n" "verbosity:\n  a: y\n" []
    let project := nestedEntries "verbosity" "b" "x"
    let user := nestedEntries "verbosity" "a" "y"
    FileSets s.files (projectPath s none) project ∧ FileSets s.files (userPath s) user ∧
      ∃ f, (load s none).outcome.1 = .error (.settings f) ∧ f.field? = some verbosityName ∧
        f.found = .mapping [(.text "a", .text "y"), (.text "b", .text "x")] ∧
        verbosityIn? project ≠ some f.found := by
  intro s project user
  have hproject : FileSets s.files (projectPath s none) project :=
    .mapping (twoFiles_project _ _ _) (holds_of_nested? (by decide +kernel))
  have huser : FileSets s.files (userPath s) user :=
    .mapping (twoFiles_user _ _ _) (holds_of_nested? (by decide +kernel))
  have hnamed : TextNames (project ++ user) := fun p hp =>
    (List.mem_append.mp hp).elim (textNames_nestedEntries _ _ _ p) (textNames_nestedEntries _ _ _ p)
  have hmerged : merged [] project user = [(.text verbosityName,
      .mapping [(.text "a", .text "y"), (.text "b", .text "x")])] := by
    change Data.overlayEntries (Data.overlayEntries [(.text "verbosity", .mapping
      [(.text "a", .text "y")])] [(.text "verbosity", .mapping [(.text "b", .text "x")])]) [] = _
    rw [Data.overlayEntries, Data.overlayEntries, Data.overlayEntries]
    change [(Data.text "verbosity", (Data.mapping [(.text "a", .text "y")]).overlaid
      (.mapping [(.text "b", .text "x")]))] = _
    rw [Data.overlaid, Data.overlayEntries, Data.overlayEntries]
    rfl
  have houtcome := (load_yields hproject huser hnamed onlyKnown_nil).outcome
  have hchecked : checked (merged [] project user) = .error (.settings
      (.invalid [verbosityName] (.unknownWord (Verbosity.all.map Verbosity.name))
        (.mapping [(.text "a", .text "y"), (.text "b", .text "x")]))) := by
    rw [hmerged]
    rfl
  refine ⟨hproject, huser, _, houtcome.trans hchecked, rfl, rfl, ?_⟩
  intro h
  have hlength : 1 = 2 := congrArg List.length (Data.mapping.inj (Option.some.inj h))
  exact absurd hlength (by decide)

end Settings

end Inlay
