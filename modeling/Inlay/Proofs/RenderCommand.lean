import Mathlib.Data.List.Forall2
import Inlay.Command

/-!
# Rendering from the command line

The program leaves no text on the standard output and no file unless it succeeds
(`clean_run`). When `render` succeeds, the text that it leaves is what rendering the
template gives, on the standard output or in the file that was asked for (`Renders`).

The standard output has more than text on it: the records of loading the settings are
made before the program sets logging up, and come there before all text. So it holds the
text alone just where loading makes no records (`run_render`).
-/

namespace Inlay

/-! ## Loading -/

namespace Loading

variable {α β : Type} {records records' : List Log.Record}

theorem ok_of_bind {l : Loading α} {f : α → Loading β} {b : β}
    (h : (l >>= f) records = (.ok b, records')) :
    ∃ a between, l records = (.ok a, between) ∧ f a between = (.ok b, records') := by
  change (match l records with | (x, r) => ExceptT.bindCont f x r) = _ at h
  generalize hl : l records = x at h
  obtain ⟨a | a, between⟩ := x
  · cases h
  · exact ⟨a, between, rfl, h⟩

theorem ok_of_lift {x : Except LoadFault α} {a : α}
    (h : (liftM x : Loading α) records = (.ok a, records')) : x = .ok a := by
  cases x <;> cases h
  rfl

theorem mapM_ok {f : α → Loading β} {as : List α} {bs : List β}
    (h : as.mapM f records = (.ok bs, records')) :
    List.Forall₂ (fun a b => ∃ r r', f a r = (.ok b, r')) as bs := by
  induction as generalizing bs records with
  | nil =>
      cases h
      exact .nil
  | cons a as ih =>
      rw [List.mapM_cons] at h
      obtain ⟨b, between, hb, h⟩ := ok_of_bind h
      obtain ⟨bs', between', hbs, h⟩ := ok_of_bind h
      cases h
      exact .cons ⟨_, _, hb⟩ (ih hbs)

end Loading

namespace Property

def InFile (files : Files) (path : String) (properties : List Property) : Prop :=
  ∃ bytes data, (files (FilePath.normalize path)).open? = .ok bytes ∧
    fileData (FilePath.normalize path) bytes = .ok data ∧
    ofData (FilePath.normalize path) data = .ok properties

def Given (files : Files) (paths assignments : List String) (properties : List Property) : Prop :=
  ∃ groups assigned, List.Forall₂ (InFile files) paths groups ∧
    List.Forall₂ (fun a p => ofAssignment? a = some p) assignments assigned ∧
    properties = groups.flatten ++ assigned

theorem inFile_of_load {files : Files} {path : String} {properties : List Property}
    {records records' : List Log.Record}
    (h : load files path records = (.ok properties, records')) : InFile files path properties := by
  unfold load at h
  cases hopen : (files (FilePath.normalize path)).open? with
  | error reason =>
      simp only [hopen] at h
      cases h
  | ok bytes =>
      simp only [hopen] at h
      obtain ⟨d, between, hd, h⟩ := Loading.ok_of_bind h
      refine ⟨bytes, d, hopen, Loading.ok_of_lift hd, ?_⟩
      cases d with
      | null =>
          -- an empty file holds no properties, and this is noted
          obtain ⟨_, _, -, h⟩ := Loading.ok_of_bind h
          cases h
          rfl
      | _ =>
          dsimp only at h
          generalize ofData (FilePath.normalize path) _ = x at h ⊢
          cases x with
          | error f => cases h
          | ok held =>
              obtain ⟨_, _, -, h⟩ := Loading.ok_of_bind h
              cases h
              rfl

theorem given_of_collect {files : Files} {paths assignments : List String}
    {properties : List Property} {records records' : List Log.Record}
    (h : collect files paths assignments records = (.ok properties, records')) :
    Given files paths assignments properties := by
  unfold collect at h
  obtain ⟨groups, _, hgroups, h⟩ := Loading.ok_of_bind h
  obtain ⟨assigned, _, hassigned, h⟩ := Loading.ok_of_bind h
  cases h
  refine ⟨groups, assigned, (Loading.mapM_ok hgroups).imp ?_,
    (Loading.mapM_ok hassigned).imp ?_, ?_⟩
  · rintro path properties ⟨r, r', hload⟩
    exact inFile_of_load hload
  · rintro text p ⟨r, r', hassign⟩
    unfold assign at hassign
    cases hp : ofAssignment? text with
    | none =>
        rw [hp] at hassign
        cases hassign
    | some q =>
        rw [hp] at hassign
        cases hassign
        rfl
  · rw [merge, List.flatten_append, List.flatten_singleton]

end Property

namespace Command

/-! ## What is left when a command fails -/

theorem Ending.code_eq_zero {e : Ending} : e.code = 0 ↔ e = .success := by
  cases e <;> simp [Ending.code]

/-- An outcome that has some early records on the standard output, and leaves no text and no
file unless it is a success. -/
structure Outcome.Clean (early : List Log.Record) (o : Outcome) : Prop where
  early : o.output.early = early
  atomic : o.ending ≠ .success → o.output.text = "" ∧ o.file? = none

namespace Outcome.Clean

theorem ended (e : Ending) : (Outcome.ended e).Clean [] := ⟨rfl, fun _ => ⟨rfl, rfl⟩⟩

theorem failed (message : String) : (Outcome.failed message).Clean [] := ⟨rfl, fun _ => ⟨rfl, rfl⟩⟩

theorem printed (text : String) : (Outcome.printed text).Clean [] :=
  ⟨rfl, fun h => absurd rfl h⟩

variable {o : Outcome} (h : o.Clean [])
include h

theorem after (records : List Log.Record) : (o.after records).Clean [] := ⟨h.early, h.atomic⟩

theorem afterEarly (records : List Log.Record) : (o.afterEarly records).Clean records :=
  ⟨(congrArg (records ++ ·) h.early).trans (List.append_nil records), h.atomic⟩

theorem through (w : Log.Writer) : (o.through w).Clean [] := ⟨h.early, h.atomic⟩

end Outcome.Clean

theorem clean_withText (s : Source) {act : String → Outcome} (h : ∀ text, (act text).Clean []) :
    (withText s act).Clean [] := by
  unfold withText
  split
  · exact h _
  · exact .failed _

theorem clean_renderFailed (s : Source) (error shown : String) :
    (renderFailed s error shown).Clean [] :=
  .after (.failed shown) _

theorem clean_deliver (files : Files) (destination text : String) :
    (deliver files destination text).Clean [] := by
  unfold deliver
  split_ifs
  · exact .printed text
  · split
    · exact ⟨rfl, fun h => absurd rfl h⟩
    · exact .failed _

theorem clean_check (view : View) (s : Source) : (check view s).Clean [] := by
  refine clean_withText s fun text => ?_
  split
  · exact .after (.printed _) _
  · split
    · exact .failed _
    · exact .ended _

theorem clean_renderText (view : View) (settings : Settings) (words : Words) (s : Source)
    (text : String) (properties : List Property) :
    (renderText view settings words s text properties).Clean [] := by
  unfold renderText
  split
  · split
    · exact clean_renderFailed s _ _
    · exact .ended _
  · refine .after ?_ _
    split
    · exact clean_renderFailed s _ _
    · exact .after (clean_deliver _ _ _) _

theorem clean_render (view : View) (settings : Settings) (words : Words) (s : Source) :
    (render view settings words s).Clean [] := by
  refine clean_withText s fun text => .after ?_ _
  split
  · exact clean_renderText view settings words s text _
  · split
    · exact .ended _
    · exact clean_renderFailed s _ _

theorem clean_withSource (view : View) (words : Words) {act : Source → Outcome}
    (h : ∀ s, (act s).Clean []) : (withSource view words act).Clean [] := by
  unfold withSource
  split
  · split
    · exact h _
    · exact .ended _
  · exact .ended _

theorem clean_runCommand (view : View) (settings : Settings) (writer : Log.Writer) (name : String)
    (args : List String) : (runCommand view settings writer name args).Clean [] := by
  unfold runCommand
  dsimp only
  split
  · exact .ended _
  · split
    · exact .printed _
    · split
      · split
        · exact .ended _
        · exact clean_withSource view _ fun s => (clean_render view settings _ s).through _
      · exact clean_withSource view _ fun s => (clean_check view s).through _
      · split
        · exact .printed _
        · exact .ended _

/-- The early records are those of loading the settings. -/
theorem clean_runWithSettings (view : View) (words : Words) (name : String) (args : List String) :
    (runWithSettings view words name args).Clean
      (Settings.load view.surroundings ((words.values "config").getLast?)).outcome.2 := by
  unfold runWithSettings
  dsimp only
  refine .afterEarly ?_ _
  split
  · exact .failed _
  · exact .ended _
  · exact clean_runCommand view _ _ name args

/-- The program leaves no text and no file unless it succeeds. -/
theorem clean_run (view : View) (args : List String) :
    ∃ early, (run view args).Clean early := by
  unfold run
  split
  · exact ⟨_, .ended _⟩
  · split
    · exact ⟨_, .printed _⟩
    · exact ⟨_, .printed _⟩
    · split
      · exact ⟨_, .ended _⟩
      · split_ifs
        · exact ⟨_, clean_runWithSettings view _ _ _⟩
        · exact ⟨_, .ended _⟩

/-! ## What is left when a template is rendered -/

/-- A text is all the text that an outcome leaves: on the standard output, or in the file
that it is for. -/
def Outcome.Leaves (o : Outcome) (destination text : String) : Prop :=
  if destination = standardWord then o.output.text = text ∧ o.file? = none
  else o.output.text = "" ∧ o.file? = some (destination, text)

/-- Where the words after `render` send its text. -/
def destination (words : Words) : String := ((words.values "output").getLast?).getD standardWord

/-- What rendering a text as a template gives, with the functions of the library
and the depth of calls that is set, on the stacks that there are. -/
def Renders (view : View) (settings : Settings) (text : String) (properties : List Property)
    (result : String) : Prop :=
  ∃ t, Template.parse view.reader text = .ok t ∧
    (t.renderOn view.stack ⟨Library.registry, Host.none, view.clock, settings.maxCallDepth⟩
      (.ofProperties properties) ⟨0, []⟩).1 = .ok result

/-- What rendering the template that words name gives: of the text that its bytes
decode to, with the properties of all files and then those of assignments. -/
def RendersSource (view : View) (settings : Settings) (words : Words) (s : Source)
    (result : String) : Prop :=
  ∃ text properties, fileText s.bytes = .ok text ∧
    Property.Given view.surroundings.files (words.values "properties-file")
      (words.values "property") properties ∧
    Renders view settings text properties result

section

variable {view : View} {settings : Settings} {words : Words} {s : Source}

theorem leaves_of_deliver {files : Files} {destination text : String}
    (h : (deliver files destination text).ending = .success) :
    (deliver files destination text).Leaves destination text := by
  unfold deliver at h ⊢
  unfold Outcome.Leaves
  split_ifs at h ⊢
  · exact ⟨rfl, rfl⟩
  · split at h
    · exact ⟨rfl, rfl⟩
    · cases h

theorem leaves_of_renderText {text : String} {properties : List Property}
    (h : (renderText view settings words s text properties).ending = .success) :
    ∃ result, Renders view settings text properties result ∧
      (renderText view settings words s text properties).Leaves (destination words) result := by
  unfold renderText at h ⊢
  cases hread : Template.parse view.reader text with
  | error f =>
      simp only [hread] at h
      split at h
      · cases h
      · cases f <;> cases h
  | ok t =>
      simp only [hread] at h ⊢
      generalize hrun : (t.renderOn _ _ _ _).1 = outcome at h ⊢
      cases outcome with
      | error e => cases h
      | ok result => exact ⟨result, ⟨t, hread, hrun⟩, leaves_of_deliver h⟩

theorem leaves_of_render (h : (render view settings words s).ending = .success) :
    ∃ result, RendersSource view settings words s result ∧
      (render view settings words s).Leaves (destination words) result := by
  unfold render withText at h ⊢
  cases htext : fileText s.bytes with
  | error f =>
      simp only [htext] at h
      cases h
  | ok text =>
      simp only [htext] at h ⊢
      generalize hload : (Property.collect _ _ _).outcome = loaded at h ⊢
      obtain ⟨collected, records⟩ := loaded
      cases collected with
      | error f =>
          dsimp only at h
          split at h <;> cases h
      | ok properties =>
          obtain ⟨result, hresult, hleaves⟩ := leaves_of_renderText h
          exact ⟨result, ⟨text, properties, htext, Property.given_of_collect hload, hresult⟩,
            hleaves⟩

theorem leaves_of_withSource {act : Source → Outcome}
    (h : (withSource view words act).ending = .success) :
    ∃ word s, words.ordinary = [word] ∧ source? view word = some s ∧
      withSource view words act = act s := by
  unfold withSource at h ⊢
  cases hordinary : words.ordinary with
  | nil =>
      rw [hordinary] at h
      cases h
  | cons word more =>
      cases more with
      | cons =>
          rw [hordinary] at h
          cases h
      | nil =>
          rw [hordinary] at h
          cases hs : source? view word with
          | none =>
              simp only [hs] at h
              cases h
          | some s => exact ⟨word, s, rfl, hs, by simp only [hs]⟩

/-- When the words after `render` lead to a success, they name a template, and
what rendering it gives is left. -/
theorem leaves_of_runCommand {writer : Log.Writer} {args : List String}
    (hhelp : ∀ words, readWords renderSwitches true args = .ok words →
      words.has helpSwitch.name = false)
    (h : (runCommand view settings writer "render" args).ending = .success) :
    ∃ words word s result, readWords renderSwitches true args = .ok words ∧
      words.ordinary = [word] ∧ source? view word = some s ∧
      RendersSource view settings words s result ∧
      (runCommand view settings writer "render" args).Leaves (destination words) result := by
  unfold runCommand at h ⊢
  simp only [if_true] at h ⊢
  cases hwords : readWords renderSwitches true args with
  | error f =>
      rw [hwords] at h
      cases h
  | ok words =>
      simp only [hwords, hhelp words hwords, Bool.false_eq_true, if_false] at h ⊢
      split_ifs at h ⊢
      · cases h
      · obtain ⟨word, s, hword, hs, hact⟩ := leaves_of_withSource h
        rw [hact] at h ⊢
        obtain ⟨result, hresult, hleaves⟩ := leaves_of_render h
        exact ⟨words, word, s, result, rfl, hword, hs, hresult, hleaves⟩

/-- When `render` succeeds, the settings could be loaded. -/
theorem leaves_of_runWithSettings {rest : List String}
    (hhelp : ∀ words, readWords renderSwitches true rest = .ok words →
      words.has helpSwitch.name = false)
    (h : (runWithSettings view words "render" rest).ending = .success) :
    ∃ settings after word s result,
      (Settings.load view.surroundings ((words.values "config").getLast?)).outcome.1 =
        .ok settings ∧
      readWords renderSwitches true rest = .ok after ∧ after.ordinary = [word] ∧
      source? view word = some s ∧ RendersSource view settings after s result ∧
      (runWithSettings view words "render" rest).Leaves (destination after) result := by
  unfold runWithSettings at h ⊢
  dsimp only at h ⊢
  generalize (Settings.load _ _).outcome = loading at h ⊢
  obtain ⟨loaded, early⟩ := loading
  cases loaded with
  | error f => cases f <;> cases h
  | ok settings =>
      obtain ⟨after, word, s, result, hafter, hword, hs, hresult, hleaves⟩ :=
        leaves_of_runCommand hhelp h
      exact ⟨settings, after, word, s, result, rfl, hafter, hword, hs, hresult, hleaves⟩

/-- A command line that asks for `render`, and not how it is used: the words
before the command and those after it. -/
structure AsksToRender (args : List String) (words : Words) (rest : List String) : Prop where
  before : readWords programSwitches false args = .ok words
  command : words.ordinary = "render" :: rest
  noQuestion : ∀ g ∈ words.given, g.name ≠ "version" ∧ g.name ≠ helpSwitch.name
  noHelp : ∀ after, readWords renderSwitches true rest = .ok after →
    after.has helpSwitch.name = false

theorem AsksToRender.run_eq {args : List String} {rest : List String}
    (h : AsksToRender args words rest) :
    run view args = runWithSettings view words "render" rest := by
  have hnone : ((words.given.map (·.name)).find?
      fun n => n == "version" || n == helpSwitch.name) = none := by
    refine List.find?_eq_none.mpr fun n hn hasked => ?_
    obtain ⟨g, hg, rfl⟩ := List.mem_map.mp hn
    obtain ⟨hversion, hhelp⟩ := h.noQuestion g hg
    simp [hversion, hhelp] at hasked
  have hname : names.contains "render" = true := rfl
  rw [run, h.before]
  simp only [hnone, h.command, hname, if_true]

end

/-- Text stands alone on the standard output just if there are no records in front. -/
theorem Output.shown_eq_text_iff {stamp : String} {o : Output} :
    o.shown stamp = o.text ↔ o.early = [] := by
  constructor
  · intro h
    have hlines : (recordLines stamp o.early).toList = [] := by
      rw [← List.append_left_eq_self, ← String.toList_append]
      exact congrArg String.toList h
    cases hearly : o.early with
    | nil => rfl
    | cons r records =>
        rw [hearly] at hlines
        simp [recordLines, asLine, String.join_cons] at hlines
  · intro h
    rw [shown, h]
    exact String.empty_append

/-- Whatever the program is asked and finds, it leaves no text and no file unless
it succeeds. If it is asked to render and succeeds, then the settings could be
loaded, the words after the command name a template that could be read, and what
rendering that template gives is all the text that is left: on the standard output, or
else in the file that was asked for. The records of loading the settings come on the
standard output in front of it, or of nothing; without such records there is nothing but
the text. -/
theorem run_render (view : View) (args : List String) :
    ((run view args).ending.code ≠ 0 →
      (run view args).output.text = "" ∧ (run view args).file? = none) ∧
    ∀ words rest, AsksToRender args words rest →
      let loading := (Settings.load view.surroundings ((words.values "config").getLast?)).outcome
      (run view args).output.early = loading.2 ∧
      (∀ stamp, (run view args).output.shown stamp = (run view args).output.text ↔
        loading.2 = []) ∧
      ((run view args).ending.code = 0 →
        ∃ settings after word s result, loading.1 = .ok settings ∧
          readWords renderSwitches true rest = .ok after ∧ after.ordinary = [word] ∧
          source? view word = some s ∧ RendersSource view settings after s result ∧
          (run view args).Leaves (destination after) result) := by
  constructor
  · obtain ⟨_, hclean⟩ := clean_run view args
    exact fun h => hclean.atomic fun hsuccess => h (Ending.code_eq_zero.mpr hsuccess)
  · intro words rest hasks loading
    have hearly : (run view args).output.early = loading.2 := by
      rw [hasks.run_eq]
      exact (clean_runWithSettings view words "render" rest).early
    refine ⟨hearly, fun stamp => hearly ▸ Output.shown_eq_text_iff, fun hcode => ?_⟩
    have hsuccess := Ending.code_eq_zero.mp hcode
    rw [hasks.run_eq] at hsuccess ⊢
    exact leaves_of_runWithSettings hasks.noHelp hsuccess

/-- A template from the standard input, rendered on the standard output. -/
theorem run_render_input :
    let view : View := ⟨⟨fun _ => .absent, [], "/d", "/h"⟩, "<%= x %>".toUTF8, 0, .usual, .usual⟩
    let args := ["render", "-", "-p", "x=1"]
    let words : Words := ⟨[], args⟩
    let loading := (Settings.load view.surroundings ((words.values "config").getLast?)).outcome
    AsksToRender args words ["-", "-p", "x=1"] ∧ (run view args).ending.code = 0 ∧
      (run view args).output.text = "1" ∧ (run view args).output.early = loading.2 ∧
      ∃ settings after word s result, loading.1 = .ok settings ∧
        readWords renderSwitches true ["-", "-p", "x=1"] = .ok after ∧
        after.ordinary = [word] ∧ source? view word = some s ∧
        RendersSource view settings after s result ∧
        (run view args).Leaves (destination after) result := by
  intro view args words loading
  have hafter : readWords renderSwitches true ["-", "-p", "x=1"] =
      .ok ⟨[⟨"property", "x=1"⟩], ["-"]⟩ := by
    decide +kernel
  have hasks : AsksToRender args words ["-", "-p", "x=1"] := by
    refine ⟨?_, rfl, by simp [words], fun after h => ?_⟩
    · decide +kernel
    · rw [hafter] at h
      cases h
      decide
  have hcode : (run ⟨⟨fun _ => .absent, [], "/d", "/h"⟩, "<%= x %>".toUTF8, 0, .usual, .usual⟩
      ["render", "-", "-p", "x=1"]).ending.code = 0 := by
    decide +kernel
  have houtput : (run ⟨⟨fun _ => .absent, [], "/d", "/h"⟩, "<%= x %>".toUTF8, 0, .usual, .usual⟩
      ["render", "-", "-p", "x=1"]).output.text = "1" := by
    decide +kernel
  obtain ⟨hearly, -, hleaves⟩ := (run_render view args).2 _ _ hasks
  exact ⟨hasks, hcode, houtput, hearly, hleaves hcode⟩

/-- Where no settings are found this is noted on the standard output: in front of the text
of a template that renders, and when the template is rejected. -/
theorem run_render_noted :
    let view (text : String) : View :=
      ⟨⟨fun _ => .absent, [], "/d", "/h"⟩, text.toUTF8, 0, .usual, .usual⟩
    let noted := "T [info     ] project_config_missing         path=/d/camino.yaml\n"
    (run (view "x") ["render", "-"]).ending.code = 0 ∧
      (run (view "x") ["render", "-"]).output.shown "T" = noted ++ "x" ∧
      (run (view "<%= ) %>") ["render", "-"]).ending.code = 1 ∧
      (run (view "<%= ) %>") ["render", "-"]).output.shown "T" = noted := by
  decide +kernel

end Command

end Inlay
