import Inlay.Proofs.RefusedScalars
import Inlay.Proofs.TextBytes
import Inlay.Property.File
import Inlay.Settings.Source

/-!
# Why loading fails

Loading properties ends with properties or a fault of properties, and loading settings with
settings or a fault of settings, unless what is loaded shows otherwise. Then the bytes of a
file are no text, or its data names what does not exist (`FileShows`); an integer is too
long to be written as a property; the name of a setting is no text; or the variable of a
whole group holds no document that can be read (`load_explained`).

Records are only written while loading and never read. So one may speak of the result of
loading whatever was noted before it: of what kind it is (`Loading.Ends`), or which one it
is (`Loading.Yields`).
-/

namespace Inlay

/-! ## Loading -/

namespace Loading

/-- Loading that fails with faults of a kind and ends with results of another. -/
def Ends {α : Type} (P : LoadFault → Prop) (Q : α → Prop) (l : Loading α) : Prop :=
  ∀ records, Gives P Q (l records).1

variable {α β : Type} {P : LoadFault → Prop} {Q : α → Prop} {R : β → Prop}

namespace Ends

theorem pure {a : α} (h : Q a) : Ends P Q (pure a : Loading α) := fun _ => .ok h

theorem throw {f : LoadFault} (h : P f) : Ends P Q (throw f : Loading α) := fun _ => .error h

theorem bind {l : Loading α} {g : α → Loading β} (h : Ends P Q l)
    (hg : ∀ a, Q a → Ends P R (g a)) : Ends P R (l >>= g) := by
  intro records
  change Gives P R (match l records with | (x, r) => ExceptT.bindCont g x r).1
  have hl := h records
  generalize l records = x at hl
  obtain ⟨a | a, between⟩ := x
  · exact .error (hl.fails a rfl)
  · exact hg a (hl.result a rfl) between

theorem throw_bind {f : LoadFault} (h : P f) (g : α → Loading β) :
    Ends P R ((MonadExcept.throw f : Loading α) >>= g) :=
  bind (Q := fun _ => False) (throw h) fun _ hnone => hnone.elim

theorem lift {x : Except LoadFault α} (h : Gives P Q x) : Ends P Q (liftM x : Loading α) := by
  intro records
  cases x with
  | error f => exact .error (h.fails f rfl)
  | ok a => exact .ok (h.result a rfl)

theorem note (level : Log.Level) (logger event : String) (fields : Log.Fields) :
    Ends P (fun _ => True) (Loading.note level logger event fields) :=
  fun _ => .ok trivial

theorem outcome {l : Loading α} {f : LoadFault} (h : Ends P Q l)
    (hf : l.outcome.1 = .error f) : P f :=
  (h []).fails f hf

end Ends

/-- Loading has a result, whatever was noted before. -/
def Yields (l : Loading α) (x : Except LoadFault α) : Prop :=
  ∀ records, (l records).1 = x

namespace Yields

theorem pure (a : α) : Yields (pure a) (.ok a) := fun _ => rfl

theorem throw (f : LoadFault) : Yields (throw f : Loading α) (.error f) := fun _ => rfl

theorem lift (x : Except LoadFault α) : Yields (liftM x) x := by
  intro records
  cases x <;> rfl

theorem lift_ok {x : Except LoadFault α} {a : α} (h : x = .ok a) : Yields (liftM x) (.ok a) :=
  h ▸ lift x

theorem note (level : Log.Level) (logger event : String) (fields : Log.Fields) :
    Yields (Loading.note level logger event fields) (.ok ()) := fun _ => rfl

theorem bind {l : Loading α} {x : Except LoadFault α} {f : α → Loading β}
    {g : α → Except LoadFault β} (h : Yields l x) (hf : ∀ a, x = .ok a → Yields (f a) (g a)) :
    Yields (l >>= f) (x >>= g) := by
  intro records
  change (match l records with | (x, r) => ExceptT.bindCont f x r).1 = _
  have hx := h records
  generalize l records = y at hx
  obtain ⟨a | a, between⟩ := y
  · cases hx
    rfl
  · cases hx
    exact hf a rfl between

theorem ok_bind {l : Loading α} {a : α} {f : α → Loading β} {y : Except LoadFault β}
    (h : Yields l (.ok a)) (hf : Yields (f a) y) : Yields (l >>= f) y :=
  bind h (g := fun _ => y) fun _ ha => Except.ok.inj ha ▸ hf

theorem mapM {f : α → Loading β} {g : α → Except LoadFault β} (h : ∀ a, Yields (f a) (g a))
    (as : List α) : Yields (as.mapM f) (as.mapM g) := by
  induction as with
  | nil => exact pure []
  | cons a as ih =>
      rw [List.mapM_cons, List.mapM_cons]
      exact (h a).bind fun b _ => ih.bind fun bs _ => pure (b :: bs)

theorem outcome {l : Loading α} {x : Except LoadFault α} (h : Yields l x) : l.outcome.1 = x :=
  h []

end Yields

end Loading

/-! ## Files -/

def Holds (bytes : ByteArray) (d : Data) : Prop :=
  ∃ text, fileText bytes = .ok text ∧ Yaml.read text = .ok d

/-- What the bytes of a file show for a fault of no kind that is meant for users: they are
no text, or the text is well-formed and still cannot be read as data. -/
inductive FileShows (bytes : ByteArray) : LoadFault → Prop
  | undecodable {f : Text.Utf8.Fault} (h : ¬ bytes.IsValidUTF8) : FileShows bytes (.undecodable f)
  | text {text : String} {f : Yaml.Fault} (htext : fileText bytes = .ok text)
      (hf : ∀ reason, f ≠ .malformed reason) (h : Yaml.TextShows text f) :
      FileShows bytes (.data f)
  | scalar {text : String} {n : Yaml.Node} {f : Yaml.Fault} (htext : fileText bytes = .ok text)
      (hf : ∀ reason, f ≠ .malformed reason) (hn : Yaml.Node.ofText? text = .ok (some n))
      (h : n.Refuses f) : FileShows bytes (.data f)

theorem not_isValidUTF8_of_fileText {bytes : ByteArray} {f : Text.Utf8.Fault}
    (h : fileText bytes = .error f) : ¬ bytes.IsValidUTF8 := by
  refine Text.Utf8.decode_eq_error_iff.mp ?_
  unfold fileText at h
  cases hdecode : Text.Utf8.decode bytes with
  | error fault => exact ⟨fault, rfl⟩
  | ok text =>
      rw [hdecode] at h
      cases h

theorem fileShows_of_read {bytes : ByteArray} {text : String} {f : Yaml.Fault}
    (htext : fileText bytes = .ok text) (h : Yaml.read text = .error f)
    (hf : ∀ reason, f ≠ .malformed reason) : FileShows bytes (.data f) := by
  rcases Yaml.read_error h with hshows | ⟨n, hn, hrefuses⟩
  · exact .text htext hf hshows
  · exact .scalar htext hf hn hrefuses

/-! ## Properties -/

namespace Data

theorem areWritable_eq (items : List Data) : areWritable items = items.all isWritable := by
  induction items with
  | nil => rfl
  | cons d rest ih => rw [areWritable, List.all_cons, ih]

theorem entriesWritable_eq (entries : List (Data × Data)) :
    entriesWritable entries = entries.all fun p => p.1.isWritable && p.2.isWritable := by
  induction entries with
  | nil => rfl
  | cons p rest ih => rw [entriesWritable, List.all_cons, ih]

theorem mem_of_find? {entries : List (Data × Data)} {k v : Data} (h : find? entries k = some v) :
    ∃ l, (l, v) ∈ entries := by
  obtain ⟨p, hp, rfl⟩ := Option.map_eq_some_iff.mp h
  exact ⟨p.1, List.mem_of_find?_eq_some hp⟩

variable {entries : List (Data × Data)}

theorem isWritable_of_entry (h : entriesWritable entries = true) {p : Data × Data}
    (hp : p ∈ entries) : p.1.isWritable = true ∧ p.2.isWritable = true := by
  rw [entriesWritable_eq, List.all_eq_true] at h
  simpa using h p hp

theorem isWritable_of_find? (h : entriesWritable entries = true) (k : Data) :
    ((find? entries k).getD .null).isWritable = true := by
  cases hv : find? entries k with
  | none => rfl
  | some v =>
      obtain ⟨l, hl⟩ := mem_of_find? hv
      exact (isWritable_of_entry h hl).2

end Data

namespace Property

/-- What there is to see for a fault of loading the properties of a file. -/
inductive Explains (files : Files) (path : String) : LoadFault → Prop
  | property {f : PropertyFault} (h : f.source? = some (FilePath.normalize path)) :
      Explains files path (.property f)
  | file {bytes : ByteArray} {f : LoadFault}
      (hbytes : files (FilePath.normalize path) = .regular bytes) (h : FileShows bytes f) :
      Explains files path f
  | numeral {bytes : ByteArray} {d : Data}
      (hbytes : files (FilePath.normalize path) = .regular bytes) (hd : Holds bytes d)
      (h : d.isWritable = false) : Explains files path .numeralTooLong

/-- A fault of the properties of a source, or of an integer too long to be written. -/
inductive Objects (source : String) (writable : Prop) : LoadFault → Prop
  | property {f : PropertyFault} (h : f.source? = some source) :
      Objects source writable (.property f)
  | numeral (h : ¬ writable) : Objects source writable .numeralTooLong

theorem Objects.mono {source : String} {part whole : Prop} {f : LoadFault}
    (h : Objects source part f) (hpart : whole → part) : Objects source whole f := by
  cases h with
  | property h => exact .property h
  | numeral h => exact .numeral (mt hpart h)

theorem ofEntry_failsOnly (source : String) (name value : Data) :
    FailsOnly (Objects source (name.isWritable = true ∧ value.isWritable = true))
      (ofEntry source name value) := by
  unfold ofEntry
  refine .check (fun hname => .numeral fun h => by simp [h.1] at hname) ?_
  dsimp only
  split
  · exact .error (.property rfl)
  · refine .check (fun hvalue => .numeral fun h => by simp [h.2] at hvalue) ?_
    exact .check (fun _ => .property rfl) (.ok _)

theorem ofItem_failsOnly (source : String) (item : Data) :
    FailsOnly (Objects source (item.isWritable = true)) (ofItem source item) := by
  unfold ofItem
  split
  · rename_i entries
    split
    · rename_i name hname
      refine (ofEntry_failsOnly _ _ _).mono fun f hf => hf.mono fun hwritable => ⟨?_, ?_⟩
      · obtain ⟨l, hl⟩ := Data.mem_of_find? hname
        exact (Data.isWritable_of_entry hwritable hl).2
      · exact Data.isWritable_of_find? hwritable _
    · exact .error (.property rfl)
  · exact .error (.property rfl)

theorem ofData_failsOnly (source : String) (d : Data) :
    FailsOnly (Objects source (d.isWritable = true)) (ofData source d) := by
  unfold ofData
  split
  · exact .ok _
  · rename_i entries
    refine .mapM fun p hp => (ofEntry_failsOnly _ _ _).mono fun f hf => hf.mono fun hwritable => ?_
    exact Data.isWritable_of_entry hwritable hp
  · rename_i items
    refine .mapM fun item hitem => (ofItem_failsOnly _ _).mono fun f hf => hf.mono fun h => ?_
    rw [Data.isWritable, Data.areWritable_eq, List.all_eq_true] at h
    exact h item hitem
  · exact .mapM fun _ _ => .error (.property rfl)
  · exact .error (.property rfl)

theorem fileData_gives (source : String) (bytes : ByteArray) :
    Gives (fun f => f = .property (.badFile source) ∨ FileShows bytes f) (Holds bytes)
      (fileData source bytes) := by
  unfold fileData
  cases htext : fileText bytes with
  | error f => exact .error (.inr (.undecodable (not_isValidUTF8_of_fileText htext)))
  | ok text =>
      dsimp only
      split
      · exact .ok ⟨text, htext, ‹_›⟩
      · exact .error (.inl rfl)
      · rename_i f hmalformed hread
        exact .error (.inr (fileShows_of_read htext hread hmalformed))

theorem load_ends (files : Files) (path : String) :
    Loading.Ends (Explains files path) (fun _ => True) (load files path) := by
  unfold load
  dsimp only
  cases hfile : files (FilePath.normalize path) with
  | regular bytes =>
      refine .bind (.lift ⟨?_, (fileData_gives _ bytes).result⟩) fun d hd => ?_
      · refine (fileData_gives _ bytes).fails.mono fun f hf => ?_
        rcases hf with rfl | hshows
        · exact .property rfl
        · exact .file hfile hshows
      · split
        · exact .bind (.note _ _ _ _) fun _ _ => .pure trivial
        · split
          · rename_i f hf
            refine .throw ?_
            cases ofData_failsOnly _ _ f hf with
            | property h => exact .property h
            | numeral h => exact .numeral hfile hd (Bool.eq_false_iff.mpr h)
          · exact .bind (.note _ _ _ _) fun _ _ => .pure trivial
  | directory => exact .throw (.property rfl)
  | absent => exact .throw (.property rfl)
  | beneathFile => exact .throw (.property rfl)

end Property

/-! ## Settings -/

namespace Data

/-- A mapping whose keys are of a kind. -/
def Keys (K : Data → Prop) (d : Data) : Prop :=
  ∃ entries, d = mapping entries ∧ ∀ p ∈ entries, K p.1

theorem mem_put {k v : Data} {entries : List (Data × Data)} {p : Data × Data}
    (h : p ∈ put k v entries) : p.1 = k ∨ ∃ q ∈ entries, q.1 = p.1 := by
  induction entries with
  | nil => exact .inl (congrArg Prod.fst (List.mem_singleton.mp h))
  | cons q rest ih =>
      rw [put] at h
      split_ifs at h
      · rcases List.mem_cons.mp h with rfl | hrest
        · exact .inr ⟨q, List.mem_cons_self, rfl⟩
        · exact .inr ⟨p, List.mem_cons_of_mem _ hrest, rfl⟩
      · rcases List.mem_cons.mp h with rfl | hrest
        · exact .inr ⟨_, List.mem_cons_self, rfl⟩
        · exact (ih hrest).imp_right fun ⟨r, hr, hkey⟩ => ⟨r, List.mem_cons_of_mem _ hr, hkey⟩

variable {K : Data → Prop} {below above : List (Data × Data)}

theorem overlayEntries_keys (hbelow : ∀ p ∈ below, K p.1) (habove : ∀ p ∈ above, K p.1) :
    ∀ p ∈ overlayEntries below above, K p.1 := by
  induction above generalizing below with
  | nil => rwa [overlayEntries]
  | cons first rest ih =>
      obtain ⟨hfirst, hrest⟩ := List.forall_mem_cons.mp habove
      rw [overlayEntries]
      refine ih (fun p hp => ?_) hrest
      rcases mem_put hp with hkey | ⟨q, hq, hkey⟩
      · exact hkey ▸ hfirst
      · exact hkey ▸ hbelow q hq

theorem Keys.overlaid {d e : Data} (hd : Keys K d) (he : Keys K e) : Keys K (d.overlaid e) := by
  obtain ⟨below, rfl, hbelow⟩ := hd
  obtain ⟨above, rfl, habove⟩ := he
  exact ⟨_, by rw [Data.overlaid], overlayEntries_keys hbelow habove⟩

end Data

namespace Environment

theorem mem_set {env : Environment} {name value : String} {p : String × String}
    (h : p ∈ env.set name value) : p ∈ env ∨ p = (name, value) := by
  induction env with
  | nil => exact .inr (List.mem_singleton.mp h)
  | cons q rest ih =>
      rw [set] at h
      split_ifs at h with hname
      · rcases List.mem_cons.mp h with rfl | hrest
        · exact .inr (by rw [hname])
        · exact .inl (List.mem_cons_of_mem _ hrest)
      · rcases List.mem_cons.mp h with rfl | hrest
        · exact .inl List.mem_cons_self
        · exact (ih hrest).imp_left (List.mem_cons_of_mem _)

theorem mem_of_value? {env : Environment} {name value : String} (h : env.value? name = some value) :
    (name, value) ∈ env := by
  obtain ⟨before, after, hsplit, -⟩ := List.lookup_eq_some_iff.mp h
  rw [← List.mem_reverse, hsplit]
  simp

end Environment

namespace Settings

def sources (s : Surroundings) (path? : Option String) : List String :=
  [match path? with
    | some path => FilePath.normalize path
    | none => FilePath.within s.directory projectFileName,
   FilePath.within s.home userFileName]

/-- What there is to see for a fault of loading the settings. -/
inductive Explains (s : Surroundings) (path? : Option String) : LoadFault → Prop
  | settings (f : SettingsFault) : Explains s path? (.settings f)
  | file {path : String} {bytes : ByteArray} {f : LoadFault} (hpath : path ∈ sources s path?)
      (hbytes : s.files path = .regular bytes) (h : FileShows bytes f) : Explains s path? f
  | nameless {path : String} {bytes : ByteArray} {entries : List (Data × Data)}
      {p : Data × Data} (hpath : path ∈ sources s path?) (hbytes : s.files path = .regular bytes)
      (hd : Holds bytes (.mapping entries)) (hp : p ∈ entries) (h : ∀ name, p.1 ≠ .text name) :
      Explains s path? .namelessSetting
  | variable {name value : String} (hvariable : (name, value) ∈ s.environment)
      (hname : Text.lower name = variablePrefix ++ renderName)
      (h : Json.parse Json.nestingLimit value = .error .malformed) :
      Explains s path? (.badVariable renderName)
  | deepVariable {name value : String} {isObject : Bool}
      (hvariable : (name, value) ∈ s.environment)
      (hname : Text.lower name = variablePrefix ++ renderName)
      (h : Json.parse Json.nestingLimit value = .error (.tooDeep isObject)) :
      Explains s path? (.deepVariable isObject)

theorem mem_lowered {env : Environment} {p : String × String} (h : p ∈ lowered env) :
    ∃ name, (name, p.2) ∈ env ∧ Text.lower name = p.1 := by
  -- every variable that has been taken over is one of those looked at
  suffices hfold : ∀ (rest done : Environment), rest ⊆ env →
      (∀ q ∈ done, ∃ name, (name, q.2) ∈ env ∧ Text.lower name = q.1) →
      ∀ q ∈ rest.foldl (fun done v => done.set (Text.lower v.1) v.2) done,
        ∃ name, (name, q.2) ∈ env ∧ Text.lower name = q.1 from
    hfold env [] (List.Subset.refl _) (fun _ hq => nomatch hq) p h
  intro rest
  induction rest with
  | nil => exact fun done _ hdone => hdone
  | cons v rest ih =>
      intro done hrest hdone
      obtain ⟨hv, hrest⟩ := List.cons_subset.mp hrest
      refine ih _ hrest fun q hq => ?_
      rcases Environment.mem_set hq with hq | rfl
      · exact hdone q hq
      · exact ⟨v.1, hv, rfl⟩

variable {s : Surroundings} {path? : Option String}

theorem variableData_gives {K : Data → Prop} (hK : ∀ name, K (.text name)) :
    Gives (Explains s path?) (Data.Keys K) (variableData s.environment) := by
  have hgroup : FailsOnly (Explains s path?)
      (groupData (lowered s.environment) renderName [depthName]) := by
    unfold groupData
    dsimp only
    split
    · split
      · exact .ok _
      · exact .ok _
    · rename_i value hvalue
      obtain ⟨name, hmem, hname⟩ := mem_lowered (Environment.mem_of_value? hvalue)
      split
      · exact .error (.variable hmem hname ‹_›)
      · exact .error (.deepVariable hmem hname ‹_›)
      · exact .ok _
      · exact .ok _
      · exact .ok _
  unfold variableData
  dsimp only
  refine Gives.bind (Q := fun _ => True) ⟨hgroup, fun _ _ => trivial⟩ fun group _ => ?_
  refine .ok ⟨_, rfl, ?_⟩
  simp only [List.mem_append, Option.mem_toList, Option.map_eq_some_iff]
  rintro p (⟨d, -, rfl⟩ | ⟨word, -, rfl⟩)
  · exact hK _
  · exact hK _

/-- A key that is a text, or else is seen for the fault of a setting that has no name. -/
def Named (s : Surroundings) (path? : Option String) (key : Data) : Prop :=
  (∃ name, key = .text name) ∨ Explains s path? .namelessSetting

theorem named_of_file {path : String} {bytes : ByteArray} {entries : List (Data × Data)}
    (hpath : path ∈ sources s path?) (hbytes : s.files path = .regular bytes)
    (hd : Holds bytes (.mapping entries)) {p : Data × Data} (hp : p ∈ entries) :
    Named s path? p.1 := by
  by_cases hname : ∃ name, p.1 = .text name
  · exact .inl hname
  · exact .inr (.nameless hpath hbytes hd hp (not_exists.mp hname))

theorem fileData_ends {path : String} (hpath : path ∈ sources s path?) :
    Loading.Ends (Explains s path?) (Data.Keys (Named s path?)) (fileData s.files path) := by
  have hempty : Data.Keys (Named s path?) (.mapping []) := ⟨[], rfl, fun _ hp => nomatch hp⟩
  unfold fileData
  split
  · rename_i bytes hbytes
    extract_lets field filled
    have hfilled {text : String} (htext : fileText bytes = .ok text) :
        Loading.Ends (Explains s path?) (Data.Keys (Named s path?)) (filled text) := by
      dsimp only [filled]
      split
      · exact .throw (.settings _)
      · rename_i f hmalformed hread
        exact .throw (.file hpath hbytes (fileShows_of_read htext hread hmalformed))
      · exact .bind (.note _ _ _ _) fun _ _ => .pure hempty
      · rename_i entries hread
        refine .bind (.note _ _ _ _) fun _ _ => .pure ⟨entries, rfl, fun p hp => ?_⟩
        exact named_of_file hpath hbytes ⟨text, htext, hread⟩ hp
      · exact .throw (.settings _)
    split
    · rename_i text htext
      exact .bind (.pure htext) fun _ => hfilled
    · refine .throw_bind ?_ _
      exact .file hpath hbytes (.undecodable (not_isValidUTF8_of_fileText ‹_›))
  · exact .pure hempty

theorem explains_of_not_allNamed {d : Data} (hd : Data.Keys (Named s path?) d)
    (h : allNamed d = false) : Explains s path? .namelessSetting := by
  obtain ⟨entries, rfl, hentries⟩ := hd
  obtain ⟨p, hp, hkey⟩ := List.all_eq_false.mp h
  rcases hentries p hp with ⟨name, hname⟩ | hexplains
  · simp [hname] at hkey
  · exact hexplains

theorem load_ends (s : Surroundings) (path? : Option String) :
    Loading.Ends (Explains s path?) (fun _ => True) (load s path?) := by
  unfold load
  extract_lets project rest
  have hrest (x : Unit) : Loading.Ends (Explains s path?) (fun _ => True) (rest x) := by
    have hsecond : FilePath.within s.home userFileName ∈ sources s path? :=
      List.mem_cons_of_mem _ List.mem_cons_self
    refine .bind (fileData_ends List.mem_cons_self) fun fromProject hproject => ?_
    refine .bind (fileData_ends hsecond) fun fromUser huser => ?_
    have hvariables : Gives (Explains s path?) (Data.Keys (Named s path?))
        (variableData s.environment) := variableData_gives fun name => .inl ⟨name, rfl⟩
    refine .bind (.lift hvariables) fun fromVariables hvariables => ?_
    have hmerged := (huser.overlaid hproject).overlaid hvariables
    dsimp only
    split_ifs with hnamed
    · refine .throw_bind ?_ _
      exact explains_of_not_allNamed hmerged (by simpa using hnamed)
    · split
      · exact .pure trivial
      · exact .throw (.settings _)
  split_ifs
  · exact .bind (.note _ _ _ _) fun x _ => hrest x
  · exact hrest ()

end Settings

/-! ## Both -/

/-- Loading properties fails with a fault of the properties, and loading settings with one
of the settings, or else it is seen why not: in a file, in an integer among the properties,
in the name of a setting or in the variable of a group. -/
theorem load_explained (files : Files) (path : String) (s : Settings.Surroundings)
    (path? : Option String) (fault : LoadFault) :
    ((Property.load files path).outcome.1 = .error fault → Property.Explains files path fault) ∧
    ((Settings.load s path?).outcome.1 = .error fault → Settings.Explains s path? fault) :=
  ⟨(Property.load_ends files path).outcome, (Settings.load_ends s path?).outcome⟩

/-! ### A byte that starts no character -/

/-- A file of one byte that is no text. -/
def strayByte : ByteArray := ⟨#[0xFF]⟩

def strayFault : Text.Utf8.Fault := ⟨0, 1, 0xFF, .badStart⟩

def straySurroundings : Settings.Surroundings := ⟨fun _ => .regular strayByte, [], "/work", "/home"⟩

theorem fileText_strayByte : fileText strayByte = .error strayFault := by
  unfold fileText Text.Utf8.decode
  rw [Text.Utf8.toList_eq]
  rfl

theorem propertyLoad_strayByte :
    (Property.load straySurroundings.files "p.yaml").outcome.1 =
      .error (.undecodable strayFault) := by
  unfold Property.load Property.fileData
  simp only [straySurroundings, FileState.open?, fileText_strayByte]
  rfl

theorem settingsLoad_strayByte :
    (Settings.load straySurroundings none).outcome.1 = .error (.undecodable strayFault) := by
  unfold Settings.load Settings.fileData
  simp only [straySurroundings, FileState.exists?, fileText_strayByte]
  rfl

theorem load_explained_strayByte :
    Property.Explains straySurroundings.files "p.yaml" (.undecodable strayFault) ∧
    Settings.Explains straySurroundings none (.undecodable strayFault) :=
  have h := load_explained straySurroundings.files "p.yaml" straySurroundings none
    (.undecodable strayFault)
  ⟨h.1 propertyLoad_strayByte, h.2 settingsLoad_strayByte⟩

/-- Faults of the properties are not all that loading properties fails with, nor faults of
the settings all that loading settings does. -/
theorem load_undecodable :
    ¬ (∀ (files : Files) (path : String) (fault : LoadFault),
      (Property.load files path).outcome.1 = .error fault → ∃ f, fault = .property f) ∧
    ¬ (∀ (s : Settings.Surroundings) (path? : Option String) (fault : LoadFault),
      (Settings.load s path?).outcome.1 = .error fault → ∃ f, fault = .settings f) := by
  constructor
  · intro hall
    obtain ⟨f, hf⟩ := hall _ _ _ propertyLoad_strayByte
    cases hf
  · intro hall
    obtain ⟨f, hf⟩ := hall _ _ _ settingsLoad_strayByte
    cases hf

end Inlay
