import Inlay.Proofs.LoadFaults
import Inlay.Proofs.Results

/-!
# Names in mappings

What a mapping has under a name, when one mapping is laid over another. The upper one
counts more, and where both have a mapping under the name the two are merged in turn
(`Data.find?_overlayEntries`). This needs that the upper mapping has the name once at
most, which is so in all data that is read from a document (`Yaml.read_distinctNames`).
-/

namespace Inlay

namespace Data

theorem sameKey_text {k : Data} {s : String} : sameKey k (text s) = true ↔ k = text s := by
  cases k with
  | text t => exact beq_iff_eq.trans ⟨congrArg _, text.inj⟩
  | float x => cases x <;> constructor <;> intro h <;> cases h
  | _ => constructor <;> intro h <;> cases h

theorem text_sameKey {k : Data} {s : String} : sameKey (text s) k = true ↔ k = text s := by
  cases k with
  | text t => exact beq_iff_eq.trans ⟨fun h => congrArg _ h.symm, fun h => (text.inj h).symm⟩
  | _ => constructor <;> intro h <;> cases h

/-! ## Entries -/

section

variable {entries : List (Data × Data)} {s : String} {k v : Data}

theorem find?_cons (key : Data) :
    find? ((k, v) :: entries) key = if sameKey k key then some v else find? entries key := by
  unfold find?
  rw [List.find?_cons]
  dsimp only
  cases sameKey k key <;> rfl

theorem find?_cons_self : find? ((text s, v) :: entries) (text s) = some v := by
  rw [find?_cons, if_pos (sameKey_text.mpr rfl)]

theorem find?_cons_of_ne (h : k ≠ text s) :
    find? ((k, v) :: entries) (text s) = find? entries (text s) := by
  rw [find?_cons, if_neg fun hsame => h (sameKey_text.mp hsame)]

theorem find?_eq_none (h : ∀ p ∈ entries, p.1 ≠ text s) : find? entries (text s) = none := by
  unfold find?
  rw [List.find?_eq_none.mpr fun p hp hsame => h p hp (sameKey_text.mp hsame)]
  rfl

theorem find?_put_self : find? (put (text s) v entries) (text s) = some v := by
  induction entries with
  | nil => exact find?_cons_self
  | cons q rest ih =>
      obtain ⟨l, w⟩ := q
      rw [put]
      split_ifs with hsame
      · rw [sameKey_text.mp hsame]
        exact find?_cons_self
      · rw [find?_cons_of_ne fun heq => hsame (sameKey_text.mpr heq), ih]

theorem find?_put_of_ne (h : k ≠ text s) :
    find? (put k v entries) (text s) = find? entries (text s) := by
  induction entries with
  | nil => exact find?_cons_of_ne h
  | cons q rest ih =>
      obtain ⟨l, w⟩ := q
      rw [put]
      split_ifs with hsame
      · -- an entry that is replaced has not the name either
        have hl : l ≠ text s := by
          rintro rfl
          exact h (text_sameKey.mp hsame)
        rw [find?_cons_of_ne hl, find?_cons_of_ne hl]
      · by_cases hl : l = text s
        · subst hl
          rw [find?_cons_self, find?_cons_self]
        · rw [find?_cons_of_ne hl, find?_cons_of_ne hl, ih]

theorem forall_mem_put {P : Data → Prop} (hv : P v) (h : ∀ p ∈ entries, P p.2) :
    ∀ p ∈ put k v entries, P p.2 := by
  induction entries with
  | nil => simpa [put] using hv
  | cons q rest ih =>
      obtain ⟨hq, hrest⟩ := List.forall_mem_cons.mp h
      rw [put]
      split_ifs
      · exact List.forall_mem_cons.mpr ⟨hv, hrest⟩
      · exact List.forall_mem_cons.mpr ⟨hq, ih hrest⟩

end

/-! ## Names that are there once -/

/-- No name is the key of two entries. -/
def NamesDiffer (entries : List (Data × Data)) : Prop :=
  entries.Pairwise fun p q => ∀ s, p.1 = text s → q.1 ≠ text s

theorem NamesDiffer.put {entries : List (Data × Data)} (h : NamesDiffer entries) (k v : Data) :
    NamesDiffer (put k v entries) := by
  induction entries with
  | nil => exact List.pairwise_singleton _ _
  | cons q rest ih =>
      obtain ⟨l, w⟩ := q
      obtain ⟨hfirst, hrest⟩ := List.pairwise_cons.mp h
      rw [Data.put]
      split_ifs with hsame
      · exact List.pairwise_cons.mpr ⟨hfirst, hrest⟩
      · refine List.pairwise_cons.mpr ⟨fun p hp s hl => ?_, ih hrest⟩
        rcases mem_put hp with hk | ⟨r, hr, hk⟩
        · rw [hk]
          rintro rfl
          rw [show l = text s from hl] at hsame
          exact hsame (sameKey_text.mpr rfl)
        · rw [← hk]
          exact hfirst r hr s hl

/-- Every mapping in the data that is reached through mappings has each name once. -/
inductive DistinctNames : Data → Prop
  | mapping {entries : List (Data × Data)} (hdiffer : NamesDiffer entries)
      (h : ∀ p ∈ entries, DistinctNames p.2) : DistinctNames (mapping entries)
  | other {d : Data} (h : ∀ entries, d ≠ .mapping entries) : DistinctNames d

theorem DistinctNames.differ {entries : List (Data × Data)}
    (h : DistinctNames (Data.mapping entries)) : NamesDiffer entries := by
  cases h with
  | mapping hdiffer _ => exact hdiffer
  | other h => exact absurd rfl (h entries)

theorem DistinctNames.value {entries : List (Data × Data)}
    (h : DistinctNames (Data.mapping entries)) {k d : Data} (hd : find? entries k = some d) :
    DistinctNames d := by
  obtain ⟨l, hp⟩ := mem_of_find? hd
  cases h with
  | mapping _ h => exact h _ hp
  | other h => exact absurd rfl (h entries)

theorem DistinctNames.distinct {entries : List (Data × Data)}
    (h : ∀ p ∈ entries, DistinctNames p.2) : DistinctNames (.mapping (distinct entries)) := by
  suffices hfold : ∀ done : List (Data × Data), NamesDiffer done →
      (∀ p ∈ done, DistinctNames p.2) →
      DistinctNames (.mapping (entries.foldl (fun done p => put p.1 p.2 done) done)) from
    hfold [] List.Pairwise.nil (fun _ hp => nomatch hp)
  induction entries with
  | nil => exact fun done hdiffer hdone => .mapping hdiffer hdone
  | cons p rest ih =>
      obtain ⟨hp, hrest⟩ := List.forall_mem_cons.mp h
      exact fun done hdiffer hdone => ih hrest _ (hdiffer.put p.1 p.2) (forall_mem_put hp hdone)

/-! ## One mapping over another -/

/-- What is under a name in two mappings, the second one over the first. -/
def overlaid? (below : Option Data) : Option Data → Option Data
  | some above => some (below.elim above fun old => old.overlaid above)
  | none => below

theorem find?_overlayEntries {above : List (Data × Data)} (h : NamesDiffer above)
    (below : List (Data × Data)) (s : String) :
    find? (overlayEntries below above) (text s) =
      overlaid? (find? below (text s)) (find? above (text s)) := by
  induction above generalizing below with
  | nil =>
      rw [overlayEntries]
      rfl
  | cons p rest ih =>
      obtain ⟨k, v⟩ := p
      obtain ⟨hfirst, hrest⟩ := List.pairwise_cons.mp h
      rw [overlayEntries, ih hrest]
      by_cases hk : k = text s
      · subst hk
        rw [find?_put_self, find?_cons_self, find?_eq_none fun q hq => hfirst q hq s rfl]
        cases find? below (text s) <;> rfl
      · rw [find?_put_of_ne hk, find?_cons_of_ne hk]

end Data

/-! ## Data that is read -/

namespace Yaml

theorem Build.mem_of_all {α : Type} {xs : List (Build α)} {as : List α}
    (h : Build.all xs = .ok as) {a : α} (ha : a ∈ as) : .ok a ∈ xs := by
  induction xs generalizing as with
  | nil => cases h; cases ha
  | cons x xs ih =>
      rw [Build.all] at h
      cases x with
      | error f => cases hall : Build.all xs <;> rw [hall] at h <;> cases h
      | ok b =>
          cases hall : Build.all xs with
          | error f => rw [hall] at h; cases h
          | ok bs =>
              rw [hall] at h
              cases h
              rcases List.mem_cons.mp ha with rfl | hrest
              · exact List.mem_cons_self
              · exact List.mem_cons_of_mem _ (ih hall hrest)

/-- A scalar stands for no mapping. -/
theorem Scalar.read?_ne_mapping {tag : Tag} {t : String} {entries : List (Data × Data)}
    (h : Scalar.read? tag t = .ok (some (.mapping entries))) : False := by
  cases tag with
  | boolean | integer | float | binary | moment =>
      obtain ⟨_, -, hd⟩ := exists_of_map_eq_ok h
      cases hd
  | _ => cases h

namespace Node

theorem entryOf_value {build : Node → Build Data} {level : Nat} {k v : Node} {p : Data × Data}
    (h : entryOf build level k v = .ok p) : build v = .ok p.2 := by
  unfold entryOf at h
  split at h
  · cases h
  · split_ifs at h
    · obtain ⟨value, hv, rfl⟩ := exists_of_map_eq_ok h
      exact hv
    · cases h

/-- The mapping of a node has distinct names at each level, if what is in it has. -/
theorem distinctNames_of_entriesOf {build : Node → Build Data} {level : Nat} {n : Node}
    (hbuild : ∀ n d, build n = .ok d → d.DistinctNames) {entries : List (Data × Data)}
    (h : entriesOf build level n = .ok entries) : (Data.mapping entries).DistinctNames := by
  unfold entriesOf at h
  split at h
  · split at h
    · cases h
    · obtain ⟨raw, hall, rfl⟩ := exists_of_map_eq_ok h
      refine .distinct fun p hp => ?_
      obtain ⟨⟨k, v⟩, -, hentry⟩ := List.mem_map.mp (Build.mem_of_all hall hp)
      exact hbuild v p.2 (entryOf_value hentry)
  · cases h

theorem build_distinctNames (height level : Nat) {n : Node} {d : Data}
    (h : n.build height level = .ok d) : d.DistinctNames := by
  induction height generalizing level n d with
  | zero => cases h
  | succ height ih =>
      by_cases hmapping : ∃ entries, d = .mapping entries
      · obtain ⟨entries, rfl⟩ := hmapping
        rw [build] at h
        case x =>
          rintro tag isMapping rfl
          cases h
        -- only a mapping stands for one
        split at h
        · obtain ⟨_, -, hd⟩ := exists_of_map_eq_ok h
          cases hd
        · obtain ⟨entries, hentries, hd⟩ := exists_of_map_eq_ok h
          cases hd
          exact distinctNames_of_entriesOf (fun _ _ => ih _) hentries
        · obtain ⟨_, -, hd⟩ := exists_of_map_eq_ok h
          cases hd
        · obtain ⟨_, -, hd⟩ := exists_of_map_eq_ok h
          cases hd
        · obtain ⟨_, -, hd⟩ := exists_of_map_eq_ok h
          cases hd
        · cases h
        · split at h
          · cases h
          · split at h
            · cases h
              exact absurd ‹_› Scalar.read?_ne_mapping
            · cases h
            · cases h
      · exact .other fun entries heq => hmapping ⟨entries, heq⟩

end Node

theorem read_distinctNames {text : String} {d : Data} (h : read text = .ok d) :
    d.DistinctNames := by
  unfold read at h
  split at h
  · cases h
  · cases h
    exact .other fun _ h => nomatch h
  · split at h
    · rename_i hbuild
      cases h
      exact Node.build_distinctNames _ _ hbuild
    · cases h

end Yaml

end Inlay
