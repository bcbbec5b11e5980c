import Inlay.Proofs.TextFaults

/-!
# Refused scalars

The nodes of a document may be well-formed and still name nothing that exists: a scalar may
be no number, no date or no word of those that its tag allows. Building data looks at the
parts of a document, with the entries that mappings take over among them, and all else that
it objects to makes the document malformed. So a fault of reading a text leads either to a
part that is refused as a scalar or to what the text itself shows (`read_error`).
-/

namespace Inlay

namespace Yaml

/-! ## Parts -/

/-- The parts of a node: itself, and the parts of what it holds. -/
inductive Node.Part (n : Node) : Node → Prop
  | self : Part n n
  | item {t : Tag} {items : List Node} {m : Node} (h : Part n (.sequence t items))
      (hm : m ∈ items) : Part n m
  | key {t : Tag} {entries : List (Node × Node)} {p : Node × Node}
      (h : Part n (.mapping t entries)) (hp : p ∈ entries) : Part n p.1
  | value {t : Tag} {entries : List (Node × Node)} {p : Node × Node}
      (h : Part n (.mapping t entries)) (hp : p ∈ entries) : Part n p.2

namespace Node

/-- A part of a node is refused as a scalar. -/
def Refuses (n : Node) (f : Fault) : Prop :=
  ∃ m text, n.Part m ∧ m.scalarText? = some text ∧ Scalar.read? m.tag text = .error f

/-- A fault of a malformed document or of a part that is refused. -/
inductive Objects (n : Node) : Fault → Prop
  | malformed (reason : Malformed) : Objects n (.malformed reason)
  | refuses {f : Fault} (h : n.Refuses f) : Objects n f

def Offers (n : Node) (entries : List (Node × Node)) : Prop :=
  ∀ p ∈ entries, n.Part p.1 ∧ n.Part p.2

end Node

/-! ## Taking over entries -/

namespace Node

variable {n : Node}

theorem Offers.nil : n.Offers [] := fun _ h => nomatch h

theorem Offers.append {es fs : List (Node × Node)} (hes : n.Offers es) (hfs : n.Offers fs) :
    n.Offers (es ++ fs) :=
  fun p hp => (List.mem_append.mp hp).elim (hes p) (hfs p)

theorem Part.offers {t : Tag} {entries : List (Node × Node)} (h : n.Part (.mapping t entries)) :
    n.Offers entries :=
  fun _ hp => ⟨h.key hp, h.value hp⟩

/-- Entries that are taken over are those of parts. -/
theorem mergedEntries_gives {m : Node} (hm : n.Part m) :
    Gives n.Objects n.Offers m.mergedEntries := by
  suffices hall :
      (∀ m, n.Part m → Gives n.Objects n.Offers (mergedEntries m)) ∧
      (∀ entries, n.Offers entries →
        Gives n.Objects (fun r => n.Offers r.1 ∧ n.Offers r.2) (splitEntries entries)) ∧
      ∀ items, (∀ m ∈ items, n.Part m) → Gives n.Objects n.Offers (mergedItems items) from
    hall.1 m hm
  apply mergedEntries.mutual_induct
  case case1 =>
    intro t entries ih hm
    rw [mergedEntries]
    exact (ih hm.offers).map fun _ h => h.1.append h.2
  case case2 =>
    intro m hne _
    rw [mergedEntries]
    · exact .ok .nil
    · exact hne
  case case3 =>
    intro _
    rw [mergedItems]
    exact .ok .nil
  case case4 =>
    intro rest t entries ihrest ih hitems
    obtain ⟨hm, hrest⟩ := List.forall_mem_cons.mp hitems
    rw [mergedItems]
    exact (ih hm).bind fun _ hfirst => (ihrest hrest).bind fun _ hmore => .ok (hmore.append hfirst)
  case case5 =>
    intro rest t ihrest hitems
    rw [mergedItems]
    exact (ihrest (List.forall_mem_cons.mp hitems).2).bind fun _ hmore => .ok (hmore.append .nil)
  case case6 =>
    intro m rest hmapping henclosing _ _
    rw [mergedItems]
    · exact .error (.malformed _)
    · exact hmapping
    · exact henclosing
  case case7 =>
    intro _
    rw [splitEntries]
    exact .ok ⟨.nil, .nil⟩
  case case8 =>
    intro k rest hk t entries ihrest ih hentries
    obtain ⟨hfirst, hrest⟩ := List.forall_mem_cons.mp hentries
    rw [splitEntries, if_pos hk]
    exact (ih hfirst.2).bind fun _ hinherited => (ihrest hrest).bind fun _ h =>
      .ok ⟨hinherited.append h.1, h.2⟩
  case case9 =>
    intro k rest hk t items ihrest ih hentries
    obtain ⟨hfirst, hrest⟩ := List.forall_mem_cons.mp hentries
    rw [splitEntries, if_pos hk]
    exact (ih fun _ hm => hfirst.2.item hm).bind fun _ hinherited => (ihrest hrest).bind fun _ h =>
      .ok ⟨hinherited.append h.1, h.2⟩
  case case10 =>
    intro k rest hk t ihrest hentries
    obtain ⟨-, hrest⟩ := List.forall_mem_cons.mp hentries
    rw [splitEntries, if_pos hk]
    exact (ihrest hrest).bind fun _ h => .ok ⟨Offers.nil.append h.1, h.2⟩
  case case11 =>
    intro k v rest hk hmapping hsequence henclosing _ _
    rw [splitEntries, if_pos hk]
    cases v with
    | scalar t text => exact .error (.malformed _)
    | sequence t items => exact (hsequence t items rfl).elim
    | mapping t entries => exact (hmapping t entries rfl).elim
    | enclosing t isMapping =>
        cases isMapping with
        | false => exact .error (.malformed _)
        | true => exact (henclosing t rfl).elim
  case case12 =>
    intro k v rest hk ihrest hentries
    obtain ⟨hfirst, hrest⟩ := List.forall_mem_cons.mp hentries
    rw [splitEntries, if_neg hk]
    exact (ihrest hrest).bind fun _ h => .ok ⟨h.1, List.forall_mem_cons.mpr ⟨hfirst, h.2⟩⟩

/-! ## Building data -/

/-- Building fails only as a node objects. -/
def Fair {α : Type} (n : Node) (x : Build α) : Prop := FailsOnly (fun f => n.Objects f.fault) x

namespace Fair

variable {α β : Type} {x : Build α} {y : Build β}

theorem fail (level : Nat) (reason : Malformed) : n.Fair (Build.fail level reason : Build α) :=
  FailsOnly.error (.malformed reason)

theorem both (hx : n.Fair x) (hy : n.Fair y) : n.Fair (Build.both x y) := by
  cases x with
  | ok a =>
      cases y with
      | ok b => exact .ok _
      | error g => exact .error (hy g rfl)
  | error f =>
      cases y with
      | ok b => exact .error (hx f rfl)
      | error g =>
          refine .error ?_
          split_ifs
          · exact hy g rfl
          · exact hx f rfl

theorem all {xs : List (Build α)} (h : ∀ x ∈ xs, n.Fair x) : n.Fair (Build.all xs) := by
  induction xs with
  | nil => exact .ok _
  | cons x xs ih =>
      obtain ⟨hx, hxs⟩ := List.forall_mem_cons.mp h
      exact (hx.both (ih hxs)).map _

end Fair

/-- Data is built fairly from all parts of a node, and from texts. -/
structure FairBuilder (n : Node) (build : Node → Build Data) : Prop where
  part : ∀ m, n.Part m → n.Fair (build m)
  text : ∀ text, n.Fair (build (scalar .text text))

theorem withKeyTag_cases (k : Node) :
    k.withKeyTag = k ∨ ∃ text, k.withKeyTag = scalar .text text := by
  unfold withKeyTag
  split
  · exact .inr ⟨_, rfl⟩
  · exact .inl rfl

section

variable {build : Node → Build Data} (hbuild : n.FairBuilder build)
include hbuild

theorem fair_entryOf (level : Nat) {k v : Node} (hk : n.Part k) (hv : n.Part v) :
    n.Fair (entryOf build level k v) := by
  have hkey : n.Fair (build k.withKeyTag) := by
    rcases withKeyTag_cases k with h | ⟨text, h⟩ <;> rw [h]
    · exact hbuild.part k hk
    · exact hbuild.text text
  unfold entryOf
  split
  · exact .error (hkey _ ‹_›)
  · split_ifs
    · exact (hbuild.part v hv).map _
    · exact .fail _ _

theorem fair_entriesOf (level : Nat) {m : Node} (hm : n.Part m) :
    n.Fair (entriesOf build level m) := by
  unfold entriesOf
  split
  · have hmerged := mergedEntries_gives hm
    split
    · exact .error (hmerged.fails _ ‹_›)
    · rename_i entries hentries
      refine (Fair.all ?_).map _
      rintro _ hx
      obtain ⟨p, hp, rfl⟩ := List.mem_map.mp hx
      obtain ⟨hk, hv⟩ := hmerged.result entries hentries p hp
      exact fair_entryOf hbuild level hk hv
  · exact .fail _ _

theorem fair_pairsOf (level : Nat) {m : Node} (hm : n.Part m) :
    n.Fair (pairsOf build level m) := by
  unfold pairsOf
  split
  · refine .all ?_
    rintro _ hx
    obtain ⟨i, hi, rfl⟩ := List.mem_map.mp hx
    have hpart := hm.item hi
    split
    · exact .both (hbuild.part _ (hpart.key List.mem_cons_self))
        (hbuild.part _ (hpart.value List.mem_cons_self))
    · exact .fail _ _
  · exact .fail _ _

theorem fair_itemsOf (level : Nat) {m : Node} (hm : n.Part m) :
    n.Fair (itemsOf build level m) := by
  unfold itemsOf
  split
  · refine .all ?_
    rintro _ hx
    obtain ⟨i, hi, rfl⟩ := List.mem_map.mp hx
    exact hbuild.part i (hm.item hi)
  · exact .fail _ _

end

theorem fair_build (height level : Nat) : n.FairBuilder (build height level) := by
  induction height generalizing level with
  | zero => exact ⟨fun _ _ => .fail _ _, fun _ => .fail _ _⟩
  | succ height ih =>
      refine ⟨fun m hm => ?_, fun _ => .ok _⟩
      unfold build
      dsimp only
      split
      · exact .ok _
      · split
        · exact (fair_itemsOf (ih _) _ hm).map _
        · exact (fair_entriesOf (ih _) _ hm).map _
        · exact (fair_entriesOf (ih _) _ hm).map _
        · exact (fair_pairsOf (ih _) _ hm).map _
        · exact (fair_pairsOf (ih _) _ hm).map _
        · exact .fail _ _
        · split
          · exact .fail _ _
          · rename_i text htext
            split
            · exact .ok _
            · exact .fail _ _
            · exact .error (.refuses ⟨m, text, hm, htext, ‹_›⟩)

end Node

/-- A text that holds no data shows why, or its document has a part that is refused. -/
theorem read_error {text : String} {f : Fault} (h : read text = .error f) :
    TextShows text f ∨ ∃ n, Node.ofText? text = .ok (some n) ∧ n.Refuses f := by
  unfold read at h
  split at h
  · rename_i hfault
    cases h
    exact .inl (ofText?_failsOnly text _ hfault)
  · cases h
  · rename_i n hn
    split at h
    · cases h
    · rename_i fault hfault
      cases h
      have hobjects : n.Objects fault.fault := (n.fair_build n.height 0).part n .self fault hfault
      generalize fault.fault = f at hobjects ⊢
      cases hobjects with
      | malformed reason => exact .inl (.characters (.malformed reason))
      | refuses hrefuses => exact .inr ⟨n, hn, hrefuses⟩

end Yaml

end Inlay
