import RecordForms.Proofs.Saving

/-! Why a stored value is refused. A node is looked for among the finished ones before its settings
are built and again behind them; either way an id that is found was met twice. -/
namespace RecordForms

namespace LoadM

variable {σ α β : Type}

theorem bind_eq_error {x : LoadM σ α} {f : α → LoadM σ β} {before after : Loading σ}
    {cause : LoadError} :
    (x >>= f) before = .error cause after ↔ x before = .error cause after ∨
      ∃ a between, x before = .ok a between ∧ f a between = .error cause after := by
  simp only [bind, EStateM.bind]
  cases x before <;> simp

theorem pure_ne_error {a : α} {before after : Loading σ} {cause : LoadError} :
    (pure a : LoadM σ α) before ≠ .error cause after :=
  nofun

theorem checkNew_eq_error {id : NodeId} {before after : Loading σ} {cause : LoadError}
    (h : checkNew id before = .error cause after) :
    cause = .duplicateId id ∧ before.nodes.contains id = true := by
  unfold checkNew at h
  split at h
  next hmem => exact ⟨(EStateM.Result.error.inj h).1.symm, hmem⟩
  next => cases h

theorem finish_eq_error {decorate : Decorator σ} {id concept : String} {settings : Settings}
    {before after : Loading σ} {cause : LoadError}
    (h : finish decorate id concept settings before = .error cause after) :
    cause = .duplicateId id ∧ before.nodes.contains id = true := by
  unfold finish at h
  dsimp only at h
  split at h
  next hmem => exact ⟨(EStateM.Result.error.inj h).1.symm, hmem⟩
  next => cases h

end LoadM

namespace Loading

variable {σ : Type}

def Repeats (loading : Loading σ) (ids : List NodeId) (id : NodeId) : Prop :=
  2 ≤ (if loading.nodes.contains id then 1 else 0) + ids.count id

theorem repeats_of_contains {loading : Loading σ} {ids : List NodeId} {id : NodeId}
    (h : loading.nodes.contains id = true) (hid : id ∈ ids) : loading.Repeats ids id := by
  have hpos := List.count_pos_iff.mpr hid
  unfold Repeats
  rw [if_pos h]
  omega

theorem Repeats.append {loading : Loading σ} {left : List NodeId} {id : NodeId}
    (h : loading.Repeats left id) (right : List NodeId) : loading.Repeats (left ++ right) id := by
  unfold Repeats at h ⊢
  rw [List.count_append]
  omega

theorem Repeats.behind {decorate : Decorator σ} {loading : Loading σ} {nodes : List Node}
    {right : List NodeId} {id : NodeId} (h : (loading.takeAll decorate nodes).Repeats right id) :
    loading.Repeats (nodes.map Node.id ++ right) id := by
  have hcontains := contains_takeAll decorate loading nodes id
  unfold Repeats at h ⊢
  rw [List.count_append]
  by_cases hold : loading.nodes.contains id = true
  · rw [hcontains.mpr (.inl hold)] at h
    rw [hold]
    omega
  · by_cases hnew : id ∈ nodes.map Node.id
    · have hpos := List.count_pos_iff.mpr hnew
      rw [hcontains.mpr (.inr hnew)] at h
      simp only [↓reduceIte] at h
      omega
    · have hfalse : ¬(loading.takeAll decorate nodes).nodes.contains id = true := by
        rw [hcontains]
        exact not_or.mpr ⟨hold, hnew⟩
      rw [if_neg hfalse] at h
      omega

end Loading

namespace Stored

variable {σ : Type} {decorate : Decorator σ}

def RefusesRepeats (decorate : Decorator σ) (stored : Stored) : Prop :=
  ∀ {before after : Loading σ} {cause : LoadError},
    stored.build decorate before = .error cause after →
      ∃ id, cause = .duplicateId id ∧ before.Repeats stored.ids id

theorem buildItems_eq_error {items : List Stored} (h : ∀ item ∈ items, item.RefusesRepeats decorate)
    {before after : Loading σ} {cause : LoadError}
    (hbuild : buildItems decorate items before = .error cause after) :
    ∃ id, cause = .duplicateId id ∧ before.Repeats ((nodesOfItems items).map Node.id) id := by
  induction items generalizing before with
  | nil => cases hbuild
  | cons item items ih =>
    obtain ⟨hitem, hitems⟩ := List.forall_mem_cons.mp h
    rw [nodesOfItems, List.map_append]
    rw [buildItems, LoadM.bind_eq_error] at hbuild
    rcases hbuild with hfail | ⟨value, between, hvalue, hrest⟩
    · obtain ⟨id, rfl, hrepeats⟩ := hitem hfail
      exact ⟨id, rfl, hrepeats.append _⟩
    · obtain ⟨-, -, rfl⟩ := (builds decorate item).mp hvalue
      rcases LoadM.bind_eq_error.mp hrest with hfail | ⟨_, _, _, hpure⟩
      · obtain ⟨id, rfl, hrepeats⟩ := ih hitems hfail
        exact ⟨id, rfl, hrepeats.behind⟩
      · exact absurd hpure LoadM.pure_ne_error

theorem buildSettings_eq_error_iff {settings : List (String × Stored)} {before after : Loading σ}
    {cause : LoadError} :
    buildSettings decorate settings before = .error cause after ↔
      buildItems decorate (settings.map (·.2)) before = .error cause after := by
  induction settings generalizing before with
  | nil => exact iff_of_false nofun nofun
  | cons e settings ih =>
    simp only [List.map_cons, buildSettings, buildItems, LoadM.bind_eq_error, ih,
      LoadM.pure_ne_error, and_false, exists_false, or_false]

theorem refusesRepeats_node {id concept : String} {settings : List (String × Stored)}
    (h : ∀ e ∈ settings, e.2.RefusesRepeats decorate) :
    (Stored.node id concept settings).RefusesRepeats decorate := by
  intro before after cause hbuild
  rw [ids, nodes, List.map_append, List.map_singleton]
  rw [build, LoadM.bind_eq_error] at hbuild
  rcases hbuild with hcheck | ⟨_, between, hcheck, hrest⟩
  · -- the id of a node that was finished before
    obtain ⟨rfl, hmem⟩ := LoadM.checkNew_eq_error hcheck
    exact ⟨id, rfl, Loading.repeats_of_contains hmem (by simp)⟩
  obtain ⟨-, rfl⟩ := LoadM.checkNew_eq_ok.mp hcheck
  rcases LoadM.bind_eq_error.mp hrest with hfail | ⟨entries, between, hentries, hrest⟩
  · obtain ⟨repeated, rfl, hrepeats⟩ := buildItems_eq_error (List.forall_mem_map.mpr h)
      (buildSettings_eq_error_iff.mp hfail)
    rw [nodesOfItems_eq, ← nodesOfSettings_eq] at hrepeats
    exact ⟨repeated, rfl, hrepeats.append _⟩
  obtain ⟨-, -, rfl⟩ := (buildSettings_eq_ok fun e _ => builds decorate e.2).mp hentries
  rcases LoadM.bind_eq_error.mp hrest with hfinish | ⟨_, _, _, hpure⟩
  · -- the id of a node below this one
    obtain ⟨rfl, hmem⟩ := LoadM.finish_eq_error hfinish
    exact ⟨id, rfl, (Loading.repeats_of_contains hmem List.mem_cons_self).behind⟩
  · exact absurd hpure LoadM.pure_ne_error

theorem refusesRepeats (decorate : Decorator σ) (stored : Stored) :
    stored.RefusesRepeats decorate := by
  induction stored using Stored.induction with
  | node id concept settings ih => exact refusesRepeats_node ih
  | list items ih =>
    intro before after cause hbuild
    rw [build, LoadM.bind_eq_error] at hbuild
    rcases hbuild with hfail | ⟨_, _, _, hpure⟩
    · exact buildItems_eq_error ih hfail
    · exact absurd hpure LoadM.pure_ne_error
  | _ =>
    intro before after cause hbuild
    cases hbuild

end Stored

namespace Document

theorem load_of_not_node {stored : Stored}
    (h : ¬∃ id concept settings, stored = .node id concept settings) :
    load stored = .error .rootNotANode := by
  cases stored with
  | node id concept settings => exact absurd ⟨id, concept, settings, rfl⟩ h
  | _ => rfl

theorem duplicateId_of_load {id concept : String} {settings : List (String × Stored)}
    {cause : LoadError} (h : load (.node id concept settings) = .error cause) :
    ∃ repeated, cause = .duplicateId repeated ∧
      2 ≤ (Stored.node id concept settings).ids.count repeated := by
  rw [load, loadWith] at h
  split at h
  next => cases h
  next found loading hbuild =>
    obtain ⟨repeated, hcause, hrepeats⟩ := Stored.refusesRepeats _ _ hbuild
    refine ⟨repeated, (Except.error.inj h).symm.trans hcause, ?_⟩
    simpa [Loading.Repeats, TextMap.contains] using hrepeats

theorem exists_load_iff {stored : Stored} :
    (∃ doc, load stored = .ok doc) ↔
      (∃ id concept settings, stored = .node id concept settings) ∧ stored.ids.Nodup := by
  constructor
  · rintro ⟨doc, h⟩
    obtain ⟨⟨concept, settings, hstored⟩, nodup, -⟩ := load_eq_ok.mp h
    exact ⟨⟨doc.root, concept, settings, hstored⟩, nodup⟩
  · rintro ⟨⟨id, concept, settings, rfl⟩, nodup⟩
    cases h : load (.node id concept settings) with
    | ok doc => exact ⟨doc, rfl⟩
    | error cause =>
      obtain ⟨repeated, -, htwice⟩ := duplicateId_of_load h
      have honce := List.nodup_iff_count_le_one.mp nodup repeated
      omega

theorem leads_of_load {stored : Stored} {doc : Document} (h : load stored = .ok doc)
    (sorted : stored.Sorted) {id : NodeId} (hid : doc.contains id = true) :
    doc.Leads doc.root id := by
  have forest := forest_load h
  obtain ⟨node, hget⟩ := contains_iff.mp hid
  obtain ⟨hnode, rfl⟩ := (get?_of_load h).mp hget
  rw [← save_load h sorted, save, (nodes_saveId_perm forest doc.root_mem).mem_iff] at hnode
  exact ((mem_tree_iff forest).mp hnode).2

/-- A stored value is loaded exactly if it is a node and all ids in it are different. What is refused
otherwise is no node, or has an id twice. What is loaded is all that is saved again. -/
theorem load_outcome {stored : Stored} (sorted : stored.Sorted) :
    ((∃ doc, load stored = .ok doc) ↔
        (∃ id concept settings, stored = .node id concept settings) ∧ stored.ids.Nodup) ∧
      ((¬∃ id concept settings, stored = .node id concept settings) →
        load stored = .error .rootNotANode) ∧
      ((∃ id concept settings, stored = .node id concept settings) →
        ∀ cause, load stored = .error cause →
          ∃ repeated, cause = .duplicateId repeated ∧ 2 ≤ stored.ids.count repeated) ∧
      ∀ doc, load stored = .ok doc →
        (∀ id, doc.contains id = true → doc.Leads doc.root id) ∧ doc.save = stored := by
  refine ⟨exists_load_iff, load_of_not_node, ?_, fun doc h => ⟨?_, save_load h sorted⟩⟩
  · rintro ⟨id, concept, settings, rfl⟩ cause h
    exact duplicateId_of_load h
  · intro id hid
    exact leads_of_load h sorted hid

/-- A node below itself, which is found only when the outer one is finished. -/
theorem load_outcome_nested :
    let inner := Stored.node "a" "Number" []
    let outer := Stored.node "a" "Sum" [("parts", .list [.reference (some "b"), inner])]
    let stored := Stored.node "r" "Record Type" [("total", outer)]
    stored.Sorted ∧ outer.Sorted ∧ load stored = .error (.duplicateId "a") ∧
      2 ≤ stored.ids.count "a" ∧ ∃ doc, load inner = .ok doc ∧ doc.save = inner := by
  intro inner outer stored
  have hinner : inner.Sorted := ⟨.nil, trivial⟩
  have houter : outer.Sorted := ⟨List.pairwise_singleton _ _, ⟨trivial, hinner, trivial⟩, trivial⟩
  have hstored : stored.Sorted := ⟨List.pairwise_singleton _ _, houter, trivial⟩
  have hfail : load stored = .error (.duplicateId "a") := by rfl
  obtain ⟨repeated, hcause, htwice⟩ := (load_outcome hstored).2.2.1 ⟨_, _, _, rfl⟩ _ hfail
  obtain ⟨doc, hdoc⟩ := (load_outcome hinner).1.mpr ⟨⟨_, _, _, rfl⟩, List.nodup_singleton _⟩
  cases LoadError.duplicateId.inj hcause
  exact ⟨hstored, houter, hfail, htwice, doc, hdoc, ((load_outcome hinner).2.2.2 doc hdoc).2⟩

end Document

end RecordForms
