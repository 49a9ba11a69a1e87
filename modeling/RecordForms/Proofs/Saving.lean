import Mathlib.Data.List.Perm.Basic
import RecordForms.Proofs.Reachable
import RecordForms.Stored.Save

/-! Saving and loading. What is saved holds the nodes that the root leads to, each once, so loading
it gives back the document without the nodes that the root does not lead to. -/
namespace RecordForms

namespace Value

@[simp] theorem saveAllWith_eq (child : NodeId → Stored) (items : List Value) :
    saveAllWith child items = items.map (saveWith child) := by
  induction items with
  | nil => rfl
  | cons item items ih => simp [saveAllWith, ih]

theorem saveWith_congr {f g : NodeId → Stored} {value : Value}
    (h : ∀ id ∈ value.owned, f id = g id) : value.saveWith f = value.saveWith g := by
  induction value using Value.induction with
  | node id => exact h id (by simp [owned])
  | list items ih =>
    rw [owned_list] at h
    simp only [saveWith, saveAllWith_eq]
    refine congrArg Stored.list (List.map_congr_left fun item hitem => ih item hitem fun id hid => ?_)
    exact h id (List.mem_flatMap.mpr ⟨item, hitem, hid⟩)
  | _ => simp [saveWith]

/-- A value is what is held of it when it is saved, if its nodes are saved under their ids. -/
theorem held_saveWith {child : NodeId → Stored} {value : Value}
    (h : ∀ id ∈ value.owned, (child id).held = .node id) : (value.saveWith child).held = value := by
  induction value using Value.induction with
  | node id => exact h id (by simp [owned])
  | list items ih =>
    rw [owned_list] at h
    simp only [saveWith, saveAllWith_eq, Stored.held, Stored.heldItems_eq, List.map_map]
    have hitems : ∀ item ∈ items, (item.saveWith child).held = item := fun item hitem =>
      ih item hitem fun id hid => h id (List.mem_flatMap.mpr ⟨item, hitem, hid⟩)
    exact congrArg Value.list ((List.map_congr_left hitems).trans (List.map_id' _))
  | _ => simp [saveWith, Stored.held]

@[simp] theorem nodes_saveWith (child : NodeId → Stored) (value : Value) :
    (value.saveWith child).nodes = value.owned.flatMap fun id => (child id).nodes := by
  induction value using Value.induction with
  | node id => simp [saveWith, owned]
  | list items ih =>
    simp only [saveWith, saveAllWith_eq, owned_list, Stored.nodes_list, List.flatMap_map,
      List.flatMap_assoc]
    exact List.flatMap_congr ih
  | _ => simp [saveWith, owned, Stored.nodes]

end Value

namespace Stored

mutual

/-- The settings of every node in the value are in increasing order. -/
def Sorted : Stored → Prop
  | .node _ _ settings =>
    (settings.Pairwise fun a b => a.1 < b.1) ∧ SortedSettings settings
  | .list items => SortedItems items
  | _ => True

def SortedItems : List Stored → Prop
  | [] => True
  | item :: items => item.Sorted ∧ SortedItems items

def SortedSettings : List (String × Stored) → Prop
  | [] => True
  | (_, item) :: settings => item.Sorted ∧ SortedSettings settings

end

@[simp] theorem sortedItems_iff {items : List Stored} :
    SortedItems items ↔ ∀ item ∈ items, item.Sorted := by
  induction items with
  | nil => simp [SortedItems]
  | cons item items ih => rw [SortedItems, ih, List.forall_mem_cons]

@[simp] theorem sortedSettings_iff {settings : List (String × Stored)} :
    SortedSettings settings ↔ ∀ e ∈ settings, e.2.Sorted := by
  induction settings with
  | nil => simp [SortedSettings]
  | cons e settings ih => rw [SortedSettings, ih, List.forall_mem_cons]

@[simp] theorem sorted_list_iff {items : List Stored} :
    (list items).Sorted ↔ ∀ item ∈ items, item.Sorted := by
  rw [Sorted, sortedItems_iff]

@[simp] theorem sorted_node_iff {id concept : String} {settings : List (String × Stored)} :
    (node id concept settings).Sorted ↔
      (settings.Pairwise fun a b => a.1 < b.1) ∧ ∀ e ∈ settings, e.2.Sorted := by
  rw [Sorted, sortedSettings_iff]

end Stored

theorem Value.sorted_saveWith {child : NodeId → Stored} (h : ∀ id, (child id).Sorted)
    (value : Value) : (value.saveWith child).Sorted := by
  induction value using Value.induction with
  | node id => exact h id
  | list items ih =>
    rw [saveWith, saveAllWith_eq, Stored.sorted_list_iff]
    exact List.forall_mem_map.mpr ih
  | _ => simp [saveWith, Stored.Sorted]

namespace Document

variable {doc : Document}

theorem sorted_saveIdWithin (depth : Nat) (id : NodeId) : (doc.saveIdWithin depth id).Sorted := by
  induction depth generalizing id with
  | zero => simp [saveIdWithin, Stored.Sorted]
  | succ depth ih =>
    rw [saveIdWithin]
    split
    next node _ =>
      rw [Stored.sorted_node_iff, List.pairwise_map]
      exact ⟨node.settings.increasing, List.forall_mem_map.mpr fun e _ => Value.sorted_saveWith ih _⟩
    next => simp [Stored.Sorted]

theorem saveIdWithin_eq (forest : doc.Forest) {d e : Nat} {id : NodeId} (hd : doc.Within d id)
    (he : doc.Within e id) : doc.saveIdWithin d id = doc.saveIdWithin e id := by
  induction d generalizing e id with
  | zero => cases e <;> simp [saveIdWithin, hd.absent forest]
  | succ d ih =>
    cases e with
    | zero => simp [saveIdWithin, he.absent forest]
    | succ e =>
      cases hget : doc.get? id with
      | none => simp [saveIdWithin, hget]
      | some node =>
        simp only [saveIdWithin, hget]
        refine congrArg _ (List.map_congr_left fun entry hentry => Prod.ext rfl ?_)
        refine Value.saveWith_congr fun child hchild => ?_
        have hown : doc.Owns id child := by
          refine ⟨node, hget, ?_⟩
          rw [Node.children_eq]
          exact List.mem_flatMap.mpr ⟨entry.2, List.mem_map_of_mem hentry, hchild⟩
        exact ih (hd.child forest hown) (he.child forest hown)

theorem saveId_eq (forest : doc.Forest) {id : NodeId} {node : Node}
    (hget : doc.get? id = some node) :
    doc.saveId id =
      .node id node.concept (node.settings.entries.map fun e => (e.1, doc.saveValue e.2)) := by
  rw [saveId, saveIdWithin_eq forest (within_of_size_le (Nat.le_refl _) id)
    (within_of_size_le (Nat.le_succ _) id), saveIdWithin, hget]
  dsimp only
  rw [forest.keyed hget]
  rfl

theorem held_saveId (forest : doc.Forest) {id : NodeId} (h : doc.contains id = true) :
    (doc.saveId id).held = .node id := by
  obtain ⟨node, hget⟩ := contains_iff.mp h
  rw [saveId_eq forest hget, Stored.held]

theorem heldSettings_save (forest : doc.Forest) {id : NodeId} {node : Node}
    (hget : doc.get? id = some node) :
    Stored.heldSettings (node.settings.entries.map fun e => (e.1, doc.saveValue e.2)) =
      node.settings.entries := by
  have hheld : ∀ e ∈ node.settings.entries, (doc.saveValue e.2).held = e.2 := by
    intro e he
    refine Value.held_saveWith fun child hchild => held_saveId forest (forest.child_mem ⟨node, hget, ?_⟩)
    rw [Node.children_eq]
    exact List.mem_flatMap.mpr ⟨e.2, List.mem_map_of_mem he, hchild⟩
  have hentry : ∀ e ∈ node.settings.entries, (e.1, (doc.saveValue e.2).held) = e := fun e he =>
    Prod.ext rfl (hheld e he)
  rw [Stored.heldSettings, List.map_map]
  exact (List.map_congr_left hentry).trans (List.map_id' _)

theorem nodes_saveId (forest : doc.Forest) {id : NodeId} {node : Node}
    (hget : doc.get? id = some node) :
    (doc.saveId id).nodes =
      (node.children.flatMap fun child => (doc.saveId child).nodes) ++ [node] := by
  rw [saveId_eq forest hget, Stored.nodes, heldSettings_save forest hget, TextMap.ofList_entries,
    Stored.nodesOfSettings_eq, Node.children_eq, List.flatMap_assoc]
  congr 1
  · simp only [TextMap.values, List.map_map, List.flatMap_map]
    exact List.flatMap_congr fun e _ => Value.nodes_saveWith _ _
  · rw [← forest.keyed hget]

theorem nodes_saveId_perm (forest : doc.Forest) {id : NodeId} (h : doc.contains id = true) :
    (doc.saveId id).nodes.Perm (doc.tree id) := by
  induction id using (descending forest).induction with
  | _ id ih =>
    obtain ⟨node, hget⟩ := contains_iff.mp h
    rw [nodes_saveId forest hget, tree_eq forest, hget]
    refine List.perm_append_comm.trans (.cons node (List.Perm.flatMap_left _ fun child hchild => ?_))
    have hown : doc.Owns id child := ⟨node, hget, hchild⟩
    exact ih child hown (forest.child_mem hown)

theorem nodup_ids_save (forest : doc.Forest) : doc.save.ids.Nodup :=
  ((nodes_saveId_perm forest doc.root_mem).map Node.id).nodup_iff.mpr (nodup_tree forest doc.root)

/-- Saving and loading forgets what the root does not lead to, and nothing else. -/
theorem load_save (forest : doc.Forest) : load doc.save = .ok doc.prune := by
  have nodup := nodup_ids_save forest
  have hnodes : doc.prune.nodes = nodesOf doc.save := by
    apply TextMap.ext_get?
    intro id
    apply Option.ext
    intro node
    rw [get?_nodesOf nodup, save, (nodes_saveId_perm forest doc.root_mem).mem_iff,
      mem_tree_iff forest]
    have hprune := get?_prune doc id
    rw [get?] at hprune
    rw [hprune]
    constructor
    · intro h
      split at h
      next hreach =>
        obtain rfl := forest.keyed h
        exact ⟨⟨h, (isReachable_iff forest).mp hreach⟩, rfl⟩
      next => contradiction
    · rintro ⟨⟨hget, hleads⟩, rfl⟩
      rw [if_pos ((isReachable_iff forest).mpr hleads), hget]
  obtain ⟨node, hget⟩ := contains_iff.mp doc.root_mem
  exact load_eq_ok.mpr ⟨⟨_, _, saveId_eq forest hget⟩, nodup, hnodes,
    (forest_prune forest).parents_eq⟩

theorem save_load {stored : Stored} (h : load stored = .ok doc) (sorted : stored.Sorted) :
    doc.save = stored := by
  have forest := forest_load h
  -- the nodes of a part are nodes of the whole, which is all that the document tells of them
  have hpart (part : Stored) : part.nodes ⊆ stored.nodes → part.Sorted →
      doc.saveValue part.held = part := by
    induction part using Stored.induction with
    | node id concept settings ih =>
      intro hnodes hsorted
      rw [Stored.sorted_node_iff] at hsorted
      have hget : doc.get? id = some ⟨id, concept, .ofList (Stored.heldSettings settings)⟩ :=
        (get?_of_load h).mpr ⟨hnodes (by simp [Stored.nodes]), rfl⟩
      have hentries : (TextMap.ofList (Stored.heldSettings settings)).entries =
          Stored.heldSettings settings :=
        TextMap.entries_ofList (List.pairwise_map.mpr hsorted.1)
      have hsettings : ∀ e ∈ settings, (e.1, doc.saveValue e.2.held) = e := by
        intro e he
        refine Prod.ext rfl (ih e he (fun node hnode => hnodes ?_) (hsorted.2 e he))
        rw [Stored.nodes, Stored.nodesOfSettings_eq]
        exact List.mem_append_left _ (List.mem_flatMap.mpr ⟨e.2, List.mem_map_of_mem he, hnode⟩)
      rw [Stored.held, saveValue, Value.saveWith, saveId_eq forest hget]
      dsimp only
      rw [hentries, Stored.heldSettings, List.map_map]
      exact congrArg _ ((List.map_congr_left hsettings).trans (List.map_id' _))
    | list items ih =>
      intro hnodes hsorted
      rw [Stored.sorted_list_iff] at hsorted
      have hitems : ∀ item ∈ items, doc.saveValue item.held = item := by
        intro item hitem
        refine ih item hitem (fun node hnode => hnodes ?_) (hsorted item hitem)
        rw [Stored.nodes_list]
        exact List.mem_flatMap.mpr ⟨item, hitem, hnode⟩
      rw [Stored.held, saveValue, Value.saveWith, Value.saveAllWith_eq, Stored.heldItems_eq,
        List.map_map]
      exact congrArg _ ((List.map_congr_left hitems).trans (List.map_id' _))
    | _ => intros; simp [Stored.held, saveValue, Value.saveWith]
  obtain ⟨⟨concept, settings, rfl⟩, -, -, -⟩ := load_eq_ok.mp h
  exact hpart _ (List.Subset.refl _) sorted

theorem load_save_restricts (h : doc.Reachable) :
    ∃ loaded, load doc.save = .ok loaded ∧ loaded.root = doc.root ∧
      (∀ id, doc.Leads doc.root id →
        loaded.get? id = doc.get? id ∧ loaded.parent? id = doc.parent? id) ∧
      (∀ id, ¬doc.Leads doc.root id → loaded.get? id = none ∧ loaded.parent? id = none) := by
  have forest := h.wellFormed.toForest
  refine ⟨doc.prune, load_save forest, rfl, fun id hid => ?_, fun id hid => ?_⟩
  · have hreach := (isReachable_iff forest).mpr hid
    rw [get?_prune, parent?_prune, if_pos hreach, if_pos hreach]
    exact ⟨rfl, rfl⟩
  · have hreach : ¬doc.isReachable id = true := fun hreach =>
      hid ((isReachable_iff forest).mp hreach)
    rw [get?_prune, parent?_prune, if_neg hreach, if_neg hreach]
    exact ⟨rfl, rfl⟩

theorem load_save_restricts_detached :
    let doc := (((Document.new "r" "Record Type").after (.create "b" "Number" .empty)).after
      (.create "a" "Sum" (.ofList [("of", .reference (some "b"))]))).after
      (.assign "r" "parts" (some (.list [.node "a", .list []])))
    doc.Reachable ∧ doc.Leads doc.root "a" ∧ ¬doc.Leads doc.root "b" ∧
      ∃ loaded, load doc.save = .ok loaded ∧ loaded.get? "a" = doc.get? "a" ∧
        loaded.parent? "a" = some "r" ∧ loaded.get? "b" = none := by
  intro doc
  have hdoc : doc.Reachable :=
    .edited _ (.edited _ (.edited _ (.new "r" "Record Type") (by decide +kernel))
      (by decide +kernel)) trivial
  have forest := hdoc.wellFormed.toForest
  have ha : doc.Leads doc.root "a" := (isReachable_iff forest).mp (by decide +kernel)
  have hb : ¬doc.Leads doc.root "b" := fun hb =>
    absurd ((isReachable_iff forest).mpr hb) (by decide +kernel)
  obtain ⟨loaded, hload, -, hkept, hlost⟩ := load_save_restricts hdoc
  exact ⟨hdoc, ha, hb, loaded, hload, (hkept "a" ha).1, (hkept "a" ha).2.trans (by decide +kernel),
    (hlost "b" hb).1⟩

end Document

end RecordForms
