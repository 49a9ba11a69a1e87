import RecordForms.Model.Session
import RecordForms.Proofs.Reloading

/-! Forgetting what the root does not lead to. Nodes and parents are looked through on their own;
since the owner of a node that the root leads to is led to as well, what is left fits together. -/
namespace RecordForms

/-- The references that a node holds, each with its property. -/
def Node.references (node : Node) : List (String × NodeId) :=
  node.settings.entries.flatMap fun e => e.2.targets.map (e.1, ·)

namespace Document

variable {doc : Document}

theorem contains_prune (forest : doc.Forest) {id : NodeId} :
    doc.prune.contains id = true ↔ doc.Leads doc.root id := by
  have hfilter : doc.prune.contains id = (doc.isReachable id && doc.contains id) :=
    TextMap.contains_filter doc.isReachable doc.nodes id
  rw [hfilter, Bool.and_eq_true, isReachable_iff forest]
  exact ⟨And.left, fun h => ⟨h, contains_of_leads forest h⟩⟩

theorem save_prune (forest : doc.Forest) : doc.prune.save = doc.save :=
  save_load (load_save forest) (sorted_saveIdWithin doc.size doc.root)

theorem prune_prune (forest : doc.Forest) : doc.prune.prune = doc.prune := by
  have hloaded := load_save (forest_prune forest)
  rw [save_prune forest, load_save forest] at hloaded
  exact (Except.ok.inj hloaded).symm

def detached (doc : Document) : List NodeId :=
  doc.nodes.keys.filter fun id => !doc.isReachable id

theorem mem_detached (forest : doc.Forest) {id : NodeId} :
    id ∈ doc.detached ↔ doc.contains id = true ∧ ¬doc.Leads doc.root id := by
  rw [detached, List.mem_filter, TextMap.mem_keys, ← isReachable_iff forest,
    Bool.not_eq_true', Bool.not_eq_true]
  rfl

theorem size_prune (doc : Document) : doc.prune.size + doc.detached.length = doc.size := by
  have hkept : doc.prune.nodes.keys = doc.nodes.keys.filter doc.isReachable :=
    TextMap.keys_filter doc.isReachable doc.nodes
  rw [size, size, ← TextMap.length_keys, ← TextMap.length_keys, hkept]
  exact (List.length_eq_length_filter_add doc.isReachable).symm

theorem danglingAt_eq (doc : Document) (node : Node) :
    doc.danglingAt node = (node.references.map fun reference =>
      (⟨node.id, reference.1, reference.2⟩ : Dangling)).filter fun reference =>
        !doc.contains reference.target := by
  simp only [danglingAt, Node.references, List.map_flatMap, List.filter_flatMap, List.filter_map,
    List.map_map, Function.comp_def]

open Classical in
theorem dangling_prune_eq (forest : doc.Forest) :
    doc.prune.dangling = (doc.tree doc.root).flatMap fun node =>
      (node.references.filter fun reference => ¬doc.Leads doc.root reference.2).map
        fun reference => ⟨node.id, reference.1, reference.2⟩ := by
  have hgone (target : NodeId) :
      (!doc.prune.contains target) = decide (¬doc.Leads doc.root target) := by
    rw [Bool.eq_iff_iff, decide_eq_true_iff, ← contains_prune forest, Bool.not_eq_true',
      Bool.not_eq_true]
  have hroot : doc.prune.root = doc.root := rfl
  rw [dangling, hroot, tree_prune forest .refl]
  refine List.flatMap_congr fun node _ => ?_
  simp only [danglingAt_eq, hgone, List.filter_map, Function.comp_def]

open Classical in
/-- Pruning forgets the nodes that the root does not lead to, and tells how many they were. The
others stay as they are and are saved as before, and a second pruning forgets nothing. What the root
leads to may refer to nodes that are forgotten: then its references lead nowhere. -/
theorem prune_forgets_detached (h : doc.Reachable) (journal : Option (List Change)) :
    ∃ removed pruned,
      SessionM.prune ⟨doc, journal⟩ = .ok removed ⟨pruned, journal⟩ ∧
      (∃ gone : List NodeId, gone.Nodup ∧ gone.length = removed ∧
        ∀ id, id ∈ gone ↔ doc.contains id = true ∧ ¬doc.Leads doc.root id) ∧
      pruned.root = doc.root ∧
      (∀ id, doc.Leads doc.root id →
        pruned.get? id = doc.get? id ∧ pruned.parent? id = doc.parent? id) ∧
      (∀ id, ¬doc.Leads doc.root id → pruned.get? id = none ∧ pruned.parent? id = none) ∧
      pruned.save = doc.save ∧
      SessionM.prune ⟨pruned, journal⟩ = .ok 0 ⟨pruned, journal⟩ ∧
      pruned.dangling = (doc.tree doc.root).flatMap fun node =>
        (node.references.filter fun reference => ¬doc.Leads doc.root reference.2).map
          fun reference => ⟨node.id, reference.1, reference.2⟩ := by
  have forest := h.wellFormed.toForest
  have hsize := size_prune doc
  have hremoved : doc.detached.length = doc.size - doc.prune.size := by omega
  refine ⟨_, doc.prune, rfl, ⟨doc.detached, doc.nodes.nodup_keys.filter _, hremoved,
    fun id => mem_detached forest⟩, rfl, fun id hid => ?_, fun id hid => ?_, save_prune forest,
    ?_, dangling_prune_eq forest⟩
  · rw [parent?_prune, if_pos ((isReachable_iff forest).mpr hid)]
    exact ⟨get?_prune_of_leads forest hid, rfl⟩
  · have hreach : ¬doc.isReachable id = true := fun hreach =>
      hid ((isReachable_iff forest).mp hreach)
    rw [get?_prune, parent?_prune, if_neg hreach, if_neg hreach]
    exact ⟨rfl, rfl⟩
  · rw [SessionM.prune, prune_prune forest, Nat.sub_self]

theorem prune_forgets_detached_attribute :
    let doc := List.foldl Document.after (.new "r" "Record Type") [
      .create "b" "Attribute" .empty,
      .create "reads" "Attribute Reference" (.ofList [("attribute", .reference (some "b"))]),
      .create "a" "Attribute" (.ofList [("of", .reference (some "gone")),
        ("value", .node "reads")]),
      .assign "r" "attributes" (some (.list [.node "a", .node "b"])),
      .assignAt "r" "attributes" 1 none]
    doc.Reachable ∧ doc.contains "b" = true ∧ doc.dangling = [⟨"a", "of", "gone"⟩] ∧
      ∃ pruned, SessionM.prune ⟨doc, none⟩ = .ok 1 ⟨pruned, none⟩ ∧
        pruned.get? "a" = doc.get? "a" ∧ pruned.parent? "a" = some "r" ∧ pruned.get? "b" = none ∧
        pruned.save = doc.save ∧ SessionM.prune ⟨pruned, none⟩ = .ok 0 ⟨pruned, none⟩ ∧
        pruned.dangling = [⟨"a", "of", "gone"⟩, ⟨"reads", "attribute", "b"⟩] := by
  intro doc
  have hdoc : doc.Reachable :=
    (Document.Reachable.new "r" "Record Type").afterAll (by decide +kernel)
  have forest := hdoc.wellFormed.toForest
  have ha : doc.Leads doc.root "a" := (isReachable_iff forest).mp (by decide +kernel)
  have hb : ¬doc.Leads doc.root "b" := fun hb =>
    absurd ((isReachable_iff forest).mpr hb) (by decide +kernel)
  obtain ⟨removed, pruned, hprune, -, -, hkept, hlost, hsave, hagain, -⟩ :=
    prune_forgets_detached hdoc none
  obtain ⟨hremoved, hpruned⟩ := EStateM.Result.ok.inj hprune
  obtain rfl : 1 = removed := hremoved ▸ by decide +kernel
  obtain rfl : doc.prune = pruned := congrArg Session.doc hpruned
  exact ⟨hdoc, by decide +kernel, by decide +kernel, doc.prune, hprune, (hkept "a" ha).1,
    (hkept "a" ha).2.trans (by decide +kernel), (hlost "b" hb).1, hsave, hagain, by decide +kernel⟩

end Document

end RecordForms
