import Mathlib.Data.List.Flatten
import Mathlib.Data.List.Pairwise
import RecordForms.Model.Tree
import RecordForms.Proofs.Ownership

/-! Walks down from a node. In a well formed document no walk meets an id twice, so a walk that
may go as many levels down as there are nodes is never cut off. -/
namespace RecordForms.Document

/-- The first id is the second one or stands above it. -/
def Leads (doc : Document) : NodeId → NodeId → Prop := Relation.ReflTransGen doc.Owns

/-- From `id` on no walk is longer than `depth`: the ids above it are not met again, and all
others are not more than that. -/
def Within (doc : Document) (depth : Nat) (id : NodeId) : Prop :=
  ∃ above : List NodeId, above.Nodup ∧
    (∀ a ∈ above, doc.contains a = true ∧ Relation.TransGen doc.Owns a id) ∧
    doc.size ≤ above.length + depth

theorem size_pos (doc : Document) : 0 < doc.size :=
  TextMap.length_le_size (List.nodup_singleton doc.root) (by simpa using doc.root_mem)

variable {doc : Document}

theorem within_of_size_le {depth : Nat} (h : doc.size ≤ depth) (id : NodeId) :
    doc.Within depth id :=
  ⟨[], .nil, by simp, by simpa using h⟩

theorem Within.absent {id : NodeId} (forest : doc.Forest) (h : doc.Within 0 id) :
    doc.get? id = none := by
  obtain ⟨above, nodup, habove, hsize⟩ := h
  by_contra hsome
  have hid : doc.contains id = true := by
    simpa [contains, TextMap.contains, get?, Option.isSome_iff_ne_none] using hsome
  have hnot : id ∉ above := fun hmem => not_transGen_self forest.acyclic id (habove id hmem).2
  have hle : (id :: above).length ≤ doc.nodes.size :=
    TextMap.length_le_size (List.nodup_cons.mpr ⟨hnot, nodup⟩)
      (List.forall_mem_cons.mpr ⟨hid, fun a ha => (habove a ha).1⟩)
  simp only [List.length_cons] at hle
  unfold size at hsize
  omega

theorem Within.child (forest : doc.Forest) {depth : Nat} {id child : NodeId}
    (h : doc.Within (depth + 1) id) (hown : doc.Owns id child) : doc.Within depth child := by
  obtain ⟨above, nodup, habove, hsize⟩ := h
  have hnot : id ∉ above := fun hmem => not_transGen_self forest.acyclic id (habove id hmem).2
  refine ⟨id :: above, List.nodup_cons.mpr ⟨hnot, nodup⟩, ?_, by simp only [List.length_cons]; omega⟩
  intro a ha
  rcases List.mem_cons.mp ha with rfl | ha
  · exact ⟨contains_iff.mpr ⟨_, hown.choose_spec.1⟩, .single hown⟩
  · exact ⟨(habove a ha).1, (habove a ha).2.tail hown⟩

theorem descending (forest : doc.Forest) : WellFounded fun child parent => doc.Owns parent child := by
  have hacc (depth : Nat) : ∀ id, doc.Within depth id →
      Acc (fun child parent => doc.Owns parent child) id := by
    induction depth with
    | zero =>
      intro id h
      refine Acc.intro id fun child hown => ?_
      obtain ⟨node, hget, -⟩ := hown
      rw [h.absent forest] at hget
      contradiction
    | succ depth ih =>
      intro id h
      exact Acc.intro id fun child hown => ih child (h.child forest hown)
  exact ⟨fun id => hacc doc.size id (within_of_size_le (Nat.le_refl _) id)⟩

theorem treeWithin_eq (forest : doc.Forest) {d e : Nat} {id : NodeId} (hd : doc.Within d id)
    (he : doc.Within e id) : doc.treeWithin d id = doc.treeWithin e id := by
  induction d generalizing e id with
  | zero => cases e <;> simp [treeWithin, hd.absent forest]
  | succ d ih =>
    cases e with
    | zero => simp [treeWithin, he.absent forest]
    | succ e =>
      cases hget : doc.get? id with
      | none => simp [treeWithin, hget]
      | some node =>
        simp only [treeWithin, hget]
        refine congrArg (node :: ·) (List.flatMap_congr fun child hchild => ?_)
        have hown : doc.Owns id child := ⟨node, hget, hchild⟩
        exact ih (hd.child forest hown) (he.child forest hown)

theorem tree_eq (forest : doc.Forest) (id : NodeId) :
    doc.tree id = match doc.get? id with
      | some node => node :: node.children.flatMap doc.tree
      | none => [] := by
  rw [tree, treeWithin_eq forest (within_of_size_le (Nat.le_refl _) id)
    (within_of_size_le (Nat.le_succ _) id), treeWithin]
  rfl

theorem of_mem_treeWithin (forest : doc.Forest) {depth : Nat} {id : NodeId} {node : Node}
    (h : node ∈ doc.treeWithin depth id) :
    doc.get? node.id = some node ∧ doc.Leads id node.id := by
  induction depth generalizing id with
  | zero => simp [treeWithin] at h
  | succ depth ih =>
    cases hget : doc.get? id with
    | none => simp [treeWithin, hget] at h
    | some top =>
      simp only [treeWithin, hget] at h
      rcases List.mem_cons.mp h with rfl | h
      · rw [forest.keyed hget]
        exact ⟨hget, .refl⟩
      · obtain ⟨child, hchild, hmem⟩ := List.mem_flatMap.mp h
        obtain ⟨hnode, hleads⟩ := ih hmem
        exact ⟨hnode, .head ⟨top, hget, hchild⟩ hleads⟩

theorem mem_tree_of_leads (forest : doc.Forest) {id : NodeId} {node : Node}
    (hget : doc.get? node.id = some node) (h : doc.Leads id node.id) : node ∈ doc.tree id := by
  induction h using Relation.ReflTransGen.head_induction_on with
  | refl =>
    rw [tree_eq forest, hget]
    exact List.mem_cons_self
  | head hown _ ih =>
    obtain ⟨top, htop, hchild⟩ := hown
    rw [tree_eq forest, htop]
    exact List.mem_cons_of_mem _ (List.mem_flatMap.mpr ⟨_, hchild, ih⟩)

theorem mem_tree_iff (forest : doc.Forest) {id : NodeId} {node : Node} :
    node ∈ doc.tree id ↔ doc.get? node.id = some node ∧ doc.Leads id node.id :=
  ⟨of_mem_treeWithin forest, fun h => mem_tree_of_leads forest h.1 h.2⟩

theorem nodup_children (forest : doc.Forest) {id : NodeId} {node : Node}
    (hget : doc.get? id = some node) : node.children.Nodup := by
  have hmem := List.mem_map_of_mem (f := Node.children) (TextMap.mem_values.mpr ⟨id, hget⟩)
  exact forest.owned_once.sublist (List.sublist_flatten_of_mem hmem)

theorem property_unique (forest : doc.Forest) {id child : NodeId} {node : Node}
    (hget : doc.get? id = some node) {p q : String} (hp : node.get? p = some (.node child))
    (hq : node.get? q = some (.node child)) : p = q := by
  have hnodup := nodup_children forest hget
  rw [Node.children_eq, TextMap.values, List.flatMap_map] at hnodup
  have : Std.Symm (Function.onFun List.Disjoint fun e : String × Value => e.2.owned) :=
    ⟨fun _ _ h _ hleft hright => h hright hleft⟩
  have hdisjoint := (List.nodup_flatMap.mp hnodup).2.forall
    ((TextMap.mem_entries_iff _ _ _).mpr hp) ((TextMap.mem_entries_iff _ _ _).mpr hq)
  refine Classical.byContradiction fun hne => ?_
  exact hdisjoint (fun h => hne (congrArg Prod.fst h)) (List.mem_singleton_self child)
    (List.mem_singleton_self child)

theorem disjoint_children (forest : doc.Forest) {id c d x : NodeId} (hc : doc.Owns id c)
    (hd : doc.Owns id d) (hne : c ≠ d) (hcx : doc.Leads c x) (hdx : doc.Leads d x) : False := by
  -- of two ids above a third one stands above the other, and then above their common owner too
  have hbelow {a b : NodeId} (ha : doc.Owns id a) (hb : doc.Owns id b) (hne : a ≠ b)
      (h : doc.Leads a b) : False := by
    rcases Relation.ReflTransGen.cases_tail h with rfl | ⟨p, hap, hpb⟩
    · exact hne rfl
    · rw [forest.owner_unique hpb hb] at hap
      exact not_transGen_self forest.acyclic id (.head' ha hap)
  have hunique : Relator.RightUnique (Function.swap doc.Owns) :=
    fun _ _ _ h h' => forest.owner_unique h h'
  rcases Relation.ReflTransGen.total_of_right_unique hunique hcx.swap hdx.swap with h | h
  · exact hbelow hd hc (Ne.symm hne) h.swap
  · exact hbelow hc hd hne h.swap

theorem nodup_tree (forest : doc.Forest) (id : NodeId) : ((doc.tree id).map Node.id).Nodup := by
  induction id using (descending forest).induction with
  | _ id ih =>
    rw [tree_eq forest]
    cases hget : doc.get? id with
    | none => exact .nil
    | some node =>
      have hleads {child x : NodeId} (h : x ∈ (doc.tree child).map Node.id) :
          doc.Leads child x := by
        obtain ⟨n, hn, rfl⟩ := List.mem_map.mp h
        exact ((mem_tree_iff forest).mp hn).2
      simp only [List.map_cons, List.map_flatMap]
      refine List.nodup_cons.mpr ⟨?_, List.nodup_flatMap.mpr ⟨?_, ?_⟩⟩
      · rw [forest.keyed hget]
        intro hmem
        obtain ⟨child, hchild, hmem⟩ := List.mem_flatMap.mp hmem
        exact not_transGen_self forest.acyclic id (.head' ⟨node, hget, hchild⟩ (hleads hmem))
      · exact fun child hchild => ih child ⟨node, hget, hchild⟩
      · refine (nodup_children forest hget).imp_of_mem fun hc hd hne x hxc hxd => ?_
        exact disjoint_children forest ⟨node, hget, hc⟩ ⟨node, hget, hd⟩ hne (hleads hxc)
          (hleads hxd)

theorem contains_of_leads (forest : doc.Forest) {id : NodeId} (h : doc.Leads doc.root id) :
    doc.contains id = true := by
  rcases Relation.ReflTransGen.cases_tail h with rfl | ⟨parent, -, hown⟩
  · exact doc.root_mem
  · exact forest.child_mem hown

theorem isReachable_iff (forest : doc.Forest) {id : NodeId} :
    doc.isReachable id = true ↔ doc.Leads doc.root id := by
  simp only [isReachable, Bool.or_eq_true, beq_iff_eq, List.any_eq_true, mem_tree_iff forest]
  constructor
  · rintro (rfl | ⟨node, ⟨-, hleads⟩, rfl⟩)
    · exact .refl
    · exact hleads
  · intro h
    obtain ⟨node, hget⟩ := contains_iff.mp (contains_of_leads forest h)
    have hid := forest.keyed hget
    exact .inr ⟨node, ⟨hid ▸ hget, hid ▸ h⟩, hid⟩

theorem leads_owner (forest : doc.Forest) {parent child : NodeId}
    (h : doc.Leads doc.root child) (hown : doc.Owns parent child) :
    doc.Leads doc.root parent := by
  rcases Relation.ReflTransGen.cases_tail h with rfl | ⟨p, hp, hpown⟩
  · exact absurd hown forest.root_free
  · exact forest.owner_unique hpown hown ▸ hp

@[simp] theorem get?_prune (doc : Document) (id : NodeId) :
    doc.prune.get? id = if doc.isReachable id then doc.get? id else none :=
  TextMap.get?_filter doc.isReachable doc.nodes id

@[simp] theorem parent?_prune (doc : Document) (id : NodeId) :
    doc.prune.parent? id = if doc.isReachable id then doc.parent? id else none :=
  TextMap.get?_filter doc.isReachable doc.parents id

@[simp] theorem owns_prune {parent child : NodeId} :
    doc.prune.Owns parent child ↔ doc.isReachable parent = true ∧ doc.Owns parent child := by
  simp only [Owns, get?_prune]
  split <;> simp_all

theorem forest_prune (forest : doc.Forest) : doc.prune.Forest where
  keyed := by
    intro id node hget
    rw [get?_prune] at hget
    split at hget
    · exact forest.keyed hget
    · contradiction
  child_mem := by
    intro parent child hown
    obtain ⟨hreach, hown⟩ := owns_prune.mp hown
    have hchild : doc.isReachable child = true :=
      (isReachable_iff forest).mpr (.tail ((isReachable_iff forest).mp hreach) hown)
    rw [contains, prune, TextMap.contains_filter, hchild]
    exact forest.child_mem hown
  root_free := fun hown => forest.root_free (owns_prune.mp hown).2
  owned_once := forest.owned_once.sublist
    ((TextMap.sublist_values_filter doc.isReachable doc.nodes).flatMap _)
  parent_iff := by
    intro parent child
    rw [parent?_prune, owns_prune]
    split
    next hreach =>
      rw [forest.parent_iff]
      refine ⟨fun hown => ⟨?_, hown⟩, And.right⟩
      exact (isReachable_iff forest).mpr (leads_owner forest ((isReachable_iff forest).mp hreach) hown)
    next hreach =>
      refine iff_of_false (by simp) fun h => hreach ?_
      exact (isReachable_iff forest).mpr (.tail ((isReachable_iff forest).mp h.1) h.2)
  acyclic := Subrelation.wf (fun h => (owns_prune.mp h).2) forest.acyclic

theorem wellFormed_prune (wf : doc.WellFormed) : doc.prune.WellFormed where
  toForest := forest_prune wf.toForest
  finite := by
    intro id node hget
    rw [get?_prune] at hget
    split at hget
    · exact wf.finite hget
    · contradiction

end RecordForms.Document
