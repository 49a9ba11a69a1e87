import RecordForms.Proofs.Saving

/-! Three views of one tree. A walk down goes by the settings, a chain of parents goes by the
parents that are kept, and a saved document has its nodes nested in each other; all of them know the
same nodes, and a walk down meets them in the order in which they are nested. -/
namespace RecordForms

namespace Stored

mutual

/-- The nodes in a stored value, each in front of those below it. -/
def preorder : Stored → List Node
  | .node id concept settings =>
    ⟨id, concept, .ofList (heldSettings settings)⟩ :: preorderOfSettings settings
  | .list items => preorderOfItems items
  | _ => []

def preorderOfItems : List Stored → List Node
  | [] => []
  | item :: items => item.preorder ++ preorderOfItems items

def preorderOfSettings : List (String × Stored) → List Node
  | [] => []
  | (_, item) :: settings => item.preorder ++ preorderOfSettings settings

end

@[simp] theorem preorderOfItems_eq (items : List Stored) :
    preorderOfItems items = items.flatMap preorder := by
  induction items with
  | nil => rfl
  | cons item items ih => simp [preorderOfItems, ih]

@[simp] theorem preorderOfSettings_eq (settings : List (String × Stored)) :
    preorderOfSettings settings = settings.flatMap (preorder ·.2) := by
  induction settings with
  | nil => rfl
  | cons e settings ih => simp [preorderOfSettings, ih]

end Stored

@[simp] theorem Value.preorder_saveWith (child : NodeId → Stored) (value : Value) :
    (value.saveWith child).preorder = value.owned.flatMap fun id => (child id).preorder := by
  induction value using Value.induction with
  | node id => simp [saveWith, owned]
  | list items ih =>
    simp only [saveWith, saveAllWith_eq, owned_list, Stored.preorder,
      Stored.preorderOfItems_eq, List.flatMap_map, List.flatMap_assoc]
    exact List.flatMap_congr ih
  | _ => simp [saveWith, owned, Stored.preorder]

namespace Document

variable {doc : Document}

theorem tree_of_get? (forest : doc.Forest) {id : NodeId} {node : Node}
    (hget : doc.get? id = some node) : doc.tree id = node :: node.children.flatMap doc.tree := by
  rw [tree_eq forest, hget]

theorem preorder_saveId (forest : doc.Forest) {id : NodeId} (h : doc.contains id = true) :
    (doc.saveId id).preorder = doc.tree id := by
  induction id using (descending forest).induction with
  | _ id ih =>
    obtain ⟨node, hget⟩ := contains_iff.mp h
    have hnode : (⟨id, node.concept, node.settings⟩ : Node) = node := by
      rw [← forest.keyed hget]
    have hbelow : (node.settings.entries.flatMap fun e => (doc.saveValue e.2).preorder) =
        node.children.flatMap doc.tree := by
      rw [Node.children_eq, TextMap.values, List.flatMap_map, List.flatMap_assoc]
      refine List.flatMap_congr fun e he => ?_
      rw [saveValue, Value.preorder_saveWith]
      refine List.flatMap_congr fun child hchild => ?_
      have hown : doc.Owns id child :=
        owns_of_get? hget ((TextMap.mem_entries_iff _ _ _).mp he) hchild
      exact ih child hown (forest.child_mem hown)
    rw [saveId_eq forest hget, Stored.preorder, heldSettings_save forest hget,
      TextMap.ofList_entries, hnode, Stored.preorderOfSettings_eq, List.flatMap_map, hbelow,
      tree_of_get? forest hget]

theorem leads_iff_ancestor? (forest : doc.Forest) {a id : NodeId} :
    doc.Leads a id ↔ ∃ steps, doc.ancestor? steps id = some a := by
  constructor
  · intro h
    induction h with
    | refl => exact ⟨0, rfl⟩
    | tail _ hown ih =>
      obtain ⟨steps, hsteps⟩ := ih
      refine ⟨steps + 1, ?_⟩
      rw [ancestor?, forest.parent_iff.mpr hown]
      exact hsteps
  · rintro ⟨steps, hsteps⟩
    induction steps generalizing id with
    | zero =>
      obtain rfl := Option.some.inj hsteps
      exact .refl
    | succ steps ih =>
      obtain ⟨parent, hparent, hsteps⟩ := Option.bind_eq_some_iff.mp hsteps
      exact (ih hsteps).tail (forest.parent_iff.mp hparent)

theorem tree_infix_of_leads (forest : doc.Forest) {a id : NodeId} (h : doc.Leads a id) :
    doc.tree id <:+: doc.tree a := by
  induction h using Relation.ReflTransGen.head_induction_on with
  | refl => exact List.infix_rfl
  | @head top child hown _ ih =>
    obtain ⟨node, hget, hchild⟩ := hown
    have hbelow : doc.tree child <:+: node.children.flatMap doc.tree :=
      List.infix_of_mem_flatten (List.mem_map_of_mem hchild)
    rw [tree_of_get? forest hget]
    exact ih.trans (hbelow.trans (List.suffix_cons _ _).isInfix)

theorem owner_before (forest : doc.Forest) {a : NodeId} {parent node : Node}
    (hparent : doc.get? parent.id = some parent) (hnode : doc.get? node.id = some node)
    (hleads : doc.Leads a parent.id) (hown : doc.Owns parent.id node.id) :
    [parent, node].Sublist (doc.tree a) := by
  obtain ⟨owner, hget, hchild⟩ := hown
  obtain rfl := Option.some.inj (hparent.symm.trans hget)
  have hmem : node ∈ parent.children.flatMap doc.tree :=
    List.mem_flatMap.mpr ⟨node.id, hchild, mem_tree_of_leads forest hnode .refl⟩
  have hbelow : [parent, node].Sublist (doc.tree parent.id) := by
    rw [tree_of_get? forest hparent]
    exact .cons_cons parent (List.singleton_sublist.mpr hmem)
  exact hbelow.trans (tree_infix_of_leads forest hleads).sublist

/-- A walk down from an id lists the nodes whose chain of parents passes that id, each of them once:
the node with that id first, and every other one behind its parent. From the root it lists the nodes
as they are nested in what is saved. -/
theorem tree_lists_descendants (h : doc.Reachable) {start : NodeId}
    (hstart : doc.contains start = true) :
    ((doc.tree start).map Node.id).Nodup ∧
      (∀ node, node ∈ doc.tree start ↔ doc.get? node.id = some node ∧
        ∃ steps, doc.ancestor? steps node.id = some start) ∧
      (∃ first rest, doc.get? start = some first ∧ doc.tree start = first :: rest) ∧
      (∀ node ∈ doc.tree start, node.id ≠ start → ∃ parent,
        doc.parent? node.id = some parent.id ∧ [parent, node].Sublist (doc.tree start)) ∧
      (doc.tree doc.root).map Node.id = doc.save.preorder.map Node.id := by
  have forest := h.wellFormed.toForest
  refine ⟨nodup_tree forest start, fun node => ?_, ?_, fun node hnode hne => ?_, ?_⟩
  · rw [mem_tree_iff forest, leads_iff_ancestor? forest]
  · obtain ⟨first, hget⟩ := contains_iff.mp hstart
    exact ⟨first, first.children.flatMap doc.tree, hget, tree_of_get? forest hget⟩
  · obtain ⟨hget, hleads⟩ := (mem_tree_iff forest).mp hnode
    rcases Relation.ReflTransGen.cases_tail hleads with hsame | ⟨owner, habove, hown⟩
    · exact absurd hsame hne
    · obtain ⟨parent, hparent, -⟩ := id hown
      obtain rfl := forest.keyed hparent
      exact ⟨parent, forest.parent_iff.mpr hown, owner_before forest hparent hget habove hown⟩
  · rw [save, preorder_saveId forest doc.root_mem]

/-- A detached node with a child of its own, and a list of children below the root. -/
theorem tree_lists_descendants_detached :
    let doc := List.foldl Document.after (.new "r" "Record Type") [
      .create "x" "Number" .empty, .create "a" "Attribute" (.ofList [("value", .node "x")]),
      .create "b" "Attribute" .empty,
      .assign "r" "attributes" (some (.list [.node "b", .list [.node "a"]])),
      .create "y" "Number" .empty, .create "free" "Attribute" (.ofList [("value", .node "y")])]
    doc.Reachable ∧ doc.contains "free" = true ∧
      (doc.tree "free").map Node.id = ["free", "y"] ∧
      (∀ node, node ∈ doc.tree "free" ↔ doc.get? node.id = some node ∧
        ∃ steps, doc.ancestor? steps node.id = some "free") ∧
      (doc.tree doc.root).map Node.id = ["r", "b", "a", "x"] ∧
      doc.save.preorder.map Node.id = ["r", "b", "a", "x"] := by
  intro doc
  have hdoc : doc.Reachable :=
    (Document.Reachable.new "r" "Record Type").afterAll (by decide +kernel)
  have hfree : doc.contains "free" = true := by decide +kernel
  have hroot : (doc.tree doc.root).map Node.id = ["r", "b", "a", "x"] := by decide +kernel
  obtain ⟨-, hmem, -, -, hsaved⟩ := tree_lists_descendants hdoc hfree
  exact ⟨hdoc, hfree, by decide +kernel, hmem, hroot, hsaved.symm.trans hroot⟩

end Document

end RecordForms
