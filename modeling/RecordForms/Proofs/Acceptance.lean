import RecordForms.Proofs.Reachable

/-! Which edits are accepted. The checks look at the place of an edit only, in the document before
it. They accept exactly the edits after which the whole document is sound. -/
namespace RecordForms.Document

/-- What a document has to be, said of the settings of its nodes alone. -/
structure Sound (doc : Document) : Prop where
  child_mem : ∀ parent child, doc.Owns parent child → doc.contains child = true
  root_free : ∀ parent, ¬doc.Owns parent doc.root
  owned_once : doc.ownedIds.Nodup
  no_cycle : ∀ id, ¬Relation.TransGen doc.Owns id id
  finite : ∀ id node, doc.get? id = some node → ∀ value ∈ node.settings.values,
    value.isFinite = true

theorem WellFormed.sound {doc : Document} (wf : doc.WellFormed) : doc.Sound where
  child_mem := fun _ _ => wf.child_mem
  root_free := fun _ => wf.root_free
  owned_once := wf.owned_once
  no_cycle := not_transGen_self wf.acyclic
  finite := fun _ _ => wf.finite

theorem Sound.of_nodes_eq {left right : Document} (h : left.Sound) (hroot : left.root = right.root)
    (hnodes : left.nodes = right.nodes) : right.Sound := by
  obtain ⟨root, nodes, parents, mem⟩ := left
  obtain ⟨root', nodes', parents', mem'⟩ := right
  cases hroot
  cases hnodes
  exact ⟨h.child_mem, h.root_free, h.owned_once, h.no_cycle, h.finite⟩

/-- The place that an edit writes to. A new node needs none; behind the last element of a list
there is one, but nothing can be removed from it. -/
def HasSlot (doc : Document) : Edit → Prop
  | .create _ _ _ => True
  | .assign id _ _ => doc.contains id = true
  | .assignAt id property index value =>
    ∃ node items, doc.get? id = some node ∧ node.get? property = some (.list items) ∧
      if value.isSome then index ≤ items.length else index < items.length

def nodesWith (doc : Document) : Edit → TextMap Node
  | .create id concept settings => doc.nodes.insert id ⟨id, concept, settings⟩
  | .assign id property value =>
    match doc.get? id with
    | some node =>
      let settings := value.elim (node.settings.erase property) (node.settings.insert property)
      doc.nodes.insert id { node with settings }
    | none => doc.nodes
  | .assignAt id property index value =>
    match doc.get? id with
    | some node =>
      let items := ((node.get? property).bind Value.asList?).getD []
      let items := items.take index ++ value.toList ++ items.drop (index + 1)
      doc.nodes.insert id { node with settings := node.settings.insert property (.list items) }
    | none => doc.nodes

@[simp] theorem root_mem_nodesWith (doc : Document) (edit : Edit) :
    (doc.nodesWith edit).contains doc.root = true := by
  have hinsert (id : NodeId) (node : Node) : (doc.nodes.insert id node).contains doc.root = true := by
    rw [TextMap.contains_insert, doc.root_mem, Bool.or_true]
  unfold nodesWith
  split
  · exact hinsert _ _
  all_goals
    split
    · exact hinsert _ _
    · exact doc.root_mem

/-- The document with one place written, and the parents told anew by all settings. -/
def written (doc : Document) (edit : Edit) : Document :=
  .ofNodes doc.root (doc.nodesWith edit) (doc.root_mem_nodesWith edit)

theorem leads_of_mem_lineageWithin {doc : Document} (forest : doc.Forest) {limit : Nat}
    {a id : NodeId} (h : a ∈ doc.lineageWithin limit id) :
    Relation.ReflTransGen doc.Owns a id := by
  induction limit generalizing id with
  | zero => cases h
  | succ limit ih =>
    rw [lineageWithin] at h
    split at h
    next parent hparent =>
      rcases List.mem_cons.mp h with rfl | h
      · exact .refl
      · exact (ih h).tail (forest.parent_iff.mp hparent)
    next => rw [List.mem_singleton.mp h]

namespace Exchange

variable {doc : Document} {id : NodeId} {node : Node} {released attached : List NodeId}

theorem count_ownedIds (h : doc.Exchange id node released attached) (child : NodeId) :
    (doc.put id node released attached).ownedIds.count child + released.count child =
      doc.ownedIds.count child + attached.count child := by
  have hput := count_ownedIds_put doc id node released attached child
  have hcount := h.count child
  omega

theorem owns_attached (h : doc.Exchange id node released attached) {child : NodeId}
    (hchild : child ∈ attached) : (doc.put id node released attached).Owns id child := by
  rw [owns_put, if_pos rfl]
  exact h.gained child hchild

/-- The way up from the place of an edit does not pass it again, so the edit leaves it as it is. -/
theorem leads_put (forest : doc.Forest) {a : NodeId} (h : Relation.ReflTransGen doc.Owns a id)
    (node : Node) (released attached : List NodeId) :
    Relation.ReflTransGen (doc.put id node released attached).Owns a id := by
  induction h using Relation.ReflTransGen.head_induction_on with
  | refl => exact .refl
  | @head a b hab hbid ih =>
    refine .head ?_ ih
    rw [owns_put, if_neg]
    · exact hab
    · rintro rfl
      exact not_transGen_self forest.acyclic a (.head' hab hbid)

theorem attachable (forest : doc.Forest) (h : doc.Exchange id node released attached)
    (sound : (doc.put id node released attached).Sound) : doc.Attachable id released attached where
  present := by
    intro child hchild
    have hown := h.owns_attached hchild
    have hmem := sound.child_mem id child hown
    rw [contains, put, TextMap.contains_insert, Bool.or_eq_true, beq_iff_eq] at hmem
    rcases hmem with rfl | hmem
    · exact absurd (.single hown) (sound.no_cycle child)
    · exact hmem
  not_root := by
    rintro child hchild rfl
    exact sound.root_free id (h.owns_attached hchild)
  free := by
    intro child hchild owner howner
    have hown := forest.parent_iff.mp howner
    have honce := List.nodup_iff_count_le_one.mp sound.owned_once child
    have hcount := h.count_ownedIds child
    have hattached := List.count_pos_iff.mpr hchild
    have howned := List.count_pos_iff.mpr (mem_ownedIds.mpr ⟨owner, hown⟩)
    -- a child that had an owner has it once after the edit only if the edit takes it away from it
    have hreleased : 0 < released.count child := by omega
    have hle := h.released_le child
    have hold : doc.Owns id child := mem_childrenOf.mp (List.count_pos_iff.mp (by omega))
    exact ⟨forest.owner_unique hown hold, List.count_pos_iff.mp hreleased⟩
  not_above := by
    intro child hchild habove
    have hleads := leads_put forest (leads_of_mem_lineageWithin forest habove) node released attached
    exact sound.no_cycle id (.head' (h.owns_attached hchild) hleads)
  nodup := by
    apply List.nodup_iff_count_le_one.mpr
    intro child
    have honce := List.nodup_iff_count_le_one.mp sound.owned_once child
    have hcount := h.count_ownedIds child
    have hle := h.released_le child
    have hchildren := count_childrenOf_le doc id child
    omega

end Exchange

structure Places (doc : Document) (edit : Edit) (id : NodeId) (node : Node)
    (released attached : List NodeId) : Prop where
  exchange : doc.Exchange id node released attached
  nodes_eq : doc.nodesWith edit = doc.nodes.insert id node
  apply_iff : ∀ next, doc.apply edit = .ok next ↔
    (∀ value ∈ node.settings.values, value.isFinite = true) ∧
      doc.Attachable id released attached ∧ next = doc.put id node released attached

section Places

variable {doc : Document}

theorem places_create {id : NodeId} (fresh : doc.contains id = false) (concept : String)
    (settings : Settings) :
    doc.Places (.create id concept settings) id ⟨id, concept, settings⟩ []
      (Node.mk id concept settings).children where
  exchange := exchange_create fresh
  nodes_eq := rfl
  apply_iff := fun _ => create_eq_ok

theorem places_assign (wf : doc.WellFormed) {id : NodeId} {node : Node}
    (hget : doc.get? id = some node) (property : String) (value : Option Value) :
    doc.Places (.assign id property value) id
      { node with settings := withProperty node.settings property value }
      ((node.get? property).elim [] Value.owned) (value.elim [] Value.owned) where
  exchange := exchange_assign hget
  nodes_eq := by
    rw [nodesWith, hget]
    cases value <;> rfl
  apply_iff := by
    intro next
    rw [apply, assign_eq_ok]
    simp only [hget, Option.some.injEq, exists_eq_left', finite_withProperty (wf.finite hget)]

theorem places_assignAt (wf : doc.WellFormed) {id : NodeId} {node : Node} {property : String}
    {items : List Value} {index : Nat} {value : Option Value} (hget : doc.get? id = some node)
    (hitems : node.get? property = some (.list items))
    (hbounds : inBounds items index value = true) :
    doc.Places (.assignAt id property index value) id
      { node with
        settings := node.settings.insert property (.list (withElement items index value)) }
      (items[index]?.elim [] Value.owned) (value.elim [] Value.owned) where
  exchange := exchange_assignAt hget hitems hbounds
  nodes_eq := by
    rw [nodesWith, hget]
    simp only [hitems, Option.bind_some, Value.asList?, Option.getD_some, withElement_eq hbounds]
  apply_iff := by
    intro next
    rw [apply, assignAt_eq_ok]
    simp only [hget, hitems, Option.some.injEq, Value.list.injEq, exists_and_left, exists_eq_left',
      hbounds, true_and, finite_withElement (wf.finite hget) hitems hbounds]

theorem inBounds_iff {items : List Value} {index : Nat} {value : Option Value} :
    inBounds items index value = true ↔
      if value.isSome then index ≤ items.length else index < items.length := by
  cases value <;> simp [inBounds, Nat.le_iff_lt_or_eq]

theorem exists_places (wf : doc.WellFormed) {edit : Edit} (fresh : doc.FreshFor edit)
    (slot : doc.HasSlot edit) : ∃ id node released attached,
      doc.Places edit id node released attached := by
  cases edit with
  | create id concept settings => exact ⟨_, _, _, _, places_create fresh concept settings⟩
  | assign id property value =>
    obtain ⟨node, hget⟩ := contains_iff.mp slot
    exact ⟨_, _, _, _, places_assign wf hget property value⟩
  | assignAt id property index value =>
    obtain ⟨node, items, hget, hitems, hbounds⟩ := slot
    exact ⟨_, _, _, _, places_assignAt wf hget hitems (inBounds_iff.mpr hbounds)⟩

theorem hasSlot_of_apply {next : Document} {edit : Edit} (h : doc.apply edit = .ok next) :
    doc.HasSlot edit := by
  cases edit with
  | create id concept settings => trivial
  | assign id property value =>
    obtain ⟨node, hget, -⟩ := assign_eq_ok.mp h
    exact contains_iff.mpr ⟨node, hget⟩
  | assignAt id property index value =>
    obtain ⟨node, items, hget, hitems, hbounds, -⟩ := assignAt_eq_ok.mp h
    exact ⟨node, items, hget, hitems, inBounds_iff.mp hbounds⟩

end Places

/-- An edit is made exactly if its place is there and the document with that place written is
sound, and that document is what it gives. -/
theorem apply_eq_ok_iff_sound {doc : Document} (hdoc : doc.Reachable) {edit : Edit}
    (fresh : doc.FreshFor edit) (next : Document) :
    doc.apply edit = .ok next ↔
      doc.HasSlot edit ∧ (doc.written edit).Sound ∧ next = doc.written edit := by
  have wf := hdoc.wellFormed
  by_cases slot : doc.HasSlot edit
  · obtain ⟨id, node, released, attached, places⟩ := exists_places wf fresh slot
    have hput : (doc.put id node released attached).nodes = (doc.written edit).nodes :=
      places.nodes_eq.symm
    -- an edit that is made keeps the parents that the settings tell
    have hwritten (h : doc.apply edit = .ok (doc.put id node released attached)) :
        doc.put id node released attached = doc.written edit := by
      have hparents := (wellFormed_apply wf fresh h).parents_eq
      exact eq_of_fields rfl hput (hparents.trans (congrArg parentsOf hput))
    constructor
    · intro h
      have hsound := (wellFormed_apply wf fresh h).sound
      obtain ⟨-, -, rfl⟩ := (places.apply_iff next).mp h
      rw [← hwritten h]
      exact ⟨slot, hsound, rfl⟩
    · rintro ⟨-, sound, rfl⟩
      have hsound : (doc.put id node released attached).Sound := sound.of_nodes_eq rfl hput.symm
      have hfinite := hsound.finite id node (by rw [get?_put, if_pos rfl])
      have hattach := places.exchange.attachable wf.toForest hsound
      have happly := (places.apply_iff _).mpr ⟨hfinite, hattach, rfl⟩
      rw [← hwritten happly]
      exact happly
  · exact iff_of_false (fun h => slot (hasSlot_of_apply h)) fun h => slot h.1

/-- A child changes places within the list that holds it. In a second place it is refused. -/
theorem apply_eq_ok_iff_sound_moved :
    let doc := (((Document.new "r" "Record Type").after (.create "a" "Number" .empty)).after
      (.create "b" "Number" .empty)).after (.assign "r" "parts" (some (.list [.node "a", .node "b"])))
    let move := Edit.assign "r" "parts" (some (.list [.node "b", .list [.node "a"]]))
    let repeated := Edit.assignAt "r" "parts" 1 (some (.node "a"))
    doc.Reachable ∧ doc.FreshFor move ∧ doc.FreshFor repeated ∧
      doc.apply move = .ok (doc.written move) ∧ (doc.written move).Sound ∧
      doc.HasSlot repeated ∧ ¬(doc.written repeated).Sound := by
  intro doc move repeated
  have hdoc : doc.Reachable :=
    .edited _ (.edited _ (.edited _ (.new "r" "Record Type") (by decide +kernel))
      (by decide +kernel)) trivial
  have hmove : (doc.apply move).isOk = true := by decide +kernel
  have hrepeated : (doc.apply repeated).isOk = false := by decide +kernel
  have hfresh : doc.FreshFor move ∧ doc.FreshFor repeated := ⟨trivial, trivial⟩
  have hslot : doc.HasSlot repeated := ⟨_, _, rfl, rfl, by decide⟩
  cases hnext : doc.apply move with
  | error refusal =>
    rw [hnext] at hmove
    contradiction
  | ok next =>
    obtain ⟨-, hsound, rfl⟩ := (apply_eq_ok_iff_sound hdoc hfresh.1 next).mp hnext
    refine ⟨hdoc, hfresh.1, hfresh.2, rfl, hsound, hslot, fun hsound => ?_⟩
    rw [(apply_eq_ok_iff_sound hdoc hfresh.2 _).mpr ⟨hslot, hsound, rfl⟩] at hrepeated
    contradiction

end RecordForms.Document
