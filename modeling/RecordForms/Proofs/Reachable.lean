import RecordForms.Proofs.Descent
import RecordForms.Proofs.Edits
import RecordForms.Proofs.Loading

/-! The documents that come about, and what holds of all of them. -/
namespace RecordForms.Document

/-- The document after an edit was tried. A refused edit changes nothing. -/
def after (doc : Document) (edit : Edit) : Document :=
  match doc.apply edit with
  | .ok next => next
  | .error _ => doc

/-- Documents that are new or loaded, changed any number of times. -/
inductive Reachable : Document → Prop
  | new (root : NodeId) (concept : String) : Reachable (.new root concept)
  | loaded {stored : Stored} {doc : Document} (finite : ∀ x ∈ stored.floats, x.isFinite = true)
    (h : load stored = .ok doc) : Reachable doc
  | read {text : String} {stored : Stored} {doc : Document} (hread : Stored.read text = .ok stored)
    (finite : ∀ x ∈ stored.floats, x.isFinite = true) (h : ofText text = .ok doc) : Reachable doc
  | edited {doc : Document} (edit : Edit) (before : Reachable doc) (fresh : doc.FreshFor edit) :
    Reachable (doc.after edit)
  | pruned {doc : Document} (before : Reachable doc) : Reachable doc.prune

def FreshForAll (doc : Document) : List Edit → Prop
  | [] => True
  | edit :: edits => doc.FreshFor edit ∧ (doc.after edit).FreshForAll edits

instance decidableFreshForAll (doc : Document) :
    (edits : List Edit) → Decidable (doc.FreshForAll edits)
  | [] => inferInstanceAs (Decidable True)
  | edit :: edits =>
    have := decidableFreshForAll (doc.after edit) edits
    inferInstanceAs (Decidable (doc.FreshFor edit ∧ (doc.after edit).FreshForAll edits))

theorem Reachable.afterAll {doc : Document} (h : doc.Reachable) {edits : List Edit}
    (fresh : doc.FreshForAll edits) : (edits.foldl after doc).Reachable := by
  induction edits generalizing doc with
  | nil => exact h
  | cons edit edits ih => exact ih (.edited edit h fresh.1) fresh.2

theorem wellFormed_new (root : NodeId) (concept : String) :
    (Document.new root concept).WellFormed := by
  have hget {id : NodeId} {node : Node} (h : (Document.new root concept).get? id = some node) :
      id = root ∧ node = ⟨root, concept, .empty⟩ := by
    rw [get?, new, TextMap.get?_insert] at h
    split at h
    next hid => exact ⟨hid, (Option.some.inj h).symm⟩
    next => simp at h
  have howns {p c : NodeId} : ¬(Document.new root concept).Owns p c := by
    rintro ⟨node, hnode, hchild⟩
    rw [(hget hnode).2] at hchild
    cases hchild
  exact {
    keyed := fun h => by rw [(hget h).1, (hget h).2]
    child_mem := fun h => absurd h howns
    root_free := howns
    owned_once := List.nodup_iff_count_le_one.mpr fun c => by
      rw [List.count_eq_zero_of_not_mem fun hmem => howns (mem_ownedIds.mp hmem).choose_spec]
      exact Nat.zero_le 1
    parent_iff := iff_of_false (by simp [parent?, new]) howns
    acyclic := ⟨fun x => Acc.intro x fun _ h => absurd h howns⟩
    finite := fun h value hvalue => by
      rw [(hget h).2] at hvalue
      cases hvalue }

theorem wellFormed_after {doc : Document} (wf : doc.WellFormed) {edit : Edit}
    (fresh : doc.FreshFor edit) : (doc.after edit).WellFormed := by
  unfold after
  split
  next next h => exact wellFormed_apply wf fresh h
  next => exact wf

theorem load_of_ofText {text : String} {stored : Stored} {doc : Document}
    (hread : Stored.read text = .ok stored) (h : ofText text = .ok doc) : load stored = .ok doc := by
  rwa [ofText, hread] at h

theorem Reachable.wellFormed {doc : Document} (h : doc.Reachable) : doc.WellFormed := by
  induction h with
  | new root concept => exact wellFormed_new root concept
  | loaded finite h => exact wellFormed_load finite h
  | read hread finite h => exact wellFormed_load finite (load_of_ofText hread h)
  | edited edit _ fresh ih => exact wellFormed_after ih fresh
  | pruned _ ih => exact wellFormed_prune ih

theorem reachable_invariants {doc : Document} (h : doc.Reachable) :
    doc.contains doc.root = true ∧
      (∀ id node, doc.get? id = some node → node.id = id) ∧
      (∀ id node, doc.get? id = some node → ∀ value ∈ node.settings.values, ∀ child ∈ value.owned,
        doc.contains child = true ∧ child ≠ doc.root) ∧
      (∀ child, (doc.nodes.values.flatMap fun node =>
        node.settings.values.flatMap Value.owned).count child ≤ 1) ∧
      (∀ child parent, doc.parent? child = some parent ↔
        ∃ node, doc.get? parent = some node ∧ ∃ value ∈ node.settings.values, child ∈ value.owned) ∧
      doc.parents = parentsOf doc.nodes ∧
      (∀ id, ∃ steps, doc.ancestor? steps id = none) ∧
      (∀ id node, doc.get? id = some node → ∀ value ∈ node.settings.values, ∀ x ∈ value.floats,
        x.isFinite = true) := by
  have wf := h.wellFormed
  have howns {parent child : NodeId} : doc.Owns parent child ↔
      ∃ node, doc.get? parent = some node ∧ ∃ value ∈ node.settings.values, child ∈ value.owned := by
    simp only [Owns, Node.children_eq, List.mem_flatMap]
  refine ⟨doc.root_mem, fun id node => wf.keyed, ?_, ?_, ?_, wf.parents_eq,
    wf.exists_ancestor?_eq_none, ?_⟩
  · intro id node hget value hvalue child hchild
    have hown : doc.Owns id child := howns.mpr ⟨node, hget, value, hvalue, hchild⟩
    refine ⟨wf.child_mem hown, fun hroot => wf.root_free (hroot ▸ hown)⟩
  · have honce := List.nodup_iff_count_le_one.mp wf.owned_once
    simpa only [ownedIds, funext Node.children_eq] using honce
  · intro child parent
    rw [wf.parent_iff, howns]
  · intro id node hget value hvalue
    exact (Value.isFinite_iff value).mp (wf.finite hget value hvalue)

theorem reachable_invariants_attached :
    let doc := (((Document.new "r" "Record Type").after (.create "a" "Number" .empty)).after
      (.assign "r" "parts" (some (.list [.node "a", .reference (some "r")])))).after
      (.assignAt "r" "parts" 0 (some (.list [.node "a"])))
    doc.Reachable ∧ doc.parent? "a" = some "r" ∧ doc.parents = parentsOf doc.nodes ∧
      ∃ steps, doc.ancestor? steps "a" = none := by
  intro doc
  have hdoc : doc.Reachable :=
    .edited _ (.edited _ (.edited _ (.new "r" "Record Type") (by decide +kernel)) trivial) trivial
  have hinv := reachable_invariants hdoc
  exact ⟨hdoc, by decide +kernel, hinv.2.2.2.2.2.1, hinv.2.2.2.2.2.2.1 "a"⟩

end RecordForms.Document
