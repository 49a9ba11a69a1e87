import Mathlib.Logic.Relation
import Mathlib.Order.WellFounded
import RecordForms.Model.Document
import RecordForms.Proofs.Entries

/-! What it means for a document to be well formed. The nodes say themselves what they own; the
parents are the same relation read from below, and it has no cycles. -/
namespace RecordForms

namespace Value

theorem induction {P : Value → Prop} (bool : ∀ b, P (.bool b)) (int : ∀ n, P (.int n))
    (float : ∀ x, P (.float x)) (text : ∀ s, P (.text s)) (node : ∀ id, P (.node id))
    (reference : ∀ target, P (.reference target))
    (list : ∀ items, (∀ item ∈ items, P item) → P (.list items)) (value : Value) : P value :=
  @Value.rec P (fun items => ∀ item ∈ items, P item) bool int float text node reference list
    (by simp) (fun _ _ hitem hitems => List.forall_mem_cons.mpr ⟨hitem, hitems⟩) value

@[simp] theorem ownedByAll_eq (items : List Value) : ownedByAll items = items.flatMap owned := by
  induction items with
  | nil => rfl
  | cons item items ih => simp [ownedByAll, ih]

@[simp] theorem owned_list (items : List Value) : (list items).owned = items.flatMap owned :=
  ownedByAll_eq items

@[simp] theorem allFinite_eq (items : List Value) : allFinite items = items.all isFinite := by
  induction items with
  | nil => rfl
  | cons item items ih => simp [allFinite, ih]

mutual

def floats : Value → List Binary64
  | .float x => [x]
  | .list items => floatsOfAll items
  | _ => []

def floatsOfAll : List Value → List Binary64
  | [] => []
  | item :: items => item.floats ++ floatsOfAll items

end

@[simp] theorem floatsOfAll_eq (items : List Value) : floatsOfAll items = items.flatMap floats := by
  induction items with
  | nil => rfl
  | cons item items ih => simp [floatsOfAll, ih]

theorem isFinite_iff (value : Value) :
    value.isFinite = true ↔ ∀ x ∈ value.floats, x.isFinite = true := by
  induction value using Value.induction with
  | list items ih =>
    simp only [isFinite, floats, allFinite_eq, floatsOfAll_eq, List.all_eq_true, List.mem_flatMap]
    constructor
    · rintro h x ⟨item, hitem, hx⟩
      exact (ih item hitem).mp (h item hitem) x hx
    · intro h item hitem
      exact (ih item hitem).mpr fun x hx => h x ⟨item, hitem, hx⟩
  | _ => simp [isFinite, floats]

end Value

theorem Node.children_eq (node : Node) :
    node.children = node.settings.values.flatMap Value.owned :=
  Value.ownedByAll_eq _

namespace Document

theorem contains_iff {doc : Document} {id : NodeId} :
    doc.contains id = true ↔ ∃ node, doc.get? id = some node :=
  Option.isSome_iff_exists

def Owns (doc : Document) (parent child : NodeId) : Prop :=
  ∃ node, doc.get? parent = some node ∧ child ∈ node.children

theorem owns_of_get? {doc : Document} {parent child : NodeId} {node : Node} {property : String}
    {value : Value} (hget : doc.get? parent = some node) (hvalue : node.get? property = some value)
    (hchild : child ∈ value.owned) : doc.Owns parent child := by
  refine ⟨node, hget, ?_⟩
  rw [Node.children_eq]
  exact List.mem_flatMap.mpr ⟨value, TextMap.mem_values.mpr ⟨property, hvalue⟩, hchild⟩

def ownedIds (doc : Document) : List NodeId := doc.nodes.values.flatMap Node.children

@[simp] theorem mem_ownedIds {doc : Document} {child : NodeId} :
    child ∈ doc.ownedIds ↔ ∃ parent, doc.Owns parent child := by
  simp only [ownedIds, List.mem_flatMap, TextMap.mem_values, Owns]
  constructor
  · rintro ⟨node, ⟨id, hid⟩, hchild⟩
    exact ⟨id, node, hid, hchild⟩
  · rintro ⟨id, node, hid, hchild⟩
    exact ⟨node, ⟨id, hid⟩, hchild⟩

/-- The id itself, its parent, the parent of that, and so on, by the number of steps. -/
def ancestor? (doc : Document) : Nat → NodeId → Option NodeId
  | 0, id => some id
  | steps + 1, id => (doc.parent? id).bind (doc.ancestor? steps)

/-- Nodes own each other as in a forest, in which the root is one of those that nobody owns, and
the parents say so too. -/
structure Forest (doc : Document) : Prop where
  keyed : ∀ {id node}, doc.get? id = some node → node.id = id
  child_mem : ∀ {parent child}, doc.Owns parent child → doc.contains child = true
  root_free : ∀ {parent}, ¬doc.Owns parent doc.root
  owned_once : doc.ownedIds.Nodup
  parent_iff : ∀ {parent child}, doc.parent? child = some parent ↔ doc.Owns parent child
  /-- Every way up ends. -/
  acyclic : WellFounded doc.Owns

structure WellFormed (doc : Document) : Prop extends doc.Forest where
  finite : ∀ {id node}, doc.get? id = some node → ∀ value ∈ node.settings.values,
    value.isFinite = true

theorem not_transGen_self {doc : Document} (acyclic : WellFounded doc.Owns) (id : NodeId) :
    ¬Relation.TransGen doc.Owns id id :=
  acyclic.transGen.irrefl.irrefl id

namespace Forest

variable {doc : Document}

theorem owner_unique (forest : doc.Forest) {p q child : NodeId} (hp : doc.Owns p child)
    (hq : doc.Owns q child) : p = q :=
  Option.some.inj ((forest.parent_iff.mpr hp).symm.trans (forest.parent_iff.mpr hq))

theorem exists_ancestor?_eq_none (forest : doc.Forest) (id : NodeId) :
    ∃ steps, doc.ancestor? steps id = none := by
  induction id using forest.acyclic.induction with
  | _ id ih =>
    cases hparent : doc.parent? id with
    | none => exact ⟨1, by simp [ancestor?, hparent]⟩
    | some parent =>
      obtain ⟨steps, hsteps⟩ := ih parent (forest.parent_iff.mp hparent)
      exact ⟨steps + 1, by simp [ancestor?, hparent, hsteps]⟩

end Forest

/-- The chain of parents is followed far enough: the ids already passed have parents, and no id
is passed twice. -/
theorem mem_lineageWithin {doc : Document} (forest : doc.Forest) {limit : Nat} {a id : NodeId}
    {passed : List NodeId} (nodup : passed.Nodup)
    (hpassed : ∀ v ∈ passed, doc.parents.contains v = true ∧ Relation.TransGen doc.Owns id v)
    (hlimit : doc.parents.size < passed.length + limit)
    (h : Relation.ReflTransGen doc.Owns a id) : a ∈ doc.lineageWithin limit id := by
  induction limit generalizing id passed with
  | zero =>
    have := TextMap.length_le_size nodup fun v hv => (hpassed v hv).1
    omega
  | succ limit ih =>
    rcases Relation.ReflTransGen.cases_tail h with rfl | ⟨p, hap, hown⟩
    · rw [lineageWithin]
      split <;> simp
    · have hparent : doc.parent? id = some p := forest.parent_iff.mpr hown
      rw [lineageWithin, hparent]
      apply List.mem_cons_of_mem
      have hnotpassed : id ∉ passed := fun hid =>
        not_transGen_self forest.acyclic id (hpassed id hid).2
      refine ih (List.nodup_cons.mpr ⟨hnotpassed, nodup⟩) ?_ ?_ hap
      · intro v hv
        rcases List.mem_cons.mp hv with rfl | hv
        · exact ⟨Option.isSome_iff_exists.mpr ⟨p, hparent⟩, .single hown⟩
        · exact ⟨(hpassed v hv).1, .head hown (hpassed v hv).2⟩
      · simp only [List.length_cons]
        omega

theorem Forest.mem_lineage {doc : Document} (forest : doc.Forest) {a id : NodeId}
    (h : Relation.ReflTransGen doc.Owns a id) : a ∈ doc.lineage id :=
  mem_lineageWithin forest .nil (by simp) (by simp) h

theorem get?_foldl_adopt {nodes : List Node} (nodup : (nodes.flatMap Node.children).Nodup)
    (start : TextMap NodeId) (child parent : NodeId) :
    (nodes.foldl (fun parents node => adopt node.id node.children parents) start).get? child =
        some parent ↔
      (∃ node ∈ nodes, node.id = parent ∧ child ∈ node.children) ∨
        (∀ node ∈ nodes, child ∉ node.children) ∧ start.get? child = some parent := by
  induction nodes generalizing start with
  | nil => simp
  | cons node rest ih =>
    rw [List.flatMap_cons, List.nodup_append'] at nodup
    obtain ⟨-, hrest, hdisjoint⟩ := nodup
    rw [List.foldl_cons, ih hrest, get?_adopt]
    by_cases hchild : child ∈ node.children
    · have hother : ∀ other ∈ rest, child ∉ other.children := fun other hmem hc =>
        hdisjoint hchild (List.mem_flatMap.mpr ⟨other, hmem, hc⟩)
      grind
    · grind

theorem get?_parentsOf {nodes : TextMap Node}
    (keyed : ∀ {id node}, nodes.get? id = some node → node.id = id)
    (nodup : (nodes.values.flatMap Node.children).Nodup) (child parent : NodeId) :
    (parentsOf nodes).get? child = some parent ↔
      ∃ node, nodes.get? parent = some node ∧ child ∈ node.children := by
  rw [parentsOf, get?_foldl_adopt nodup]
  simp only [TextMap.get?_empty, reduceCtorEq, and_false, or_false, TextMap.mem_values]
  constructor
  · rintro ⟨node, ⟨id, hid⟩, rfl, hchild⟩
    exact ⟨node, keyed hid ▸ hid, hchild⟩
  · rintro ⟨node, hid, hchild⟩
    exact ⟨node, ⟨parent, hid⟩, keyed hid, hchild⟩

theorem Forest.parents_eq {doc : Document} (forest : doc.Forest) :
    doc.parents = parentsOf doc.nodes := by
  apply TextMap.ext_get?
  intro child
  apply Option.ext
  intro parent
  rw [get?_parentsOf forest.keyed forest.owned_once]
  exact forest.parent_iff

end Document

end RecordForms
