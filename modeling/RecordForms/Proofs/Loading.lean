import RecordForms.Proofs.Ownership
import RecordForms.Stored.Load

/-! What loading does. A stored value is loaded if and only if no two nodes in it have one id, and
then its nodes are taken one after another, those below a node before the node. -/
namespace RecordForms

namespace Stored

theorem induction {P : Stored → Prop}
    (node : ∀ id concept settings, (∀ e ∈ settings, P e.2) → P (.node id concept settings))
    (reference : ∀ target, P (.reference target))
    (list : ∀ items, (∀ item ∈ items, P item) → P (.list items)) (bool : ∀ b, P (.bool b))
    (int : ∀ n, P (.int n)) (float : ∀ x, P (.float x)) (text : ∀ s, P (.text s))
    (stored : Stored) : P stored :=
  @Stored.rec P (fun settings => ∀ e ∈ settings, P e.2) (fun items => ∀ item ∈ items, P item)
    (fun e => P e.2) node reference list bool int float text (by simp)
    (fun _ _ he hsettings => List.forall_mem_cons.mpr ⟨he, hsettings⟩) (by simp)
    (fun _ _ hitem hitems => List.forall_mem_cons.mpr ⟨hitem, hitems⟩) (fun _ _ h => h) stored

mutual

/-- The value that a stored value is where it is held: nodes by their ids. -/
def held : Stored → Value
  | .node id _ _ => .node id
  | .reference target => .reference target
  | .list items => .list (heldItems items)
  | .bool b => .bool b
  | .int n => .int n
  | .float x => .float x
  | .text s => .text s

def heldItems : List Stored → List Value
  | [] => []
  | item :: items => item.held :: heldItems items

end

def heldSettings (settings : List (String × Stored)) : List (String × Value) :=
  settings.map fun e => (e.1, e.2.held)

mutual

/-- The nodes in a stored value, each behind those below it. -/
def nodes : Stored → List Node
  | .node id concept settings =>
    nodesOfSettings settings ++ [⟨id, concept, .ofList (heldSettings settings)⟩]
  | .list items => nodesOfItems items
  | _ => []

def nodesOfItems : List Stored → List Node
  | [] => []
  | item :: items => item.nodes ++ nodesOfItems items

def nodesOfSettings : List (String × Stored) → List Node
  | [] => []
  | (_, item) :: settings => item.nodes ++ nodesOfSettings settings

end

def ids (stored : Stored) : List NodeId := stored.nodes.map Node.id

@[simp] theorem heldItems_eq (items : List Stored) : heldItems items = items.map held := by
  induction items with
  | nil => rfl
  | cons item items ih => simp [heldItems, ih]

@[simp] theorem nodesOfItems_eq (items : List Stored) :
    nodesOfItems items = items.flatMap nodes := by
  induction items with
  | nil => rfl
  | cons item items ih => simp [nodesOfItems, ih]

@[simp] theorem nodes_list (items : List Stored) : (list items).nodes = items.flatMap nodes :=
  nodesOfItems_eq items

@[simp] theorem nodesOfSettings_eq (settings : List (String × Stored)) :
    nodesOfSettings settings = (settings.map (·.2)).flatMap nodes := by
  induction settings with
  | nil => rfl
  | cons e settings ih => simp [nodesOfSettings, ih]

end Stored

namespace LoadM

variable {σ α β : Type}

theorem bind_eq_ok {x : LoadM σ α} {f : α → LoadM σ β} {before after : Loading σ} {b : β} :
    (x >>= f) before = .ok b after ↔ ∃ a between, x before = .ok a between ∧
      f a between = .ok b after := by
  simp only [bind, EStateM.bind]
  cases x before <;> simp

@[simp] theorem pure_eq_ok {a b : α} {before after : Loading σ} :
    (pure a : LoadM σ α) before = .ok b after ↔ a = b ∧ before = after := by
  simp [pure, EStateM.pure]

@[simp] theorem checkNew_eq_ok {id : NodeId} {before after : Loading σ} {u : Unit} :
    checkNew id before = .ok u after ↔ before.nodes.contains id = false ∧ before = after := by
  unfold checkNew
  split <;> simp_all

end LoadM

namespace Loading

variable {σ : Type}

/-- Takes a finished node under its id, as the decorator leaves it. -/
def take (decorate : Decorator σ) (loading : Loading σ) (node : Node) : Loading σ :=
  let decorated := (decorate node).run loading.memory
  ⟨loading.nodes.insert node.id decorated.1, decorated.2⟩

def takeAll (decorate : Decorator σ) (loading : Loading σ) (nodes : List Node) : Loading σ :=
  nodes.foldl (take decorate) loading

@[simp] theorem takeAll_append (decorate : Decorator σ) (loading : Loading σ)
    (left right : List Node) :
    loading.takeAll decorate (left ++ right) =
      (loading.takeAll decorate left).takeAll decorate right :=
  List.foldl_append

@[simp] theorem contains_takeAll (decorate : Decorator σ) (loading : Loading σ) (nodes : List Node)
    (id : NodeId) :
    (loading.takeAll decorate nodes).nodes.contains id = true ↔
      loading.nodes.contains id = true ∨ id ∈ nodes.map Node.id := by
  induction nodes generalizing loading with
  | nil => simp [takeAll]
  | cons node rest ih =>
    rw [takeAll, List.foldl_cons, ← takeAll, ih, take, TextMap.contains_insert]
    simp only [Bool.or_eq_true, beq_iff_eq, List.map_cons, List.mem_cons]
    grind

def Fresh (loading : Loading σ) (ids : List NodeId) : Prop :=
  ids.Nodup ∧ ∀ id ∈ ids, loading.nodes.contains id = false

theorem fresh_append (decorate : Decorator σ) (loading : Loading σ) (left right : List Node) :
    loading.Fresh ((left ++ right).map Node.id) ↔
      loading.Fresh (left.map Node.id) ∧
        (loading.takeAll decorate left).Fresh (right.map Node.id) := by
  have hcontains : ∀ id, (loading.takeAll decorate left).nodes.contains id = false ↔
      loading.nodes.contains id = false ∧ id ∉ left.map Node.id := by
    intro id
    rw [← Bool.not_eq_true, contains_takeAll]
    simp
  simp only [Fresh, hcontains, List.map_append, List.nodup_append', List.mem_append]
  grind [List.Disjoint]

@[simp] theorem fresh_nil (loading : Loading σ) : loading.Fresh [] := ⟨.nil, by simp⟩

@[simp] theorem fresh_empty {memory : σ} {ids : List NodeId} :
    (Loading.mk .empty memory).Fresh ids ↔ ids.Nodup := by
  simp [Fresh, TextMap.contains]

@[simp] theorem fresh_singleton (loading : Loading σ) (id : NodeId) :
    loading.Fresh [id] ↔ loading.nodes.contains id = false := by
  simp [Fresh]

end Loading

theorem LoadM.finish_eq_ok {σ : Type} {decorate : Decorator σ} {id concept : String}
    {settings : Settings} {before after : Loading σ} {result : NodeId} :
    finish decorate id concept settings before = .ok result after ↔
      before.nodes.contains id = false ∧ result = id ∧
        after = before.take decorate ⟨id, concept, settings⟩ := by
  unfold finish
  dsimp only
  split
  next h => simp [h]
  next h =>
    rw [Bool.not_eq_true] at h
    simp only [EStateM.Result.ok.injEq, h, true_and, Loading.take]
    exact and_congr eq_comm eq_comm

namespace Stored

variable {σ : Type}

def Builds (decorate : Decorator σ) (stored : Stored) : Prop :=
  ∀ {before after : Loading σ} {value : Value}, stored.build decorate before = .ok value after ↔
    before.Fresh stored.ids ∧ value = stored.held ∧ after = before.takeAll decorate stored.nodes

theorem buildItems_eq_ok {decorate : Decorator σ} {items : List Stored}
    (h : ∀ item ∈ items, item.Builds decorate) {before after : Loading σ} {values : List Value} :
    buildItems decorate items before = .ok values after ↔
      before.Fresh ((nodesOfItems items).map Node.id) ∧ values = heldItems items ∧
        after = before.takeAll decorate (nodesOfItems items) := by
  induction items generalizing before values with
  | nil =>
    rw [buildItems, LoadM.pure_eq_ok]
    simp [nodesOfItems, heldItems, Loading.takeAll, eq_comm]
  | cons item items ih =>
    obtain ⟨hitem, hitems⟩ := List.forall_mem_cons.mp h
    rw [buildItems, LoadM.bind_eq_ok, nodesOfItems, Loading.fresh_append decorate,
      Loading.takeAll_append, heldItems]
    constructor
    · rintro ⟨value, between, hvalue, hrest⟩
      obtain ⟨values', between', hvalues, hpure⟩ := LoadM.bind_eq_ok.mp hrest
      obtain ⟨rfl, rfl⟩ := LoadM.pure_eq_ok.mp hpure
      obtain ⟨hfresh, rfl, rfl⟩ := hitem.mp hvalue
      obtain ⟨hfresh', rfl, rfl⟩ := (ih hitems).mp hvalues
      exact ⟨⟨hfresh, hfresh'⟩, rfl, rfl⟩
    · rintro ⟨⟨hfresh, hfresh'⟩, rfl, rfl⟩
      refine ⟨_, _, hitem.mpr ⟨hfresh, rfl, rfl⟩, LoadM.bind_eq_ok.mpr ⟨_, _, ?_, rfl⟩⟩
      exact (ih hitems).mpr ⟨hfresh', rfl, rfl⟩

theorem buildSettings_eq_ok {decorate : Decorator σ} {settings : List (String × Stored)}
    (h : ∀ e ∈ settings, e.2.Builds decorate) {before after : Loading σ}
    {entries : List (String × Value)} :
    buildSettings decorate settings before = .ok entries after ↔
      before.Fresh ((nodesOfSettings settings).map Node.id) ∧ entries = heldSettings settings ∧
        after = before.takeAll decorate (nodesOfSettings settings) := by
  induction settings generalizing before entries with
  | nil =>
    rw [buildSettings, LoadM.pure_eq_ok]
    simp [nodesOfSettings, heldSettings, Loading.takeAll, eq_comm]
  | cons e settings ih =>
    obtain ⟨property, item⟩ := e
    obtain ⟨hitem, hsettings⟩ := List.forall_mem_cons.mp h
    rw [buildSettings, LoadM.bind_eq_ok, nodesOfSettings, Loading.fresh_append decorate,
      Loading.takeAll_append, heldSettings, List.map_cons]
    constructor
    · rintro ⟨value, between, hvalue, hrest⟩
      obtain ⟨entries', between', hentries, hpure⟩ := LoadM.bind_eq_ok.mp hrest
      obtain ⟨rfl, rfl⟩ := LoadM.pure_eq_ok.mp hpure
      obtain ⟨hfresh, rfl, rfl⟩ := hitem.mp hvalue
      obtain ⟨hfresh', rfl, rfl⟩ := (ih hsettings).mp hentries
      exact ⟨⟨hfresh, hfresh'⟩, rfl, rfl⟩
    · rintro ⟨⟨hfresh, hfresh'⟩, rfl, rfl⟩
      refine ⟨_, _, hitem.mpr ⟨hfresh, rfl, rfl⟩, LoadM.bind_eq_ok.mpr ⟨_, _, ?_, rfl⟩⟩
      exact (ih hsettings).mpr ⟨hfresh', rfl, rfl⟩

theorem builds_node {decorate : Decorator σ} {id concept : String}
    {settings : List (String × Stored)} (h : ∀ e ∈ settings, e.2.Builds decorate) :
    (Stored.node id concept settings).Builds decorate := by
  intro before after value
  rw [build, LoadM.bind_eq_ok, ids, nodes, Loading.fresh_append decorate, Loading.takeAll_append,
    List.map_singleton, Loading.fresh_singleton]
  constructor
  · rintro ⟨_, between, hcheck, hrest⟩
    obtain ⟨hnew, rfl⟩ := LoadM.checkNew_eq_ok.mp hcheck
    obtain ⟨entries, between, hentries, hrest⟩ := LoadM.bind_eq_ok.mp hrest
    obtain ⟨result, between', hfinish, hpure⟩ := LoadM.bind_eq_ok.mp hrest
    obtain ⟨rfl, rfl⟩ := LoadM.pure_eq_ok.mp hpure
    obtain ⟨hfresh, rfl, rfl⟩ := (buildSettings_eq_ok h).mp hentries
    obtain ⟨hid, rfl, rfl⟩ := LoadM.finish_eq_ok.mp hfinish
    exact ⟨⟨hfresh, hid⟩, rfl, rfl⟩
  · rintro ⟨⟨hfresh, hid⟩, rfl, rfl⟩
    -- an id that no node has in the end had none in the beginning
    have hnew : before.nodes.contains id = false := by
      rw [← Bool.not_eq_true, Loading.contains_takeAll] at hid
      simpa using fun hmem => hid (.inl hmem)
    refine ⟨(), before, LoadM.checkNew_eq_ok.mpr ⟨hnew, rfl⟩, LoadM.bind_eq_ok.mpr
      ⟨_, _, (buildSettings_eq_ok h).mpr ⟨hfresh, rfl, rfl⟩, LoadM.bind_eq_ok.mpr
        ⟨_, _, LoadM.finish_eq_ok.mpr ⟨hid, rfl, rfl⟩, rfl⟩⟩⟩

theorem builds (decorate : Decorator σ) (stored : Stored) : stored.Builds decorate := by
  induction stored using Stored.induction with
  | node id concept settings ih => exact builds_node ih
  | list items ih =>
    intro before after value
    rw [build, LoadM.bind_eq_ok, ids, nodes, held]
    constructor
    · rintro ⟨values, between, hvalues, hpure⟩
      obtain ⟨rfl, rfl⟩ := LoadM.pure_eq_ok.mp hpure
      obtain ⟨hfresh, rfl, rfl⟩ := (buildItems_eq_ok ih).mp hvalues
      exact ⟨hfresh, rfl, rfl⟩
    · rintro ⟨hfresh, rfl, rfl⟩
      exact ⟨_, _, (buildItems_eq_ok ih).mpr ⟨hfresh, rfl, rfl⟩, rfl⟩
  | _ =>
    intro before after value
    rw [build, LoadM.pure_eq_ok]
    simp [ids, nodes, held, Loading.takeAll, eq_comm]

/-- What the nodes of a value own, and what the value itself owns, are different nodes of it. -/
def OwnsOwn (child : NodeId) (stored : Stored) : Prop :=
  (stored.nodes.flatMap Node.children).count child + stored.held.owned.count child ≤
    stored.ids.count child

theorem count_children_le_of_forall {child : NodeId} {l : List Stored}
    (h : ∀ stored ∈ l, stored.OwnsOwn child) :
    ((l.flatMap nodes).flatMap Node.children).count child +
        ((l.map held).flatMap Value.owned).count child ≤
      ((l.flatMap nodes).map Node.id).count child := by
  induction l with
  | nil => simp
  | cons stored l ih =>
    obtain ⟨hstored, hl⟩ := List.forall_mem_cons.mp h
    have hl := ih hl
    simp only [OwnsOwn, List.flatMap_cons, List.flatMap_append, List.map_cons, List.map_append,
      List.count_append, ids] at hstored hl ⊢
    omega

@[simp] theorem heldSettings_values (settings : List (String × Stored)) :
    (heldSettings settings).map (·.2) = (settings.map (·.2)).map held := by
  simp [heldSettings]

theorem ownsOwn (child : NodeId) (stored : Stored) : stored.OwnsOwn child := by
  induction stored using Stored.induction with
  | node id concept settings ih =>
    have hsettings := count_children_le_of_forall (l := settings.map (·.2))
      (List.forall_mem_map.mpr ih)
    have hlast := TextMap.count_ofList_le Value.owned (heldSettings settings) child
    rw [heldSettings_values] at hlast
    simp only [OwnsOwn, ids, nodes, nodesOfSettings_eq, held, Value.owned, List.flatMap_append,
      List.flatMap_singleton, List.map_append, List.map_singleton, List.count_append,
      Node.children_eq] at hsettings ⊢
    omega
  | list items ih =>
    have hitems := count_children_le_of_forall ih
    simpa only [OwnsOwn, ids, nodes_list, held, heldItems_eq, Value.owned,
      Value.ownedByAll_eq] using hitems
  | _ => simp [OwnsOwn, nodes, held, Value.owned]

theorem mem_ids_of_mem_children {stored : Stored} {node : Node} (hnode : node ∈ stored.nodes)
    {child : NodeId} (h : child ∈ node.children) : child ∈ stored.ids := by
  have hcount := stored.ownsOwn child
  have hpos := List.count_pos_iff.mpr (List.mem_flatMap.mpr ⟨node, hnode, h⟩)
  exact List.count_pos_iff.mp (by unfold OwnsOwn at hcount; omega)

def OwnedEarlier (nodes : List Node) : Prop :=
  nodes.Pairwise (fun a b => b.id ∉ a.children) ∧ ∀ a ∈ nodes, a.id ∉ a.children

theorem OwnedEarlier.append {left right : List Node} (hleft : OwnedEarlier left)
    (hright : OwnedEarlier right)
    (h : ∀ a ∈ left, ∀ b ∈ right, b.id ∉ a.children) : OwnedEarlier (left ++ right) := by
  refine ⟨List.pairwise_append.mpr ⟨hleft.1, hright.1, h⟩, fun a ha => ?_⟩
  rcases List.mem_append.mp ha with ha | ha
  · exact hleft.2 a ha
  · exact hright.2 a ha

theorem ownedEarlier_of_forall {l : List Stored}
    (h : ∀ stored ∈ l, stored.ids.Nodup → OwnedEarlier stored.nodes)
    (nodup : ((l.flatMap nodes).map Node.id).Nodup) : OwnedEarlier (l.flatMap nodes) := by
  induction l with
  | nil => exact ⟨.nil, by simp⟩
  | cons stored l ih =>
    obtain ⟨hstored, hl⟩ := List.forall_mem_cons.mp h
    rw [List.flatMap_cons, List.map_append, List.nodup_append'] at nodup
    obtain ⟨hnodup, hnodupl, hdisjoint⟩ := nodup
    rw [List.flatMap_cons]
    refine (hstored hnodup).append (ih hl hnodupl) fun a ha b hb hown => ?_
    exact hdisjoint (mem_ids_of_mem_children ha hown) (List.mem_map_of_mem hb)

theorem mem_settings_of_mem_children {id concept : String} {settings : List (String × Stored)}
    {child : NodeId}
    (h : child ∈ (Node.mk id concept (.ofList (heldSettings settings))).children) :
    child ∈ (nodesOfSettings settings).map Node.id := by
  rw [Node.children_eq, ← List.count_pos_iff] at h
  dsimp only at h
  have hlast := TextMap.count_ofList_le Value.owned (heldSettings settings) child
  have hsettings := count_children_le_of_forall (l := settings.map (·.2))
    (List.forall_mem_map.mpr fun e _ => e.2.ownsOwn child)
  rw [heldSettings_values] at hlast
  rw [nodesOfSettings_eq, ← List.count_pos_iff]
  omega

theorem ownedEarlier {stored : Stored} (nodup : stored.ids.Nodup) :
    OwnedEarlier stored.nodes := by
  induction stored using Stored.induction with
  | node id concept settings ih =>
    rw [ids, nodes, List.map_append, List.nodup_append'] at nodup
    obtain ⟨hnodup, -, hdisjoint⟩ := nodup
    have hid : id ∉ (nodesOfSettings settings).map Node.id := fun hmem =>
      hdisjoint hmem List.mem_cons_self
    have hbelow : OwnedEarlier (nodesOfSettings settings) := by
      rw [nodesOfSettings_eq] at hnodup ⊢
      exact ownedEarlier_of_forall (List.forall_mem_map.mpr ih) hnodup
    have hnode : OwnedEarlier [⟨id, concept, .ofList (heldSettings settings)⟩] := by
      refine ⟨List.pairwise_singleton _ _, fun a ha hown => hid ?_⟩
      rw [List.mem_singleton.mp ha] at hown
      exact mem_settings_of_mem_children hown
    refine hbelow.append hnode fun a ha b hb hown => hid ?_
    rw [List.mem_singleton.mp hb] at hown
    rw [nodesOfSettings_eq] at ha ⊢
    obtain ⟨item, hitem, ha⟩ := List.mem_flatMap.mp ha
    obtain ⟨node, hnode, hid⟩ := List.mem_map.mp (mem_ids_of_mem_children ha hown)
    exact List.mem_map.mpr ⟨node, List.mem_flatMap.mpr ⟨item, hitem, hnode⟩, hid⟩
  | list items ih =>
    rw [ids, nodes_list] at nodup
    rw [nodes_list]
    exact ownedEarlier_of_forall ih nodup
  | _ => exact ⟨.nil, by simp [nodes]⟩

theorem OwnedEarlier.wellFounded {l : List Node} (h : OwnedEarlier l)
    (nodup : (l.map Node.id).Nodup)
    (closed : ∀ node ∈ l, ∀ child ∈ node.children, child ∈ l.map Node.id) :
    WellFounded fun p c => ∃ node ∈ l, node.id = p ∧ c ∈ node.children := by
  refine Subrelation.wf ?_ (measure fun id => l.length - (l.map Node.id).idxOf id).wf
  rintro p c ⟨node, hnode, rfl, hchild⟩
  obtain ⟨i, hi, rfl⟩ := List.getElem_of_mem hnode
  obtain ⟨j, hj, rfl⟩ := List.getElem_of_mem (closed _ hnode c hchild)
  rw [List.getElem_map] at hchild
  rw [List.length_map] at hj
  have hne : j ≠ i := fun heq => h.2 _ (List.getElem_mem hi) (by simpa [heq] using hchild)
  have hnot : ¬i < j := fun hlt => List.pairwise_iff_getElem.mp h.1 i j hi hj hlt hchild
  have hidx (k : Nat) (hk : k < l.length) : (l.map Node.id).idxOf l[k].id = k := by
    have := nodup.idxOf_getElem k (by simpa using hk)
    simpa using this
  show l.length - _ < l.length - _
  rw [List.getElem_map, hidx i hi, hidx j hj]
  omega

mutual

def floats : Stored → List Binary64
  | .node _ _ settings => floatsOfSettings settings
  | .list items => floatsOfItems items
  | .float x => [x]
  | _ => []

def floatsOfItems : List Stored → List Binary64
  | [] => []
  | item :: items => item.floats ++ floatsOfItems items

def floatsOfSettings : List (String × Stored) → List Binary64
  | [] => []
  | (_, item) :: settings => item.floats ++ floatsOfSettings settings

end

@[simp] theorem floatsOfItems_eq (items : List Stored) :
    floatsOfItems items = items.flatMap floats := by
  induction items with
  | nil => rfl
  | cons item items ih => simp [floatsOfItems, ih]

@[simp] theorem floats_list (items : List Stored) : (list items).floats = items.flatMap floats :=
  floatsOfItems_eq items

@[simp] theorem floatsOfSettings_eq (settings : List (String × Stored)) :
    floatsOfSettings settings = (settings.map (·.2)).flatMap floats := by
  induction settings with
  | nil => rfl
  | cons e settings ih => simp [floatsOfSettings, ih]

@[simp] theorem floats_node (id concept : String) (settings : List (String × Stored)) :
    (node id concept settings).floats = (settings.map (·.2)).flatMap floats :=
  floatsOfSettings_eq settings

theorem floats_held_subset (stored : Stored) : stored.held.floats ⊆ stored.floats := by
  induction stored using Stored.induction with
  | list items ih =>
    rw [held, Value.floats, heldItems_eq, Value.floatsOfAll_eq, floats_list]
    intro x hx
    obtain ⟨value, hvalue, hx⟩ := List.mem_flatMap.mp hx
    obtain ⟨item, hitem, rfl⟩ := List.mem_map.mp hvalue
    exact List.mem_flatMap.mpr ⟨item, hitem, ih item hitem hx⟩
  | _ => simp [held, Value.floats, floats]

theorem floats_of_mem_nodes {stored : Stored} {node : Node} (hnode : node ∈ stored.nodes)
    {value : Value} (hvalue : value ∈ node.settings.values) : value.floats ⊆ stored.floats := by
  induction stored using Stored.induction with
  | node id concept settings ih =>
    rw [nodes, List.mem_append, List.mem_singleton, nodesOfSettings_eq] at hnode
    rw [floats_node]
    rcases hnode with hnode | rfl
    · obtain ⟨item, hitem, hnode⟩ := List.mem_flatMap.mp hnode
      obtain ⟨e, he, rfl⟩ := List.mem_map.mp hitem
      exact fun x hx => List.mem_flatMap.mpr ⟨e.2, hitem, ih e he hnode hx⟩
    · have hheld := TextMap.mem_values_ofList hvalue
      rw [heldSettings_values] at hheld
      obtain ⟨item, hitem, rfl⟩ := List.mem_map.mp hheld
      exact fun x hx => List.mem_flatMap.mpr ⟨item, hitem, item.floats_held_subset hx⟩
  | list items ih =>
    rw [nodes_list] at hnode
    rw [floats_list]
    obtain ⟨item, hitem, hnode⟩ := List.mem_flatMap.mp hnode
    exact fun x hx => List.mem_flatMap.mpr ⟨item, hitem, ih item hitem hnode hx⟩
  | _ => simp [nodes] at hnode

end Stored

namespace Document

theorem eq_of_fields {left right : Document} (hroot : left.root = right.root)
    (hnodes : left.nodes = right.nodes) (hparents : left.parents = right.parents) :
    left = right := by
  cases left
  cases right
  simp_all

def nodesOf (stored : Stored) : TextMap Node :=
  .ofList (stored.nodes.map fun node => (node.id, node))

theorem takeAll_plain (nodes : List Node) (loading : Loading Unit) :
    loading.takeAll (fun node => return node) nodes =
      ⟨(nodes.map fun node => (node.id, node)).foldl (fun map e => map.insert e.1 e.2)
        loading.nodes, ()⟩ := by
  induction nodes generalizing loading with
  | nil => rfl
  | cons node nodes ih => exact ih _

theorem load_eq_ok {stored : Stored} {doc : Document} :
    load stored = .ok doc ↔
      (∃ concept settings, stored = .node doc.root concept settings) ∧ stored.ids.Nodup ∧
        doc.nodes = nodesOf stored ∧ doc.parents = parentsOf doc.nodes := by
  cases stored with
  | node root concept settings =>
    rw [load, loadWith]
    split
    next value loading hbuild =>
      obtain ⟨hfresh, -, hloading⟩ := (Stored.builds _ _).mp hbuild
      rw [takeAll_plain] at hloading
      subst hloading
      simp only [Except.ok.injEq, Loading.fresh_empty.mp hfresh, true_and]
      constructor
      · rintro rfl
        exact ⟨⟨concept, settings, rfl⟩, rfl, rfl⟩
      · rintro ⟨⟨_, _, hroot⟩, hnodes, hparents⟩
        refine eq_of_fields (Stored.node.inj hroot).1 hnodes.symm ?_
        rw [hparents, hnodes]
        rfl
    next cause loading hbuild =>
      refine iff_of_false (by simp) fun h => ?_
      have hfresh : (Loading.mk .empty ()).Fresh _ := Loading.fresh_empty.mpr h.2.1
      have hok := (Stored.builds (fun node => return node) _).mpr ⟨hfresh, rfl, rfl⟩
      rw [hbuild] at hok
      cases hok
  | _ => simp [load, loadWith]

theorem get?_foldl_nodes {nodes : List Node} (nodup : (nodes.map Node.id).Nodup)
    (map : TextMap Node) (id : NodeId) (node : Node) :
    ((nodes.map fun node => (node.id, node)).foldl (fun map e => map.insert e.1 e.2) map).get? id =
        some node ↔
      node ∈ nodes ∧ node.id = id ∨ id ∉ nodes.map Node.id ∧ map.get? id = some node := by
  induction nodes generalizing map with
  | nil => simp
  | cons first rest ih =>
    rw [List.map_cons, List.nodup_cons] at nodup
    obtain ⟨hfirst, hrest⟩ := nodup
    rw [List.map_cons, List.foldl_cons, ih hrest, TextMap.get?_insert]
    have hmem (h : node ∈ rest) : node.id ∈ rest.map Node.id := List.mem_map_of_mem h
    simp only [List.map_cons, List.mem_cons]
    grind

@[simp] theorem get?_nodesOf {stored : Stored} (nodup : stored.ids.Nodup) (id : NodeId) (node : Node) :
    (nodesOf stored).get? id = some node ↔ node ∈ stored.nodes ∧ node.id = id := by
  rw [nodesOf, TextMap.ofList, get?_foldl_nodes nodup]
  simp

section Loaded

variable {stored : Stored} {doc : Document}

theorem get?_of_load (h : load stored = .ok doc) {id : NodeId} {node : Node} :
    doc.get? id = some node ↔ node ∈ stored.nodes ∧ node.id = id := by
  obtain ⟨-, nodup, hnodes, -⟩ := load_eq_ok.mp h
  rw [get?, hnodes, get?_nodesOf nodup]

theorem owns_of_load (h : load stored = .ok doc) {p c : NodeId} :
    doc.Owns p c ↔ ∃ node ∈ stored.nodes, node.id = p ∧ c ∈ node.children := by
  simp only [Owns, get?_of_load h, and_assoc]

theorem count_ownedIds_of_load (h : load stored = .ok doc) (c : NodeId) :
    doc.ownedIds.count c + stored.held.owned.count c ≤ stored.ids.count c := by
  obtain ⟨-, -, hnodes, -⟩ := load_eq_ok.mp h
  have hle := TextMap.count_ofList_le Node.children
    (stored.nodes.map fun node => (node.id, node)) c
  have hown := stored.ownsOwn c
  rw [List.map_map, show stored.nodes.map (Prod.snd ∘ fun node => (node.id, node)) =
    stored.nodes from List.map_id' _] at hle
  rw [ownedIds, hnodes, nodesOf]
  unfold Stored.OwnsOwn at hown
  omega

theorem owned_once_of_load (h : load stored = .ok doc) : doc.ownedIds.Nodup := by
  apply List.nodup_iff_count_le_one.mpr
  intro c
  have hcount := count_ownedIds_of_load h c
  have honce := List.nodup_iff_count_le_one.mp (load_eq_ok.mp h).2.1 c
  omega

/-- The stored value holds its root once, so nothing in it owns the root. -/
theorem root_free_of_load (h : load stored = .ok doc) : doc.root ∉ doc.ownedIds := by
  obtain ⟨⟨concept, settings, hstored⟩, nodup, -, -⟩ := load_eq_ok.mp h
  have hcount := count_ownedIds_of_load h doc.root
  have honce := List.nodup_iff_count_le_one.mp nodup doc.root
  have hheld : stored.held.owned.count doc.root = 1 := by simp [hstored, Stored.held, Value.owned]
  exact List.count_eq_zero.mp (by omega)

theorem forest_load (h : load stored = .ok doc) : doc.Forest where
  keyed := fun hid => ((get?_of_load h).mp hid).2
  child_mem := by
    intro p c hown
    obtain ⟨node, hnode, -, hchild⟩ := (owns_of_load h).mp hown
    obtain ⟨child, hchild, hid⟩ := List.mem_map.mp (Stored.mem_ids_of_mem_children hnode hchild)
    exact contains_iff.mpr ⟨child, (get?_of_load h).mpr ⟨hchild, hid⟩⟩
  root_free := fun hown => root_free_of_load h (mem_ownedIds.mpr ⟨_, hown⟩)
  owned_once := owned_once_of_load h
  parent_iff := by
    intro p c
    rw [parent?, (load_eq_ok.mp h).2.2.2,
      get?_parentsOf (fun hid => ((get?_of_load h).mp hid).2) (owned_once_of_load h)]
    rfl
  acyclic := by
    have nodup := (load_eq_ok.mp h).2.1
    have hwf := (Stored.ownedEarlier nodup).wellFounded nodup
      fun node hnode child => Stored.mem_ids_of_mem_children hnode
    exact Subrelation.wf (owns_of_load h).mp hwf

theorem wellFormed_load (finite : ∀ x ∈ stored.floats, x.isFinite = true)
    (h : load stored = .ok doc) : doc.WellFormed where
  toForest := forest_load h
  finite := by
    intro id node hid value hvalue
    rw [Value.isFinite_iff]
    intro x hx
    exact finite x (Stored.floats_of_mem_nodes ((get?_of_load h).mp hid).1 hvalue hx)

end Loaded

end Document

end RecordForms
