import RecordForms.Proofs.Repeats

/-! What a decorator can change. Which nodes are refused, and how nodes own each other, does not
depend on the decorator, as long as it leaves ids and children as they are; and it sees each node
once, those below a node before the node. -/
namespace RecordForms

/-- What the place of a node among the others depends on. -/
def Node.shape (node : Node) : NodeId × List NodeId := (node.id, node.children)

def SameShapes (left right : TextMap Node) : Prop :=
  ∀ id, (left.get? id).map Node.shape = (right.get? id).map Node.shape

namespace Decorator

variable {σ : Type}

/-- The decorator with a list of the nodes that it was given and of what it made of them. -/
def noting (decorate : Decorator σ) : Decorator (σ × List (Node × Node)) := fun node memory =>
  let decorated := (decorate node).run memory.1
  (decorated.1, decorated.2, memory.2 ++ [(node, decorated.1)])

def memoryAfter (decorate : Decorator σ) (memory : σ) (nodes : List Node) : σ :=
  nodes.foldl (fun memory node => ((decorate node).run memory).2) memory

def calls (decorate : Decorator σ) : σ → List Node → List (Node × Node)
  | _, [] => []
  | memory, node :: nodes =>
    let decorated := (decorate node).run memory
    (node, decorated.1) :: decorate.calls decorated.2 nodes

@[simp] theorem memoryAfter_append (decorate : Decorator σ) (memory : σ) (left right : List Node) :
    decorate.memoryAfter memory (left ++ right) =
      decorate.memoryAfter (decorate.memoryAfter memory left) right :=
  List.foldl_append

@[simp] theorem map_fst_calls (decorate : Decorator σ) (memory : σ) (nodes : List Node) :
    (decorate.calls memory nodes).map Prod.fst = nodes := by
  induction nodes generalizing memory with
  | nil => rfl
  | cons node nodes ih => rw [calls, List.map_cons, ih]

@[simp] theorem memoryAfter_noting (decorate : Decorator σ) (memory : σ × List (Node × Node))
    (nodes : List Node) :
    decorate.noting.memoryAfter memory nodes =
      (decorate.memoryAfter memory.1 nodes, memory.2 ++ decorate.calls memory.1 nodes) := by
  induction nodes generalizing memory with
  | nil => simp [memoryAfter, calls]
  | cons node nodes ih =>
    refine (ih ((decorate.noting node).run memory).2).trans (Prod.ext rfl ?_)
    exact List.append_assoc memory.2 [(node, ((decorate node).run memory.1).1)] _

end Decorator

namespace Loading

variable {σ : Type}

/-- The decorator has seen a node, which is not taken. -/
def refuse (decorate : Decorator σ) (loading : Loading σ) (node : Node) : Loading σ :=
  ⟨loading.nodes, ((decorate node).run loading.memory).2⟩

@[simp] theorem memory_takeAll (decorate : Decorator σ) (loading : Loading σ) (nodes : List Node) :
    (loading.takeAll decorate nodes).memory = decorate.memoryAfter loading.memory nodes := by
  induction nodes generalizing loading with
  | nil => rfl
  | cons node nodes ih => exact ih (loading.take decorate node)

theorem sameShapes_takeAll {decorate : Decorator σ} {nodes : List Node} {loading : Loading σ}
    {plain : Loading Unit}
    (kept : ∀ call ∈ decorate.calls loading.memory nodes, call.2.shape = call.1.shape)
    (h : SameShapes loading.nodes plain.nodes) :
    SameShapes (loading.takeAll decorate nodes).nodes
      (plain.takeAll (fun node => return node) nodes).nodes := by
  induction nodes generalizing loading plain with
  | nil => exact h
  | cons node nodes ih =>
    rw [Decorator.calls, List.forall_mem_cons] at kept
    apply ih kept.2
    intro id
    simp only [take, TextMap.get?_insert]
    split
    · exact congrArg some kept.1
    · exact h id

end Loading

namespace LoadM

variable {σ τ α β : Type}

theorem finish_eq (decorate : Decorator σ) (id concept : String) (settings : Settings)
    (loading : Loading σ) :
    finish decorate id concept settings loading =
      if loading.nodes.contains id then
        .error (.duplicateId id) (loading.refuse decorate ⟨id, concept, settings⟩)
      else .ok id (loading.take decorate ⟨id, concept, settings⟩) :=
  rfl

inductive SameResult (R : Loading σ → Loading τ → Prop) :
    EStateM.Result LoadError (Loading σ) α → EStateM.Result LoadError (Loading τ) α → Prop
  | ok (value : α) {a : Loading σ} {b : Loading τ} (h : R a b) :
    SameResult R (.ok value a) (.ok value b)
  | error (cause : LoadError) {a : Loading σ} {b : Loading τ} (h : R a b) :
    SameResult R (.error cause a) (.error cause b)

def Alike (R : Loading σ → Loading τ → Prop) (x : LoadM σ α) (y : LoadM τ α) : Prop :=
  ∀ a b, R a b → SameResult R (x a) (y b)

/-- A way to compare states that two decorators keep up, and that tells which ids are taken. -/
structure Keeps (decorate : Decorator σ) (other : Decorator τ)
    (R : Loading σ → Loading τ → Prop) : Prop where
  contains : ∀ {a b}, R a b → ∀ id, a.nodes.contains id = b.nodes.contains id
  take : ∀ {a b}, R a b → ∀ node, R (a.take decorate node) (b.take other node)
  refuse : ∀ {a b}, R a b → ∀ node, R (a.refuse decorate node) (b.refuse other node)

variable {R : Loading σ → Loading τ → Prop} {decorate : Decorator σ} {other : Decorator τ}

theorem alike_pure (value : α) : Alike R (pure value) (pure value) :=
  fun _ _ h => .ok value h

theorem Alike.bind {x : LoadM σ α} {y : LoadM τ α} {f : α → LoadM σ β} {g : α → LoadM τ β}
    (h : Alike R x y) (hf : ∀ value, Alike R (f value) (g value)) :
    Alike R (x >>= f) (y >>= g) := by
  intro a b hab
  have hxy := h a b hab
  simp only [Bind.bind, EStateM.bind]
  cases hx : x a <;> cases hy : y b <;> rw [hx, hy] at hxy <;> cases hxy
  case ok value a' b' hab' => exact hf value a' b' hab'
  case error cause a' b' hab' => exact .error cause hab'

theorem alike_checkNew (keeps : Keeps decorate other R) (id : NodeId) :
    Alike R (checkNew id) (checkNew id) := by
  intro a b hab
  rw [checkNew, checkNew, keeps.contains hab]
  split
  · exact .error _ hab
  · exact .ok _ hab

theorem alike_finish (keeps : Keeps decorate other R) (id concept : String) (settings : Settings) :
    Alike R (finish decorate id concept settings) (finish other id concept settings) := by
  intro a b hab
  rw [finish_eq, finish_eq, keeps.contains hab]
  split
  · exact .error _ (keeps.refuse hab _)
  · exact .ok _ (keeps.take hab _)

end LoadM

namespace Stored

variable {σ τ : Type} {R : Loading σ → Loading τ → Prop} {decorate : Decorator σ}
  {other : Decorator τ}

theorem alike_buildItems {items : List Stored}
    (h : ∀ item ∈ items, LoadM.Alike R (item.build decorate) (item.build other)) :
    LoadM.Alike R (buildItems decorate items) (buildItems other items) := by
  induction items with
  | nil => exact LoadM.alike_pure _
  | cons item items ih =>
    rw [List.forall_mem_cons] at h
    rw [buildItems, buildItems]
    exact h.1.bind fun value => (ih h.2).bind fun values => LoadM.alike_pure _

theorem alike_buildSettings {settings : List (String × Stored)}
    (h : ∀ e ∈ settings, LoadM.Alike R (e.2.build decorate) (e.2.build other)) :
    LoadM.Alike R (buildSettings decorate settings) (buildSettings other settings) := by
  induction settings with
  | nil => exact LoadM.alike_pure _
  | cons e settings ih =>
    rw [List.forall_mem_cons] at h
    rw [buildSettings, buildSettings]
    exact h.1.bind fun value => (ih h.2).bind fun entries => LoadM.alike_pure _

theorem alike_build (keeps : LoadM.Keeps decorate other R) (stored : Stored) :
    LoadM.Alike R (stored.build decorate) (stored.build other) := by
  induction stored using Stored.induction with
  | node id concept settings ih =>
    rw [build, build]
    refine (LoadM.alike_checkNew keeps id).bind fun _ => ?_
    refine (alike_buildSettings ih).bind fun entries => ?_
    exact (LoadM.alike_finish keeps id concept _).bind fun _ => LoadM.alike_pure _
  | list items ih =>
    rw [build, build]
    exact (alike_buildItems ih).bind fun values => LoadM.alike_pure _
  | _ => exact LoadM.alike_pure _

/-- When a value is refused, the decorator has seen the first of its nodes. -/
def SeesFirst (decorate : Decorator σ) (stored : Stored) : Prop :=
  ∀ {before after : Loading σ} {cause : LoadError},
    stored.build decorate before = .error cause after →
      ∃ seen, seen <+: stored.nodes ∧ after.memory = decorate.memoryAfter before.memory seen

theorem seesFirst_items {items : List Stored} (h : ∀ item ∈ items, item.SeesFirst decorate)
    {before after : Loading σ} {cause : LoadError}
    (hbuild : buildItems decorate items before = .error cause after) :
    ∃ seen, seen <+: nodesOfItems items ∧
      after.memory = decorate.memoryAfter before.memory seen := by
  induction items generalizing before with
  | nil => cases hbuild
  | cons item items ih =>
    obtain ⟨hitem, hitems⟩ := List.forall_mem_cons.mp h
    rw [nodesOfItems]
    rw [buildItems, LoadM.bind_eq_error] at hbuild
    rcases hbuild with hfail | ⟨value, between, hvalue, hrest⟩
    · obtain ⟨seen, hseen, hmemory⟩ := hitem hfail
      exact ⟨seen, hseen.trans (List.prefix_append _ _), hmemory⟩
    · obtain ⟨-, -, rfl⟩ := (builds decorate item).mp hvalue
      rcases LoadM.bind_eq_error.mp hrest with hfail | ⟨_, _, _, hpure⟩
      · obtain ⟨seen, hseen, hmemory⟩ := ih hitems hfail
        refine ⟨item.nodes ++ seen, (List.prefix_append_right_inj _).mpr hseen, ?_⟩
        rw [hmemory, Loading.memory_takeAll, Decorator.memoryAfter_append]
      · exact absurd hpure LoadM.pure_ne_error

theorem seesFirst_node {id concept : String} {settings : List (String × Stored)}
    (h : ∀ e ∈ settings, e.2.SeesFirst decorate) :
    (Stored.node id concept settings).SeesFirst decorate := by
  intro before after cause hbuild
  rw [nodes]
  rw [build, LoadM.bind_eq_error] at hbuild
  rcases hbuild with hcheck | ⟨_, between, hcheck, hrest⟩
  · refine ⟨[], List.nil_prefix, ?_⟩
    rw [LoadM.checkNew] at hcheck
    split at hcheck
    · rw [← (EStateM.Result.error.inj hcheck).2]
      rfl
    · cases hcheck
  obtain ⟨-, rfl⟩ := LoadM.checkNew_eq_ok.mp hcheck
  rcases LoadM.bind_eq_error.mp hrest with hfail | ⟨entries, between, hentries, hrest⟩
  · obtain ⟨seen, hseen, hmemory⟩ := seesFirst_items (List.forall_mem_map.mpr h)
      (buildSettings_eq_error_iff.mp hfail)
    rw [nodesOfItems_eq, ← nodesOfSettings_eq] at hseen
    exact ⟨seen, hseen.trans (List.prefix_append _ _), hmemory⟩
  obtain ⟨-, rfl, rfl⟩ := (buildSettings_eq_ok fun e _ => builds decorate e.2).mp hentries
  rcases LoadM.bind_eq_error.mp hrest with hfinish | ⟨_, _, _, hpure⟩
  · -- the node itself is seen before it is refused
    refine ⟨_, List.prefix_rfl, ?_⟩
    rw [LoadM.finish_eq] at hfinish
    split at hfinish
    · rw [← (EStateM.Result.error.inj hfinish).2, Decorator.memoryAfter_append,
        ← Loading.memory_takeAll decorate]
      rfl
    · cases hfinish
  · exact absurd hpure LoadM.pure_ne_error

theorem seesFirst (decorate : Decorator σ) (stored : Stored) : stored.SeesFirst decorate := by
  induction stored using Stored.induction with
  | node id concept settings ih => exact seesFirst_node ih
  | list items ih =>
    intro before after cause hbuild
    rw [build, LoadM.bind_eq_error] at hbuild
    rcases hbuild with hfail | ⟨_, _, _, hpure⟩
    · exact seesFirst_items ih hfail
    · exact absurd hpure LoadM.pure_ne_error
  | _ =>
    intro before after cause hbuild
    cases hbuild

end Stored

namespace Document

variable {σ τ : Type}

section Loaded

variable {decorate : Decorator σ} {memory : σ} {root concept : String}
  {settings : List (String × Stored)} {loading : Loading σ}

theorem loadWith_of_ok {value : Value}
    (h : (Stored.node root concept settings).build decorate ⟨.empty, memory⟩ = .ok value loading) :
    loadWith decorate memory (.node root concept settings) =
      (.ok (.ofNodes root loading.nodes (Stored.contains_of_build h)), loading.memory) := by
  rw [loadWith]
  split
  next found hfound =>
    cases h.symm.trans hfound
    rfl
  next hfound => cases h.symm.trans hfound

theorem loadWith_of_error {cause : LoadError}
    (h : (Stored.node root concept settings).build decorate ⟨.empty, memory⟩ =
      .error cause loading) :
    loadWith decorate memory (.node root concept settings) = (.error cause, loading.memory) := by
  rw [loadWith]
  split
  next hfound => cases h.symm.trans hfound
  next hfound =>
    cases h.symm.trans hfound
    rfl

end Loaded

theorem of_loadWith_ok {decorate : Decorator σ} {memory : σ} {stored : Stored} {doc : Document}
    (h : (loadWith decorate memory stored).1 = .ok doc) :
    (∃ concept settings, stored = .node doc.root concept settings) ∧
      doc.nodes = ((Loading.mk .empty memory).takeAll decorate stored.nodes).nodes ∧
      doc.parents = parentsOf doc.nodes ∧
      (loadWith decorate memory stored).2 = decorate.memoryAfter memory stored.nodes := by
  cases stored with
  | node root concept settings =>
    cases hbuild : (Stored.node root concept settings).build decorate ⟨.empty, memory⟩ with
    | error cause loading =>
      rw [loadWith_of_error hbuild] at h
      cases h
    | ok value loading =>
      obtain ⟨-, -, hloading⟩ := (Stored.builds decorate _).mp hbuild
      rw [loadWith_of_ok hbuild] at h ⊢
      cases h
      refine ⟨⟨concept, settings, rfl⟩, congrArg Loading.nodes hloading, rfl, ?_⟩
      exact (congrArg Loading.memory hloading).trans (Loading.memory_takeAll decorate _ _)
  | _ => cases h

theorem keeps_ids (decorate : Decorator σ) (other : Decorator τ) :
    LoadM.Keeps decorate other fun a b => ∀ id, a.nodes.contains id = b.nodes.contains id where
  contains := fun h => h
  take := fun h node id => by
    rw [Loading.take, Loading.take, TextMap.contains_insert, TextMap.contains_insert, h]
  refuse := fun h _ => h

theorem keeps_noting (decorate : Decorator σ) :
    LoadM.Keeps decorate.noting decorate fun a b => a.nodes = b.nodes ∧ a.memory.1 = b.memory where
  contains := fun h id => by rw [h.1]
  take := fun h node => by
    simp only [Loading.take, Decorator.noting, StateT.run, h, and_self]
  refuse := fun h node => by
    simp only [Loading.refuse, Decorator.noting, StateT.run, h, and_self]

theorem loadWith_error_iff (decorate : Decorator σ) (other : Decorator τ) (memory : σ)
    (memory' : τ) (stored : Stored) (cause : LoadError) :
    (loadWith decorate memory stored).1 = .error cause ↔
      (loadWith other memory' stored).1 = .error cause := by
  cases stored with
  | node root concept settings =>
    have h := Stored.alike_build (keeps_ids decorate other) (.node root concept settings)
      ⟨.empty, memory⟩ ⟨.empty, memory'⟩ fun _ => rfl
    cases hleft : (Stored.node root concept settings).build decorate ⟨.empty, memory⟩ <;>
      cases hright : (Stored.node root concept settings).build other ⟨.empty, memory'⟩ <;>
      rw [hleft, hright] at h <;> cases h
    case ok =>
      rw [loadWith_of_ok hleft, loadWith_of_ok hright]
      exact iff_of_false nofun nofun
    case error =>
      rw [loadWith_of_error hleft, loadWith_of_error hright]
  | _ => rfl

theorem loadWith_noting (decorate : Decorator σ) (memory : σ) (stored : Stored) :
    (loadWith decorate.noting (memory, []) stored).1 = (loadWith decorate memory stored).1 ∧
      (loadWith decorate.noting (memory, []) stored).2.1 = (loadWith decorate memory stored).2 := by
  cases stored with
  | node root concept settings =>
    have h := Stored.alike_build (keeps_noting decorate) (.node root concept settings)
      ⟨.empty, (memory, [])⟩ ⟨.empty, memory⟩ ⟨rfl, rfl⟩
    cases hnoting : (Stored.node root concept settings).build decorate.noting
        ⟨.empty, (memory, [])⟩ <;>
      cases hplain : (Stored.node root concept settings).build decorate ⟨.empty, memory⟩ <;>
      rw [hnoting, hplain] at h <;> cases h
    case ok hstate =>
      rw [loadWith_of_ok hnoting, loadWith_of_ok hplain]
      refine ⟨congrArg Except.ok (eq_of_fields rfl hstate.1 ?_), hstate.2⟩
      exact congrArg parentsOf hstate.1
    case error hstate =>
      rw [loadWith_of_error hnoting, loadWith_of_error hplain]
      exact ⟨rfl, hstate.2⟩
  | _ => exact ⟨rfl, rfl⟩

theorem seen_of_loadWith (decorate : Decorator σ) (memory : σ) (stored : Stored) :
    ∃ seen, seen <+: stored.nodes ∧
      (loadWith decorate memory stored).2 = decorate.memoryAfter memory seen ∧
      ∀ doc, (loadWith decorate memory stored).1 = .ok doc → seen = stored.nodes := by
  cases hloaded : (loadWith decorate memory stored).1 with
  | ok doc => exact ⟨_, List.prefix_rfl, (of_loadWith_ok hloaded).2.2.2, fun _ _ => rfl⟩
  | error cause =>
    cases stored with
    | node root concept settings =>
      cases hbuild : (Stored.node root concept settings).build decorate ⟨.empty, memory⟩ with
      | ok value loading =>
        rw [loadWith_of_ok hbuild] at hloaded
        cases hloaded
      | error cause loading =>
        obtain ⟨seen, hseen, hmemory⟩ := Stored.seesFirst decorate _ hbuild
        refine ⟨seen, hseen, ?_, nofun⟩
        rw [loadWith_of_error hbuild, hmemory]
    | _ => exact ⟨[], List.nil_prefix, rfl, nofun⟩

section Shapes

variable {doc plain : Document}

theorem parentsOf_congr {left right : TextMap Node} (h : SameShapes left right) :
    parentsOf left = parentsOf right := by
  have hshapes (nodes : TextMap Node) : parentsOf nodes =
      ((nodes.entries.map fun e => (e.1, e.2.shape)).map Prod.snd).foldl
        (fun parents shape => adopt shape.1 shape.2 parents) .empty := by
    simp only [parentsOf, TextMap.values, List.map_map, List.foldl_map]
    rfl
  rw [hshapes left, hshapes right, TextMap.map_entries_congr h]

theorem contains_congr (h : SameShapes doc.nodes plain.nodes) (id : NodeId) :
    doc.contains id = plain.contains id := by
  have hsome := congrArg Option.isSome (h id)
  rwa [Option.isSome_map, Option.isSome_map] at hsome

theorem size_congr (h : SameShapes doc.nodes plain.nodes) : doc.size = plain.size := by
  have hlength := congrArg List.length (TextMap.map_entries_congr h)
  rwa [List.length_map, List.length_map] at hlength

theorem treeWithin_congr (h : SameShapes doc.nodes plain.nodes) (depth : Nat) (id : NodeId) :
    (doc.treeWithin depth id).map Node.id = (plain.treeWithin depth id).map Node.id := by
  induction depth generalizing id with
  | zero => rfl
  | succ depth ih =>
    have hid : (doc.get? id).map Node.shape = (plain.get? id).map Node.shape := h id
    rw [treeWithin, treeWithin]
    cases hdoc : doc.get? id with
    | none =>
      rw [hdoc] at hid
      rw [Option.map_eq_none_iff.mp hid.symm]
    | some node =>
      rw [hdoc] at hid
      obtain ⟨other, hother, hshape⟩ := Option.map_eq_some_iff.mp hid.symm
      obtain ⟨hsame, hchildren⟩ := Prod.mk.inj hshape
      simp only [hother, List.map_cons, List.map_flatMap, ih, hsame, hchildren]

end Shapes

def decorations (decorate : Decorator σ) (memory : σ) (stored : Stored) : List (Node × Node) :=
  (loadWith decorate.noting (memory, []) stored).2.2

theorem decorations_eq {decorate : Decorator σ} {memory : σ} {stored : Stored} {seen : List Node}
    (h : (loadWith decorate.noting (memory, []) stored).2 =
      decorate.noting.memoryAfter (memory, []) seen) :
    decorations decorate memory stored = decorate.calls memory seen := by
  rw [decorations, h, Decorator.memoryAfter_noting, List.nil_append]

/-- A decorator that leaves the ids and the children of nodes as they are changes neither which
stored values are loaded nor how the nodes of the document own each other. It is given the nodes
one after another, those below a node before the node: all of them if the document is loaded, the
first of them if not. -/
theorem loadWith_transparent (decorate : Decorator σ) (memory : σ) (stored : Stored)
    (kept : ∀ call ∈ decorations decorate memory stored,
      call.2.id = call.1.id ∧ call.2.children = call.1.children) :
    (∀ cause, (loadWith decorate memory stored).1 = .error cause ↔ load stored = .error cause) ∧
      (∀ doc plain, (loadWith decorate memory stored).1 = .ok doc → load stored = .ok plain →
        doc.root = plain.root ∧ (∀ id, doc.contains id = plain.contains id) ∧
        (∀ id, doc.parent? id = plain.parent? id) ∧
        ∀ id, (doc.tree id).map Node.id = (plain.tree id).map Node.id) ∧
      ((loadWith decorate.noting (memory, []) stored).1 = (loadWith decorate memory stored).1 ∧
        (loadWith decorate.noting (memory, []) stored).2.1 = (loadWith decorate memory stored).2) ∧
      (∀ doc, (loadWith decorate memory stored).1 = .ok doc →
        (decorations decorate memory stored).map Prod.fst = stored.nodes) ∧
      (decorations decorate memory stored).map Prod.fst <+: stored.nodes := by
  have hnoting := loadWith_noting decorate memory stored
  obtain ⟨seen, hseen, hmemory, hall⟩ := seen_of_loadWith decorate.noting (memory, []) stored
  rw [hnoting.1] at hall
  rw [decorations_eq hmemory] at kept ⊢
  rw [Decorator.map_fst_calls]
  refine ⟨loadWith_error_iff decorate _ memory () stored, ?_, hnoting, hall, hseen⟩
  intro doc plain hdoc hplain
  cases hall doc hdoc
  obtain ⟨⟨concept, settings, hroot⟩, hnodes, hparents, -⟩ := of_loadWith_ok hdoc
  obtain ⟨⟨concept', settings', hroot'⟩, hnodes', hparents', -⟩ := of_loadWith_ok hplain
  have hshapes : SameShapes doc.nodes plain.nodes := by
    rw [hnodes, hnodes']
    refine Loading.sameShapes_takeAll (fun call hcall => ?_) fun _ => rfl
    exact Prod.ext (kept call hcall).1 (kept call hcall).2
  refine ⟨(Stored.node.inj (hroot.symm.trans hroot')).1, contains_congr hshapes, fun id => ?_,
    fun id => ?_⟩
  · rw [parent?, parent?, hparents, hparents', parentsOf_congr hshapes]
  · rw [tree, tree, size_congr hshapes, treeWithin_congr hshapes]

theorem loadWith_transparent_numbered :
    let total := Stored.node "b" "Attribute" [("unit", .node "c" "Unit" []),
      ("value", .reference (some "a"))]
    let stored := Stored.node "r" "Record Type"
      [("attributes", .list [.node "a" "Attribute" [], total])]
    let decorate : Decorator Nat := fun node count =>
      ({ node with settings := node.settings.insert "number" (.int (.ofNat count)) }, count + 1)
    (∀ call ∈ decorations decorate 0 stored,
        call.2.id = call.1.id ∧ call.2.children = call.1.children) ∧
      (decorations decorate 0 stored).map (fun call => call.1.id) = ["a", "c", "b", "r"] ∧
      ∃ doc plain, (loadWith decorate 0 stored).1 = .ok doc ∧ load stored = .ok plain ∧
        doc.parent? "c" = plain.parent? "c" ∧
        (doc.tree "r").map Node.id = (plain.tree "r").map Node.id := by
  intro total stored decorate
  have hkept : ∀ call ∈ decorations decorate 0 stored,
      call.2.id = call.1.id ∧ call.2.children = call.1.children := by
    decide +kernel
  obtain ⟨-, hsame, -, hcalls, -⟩ := loadWith_transparent decorate 0 stored hkept
  obtain ⟨-, -, hparents, htrees⟩ := hsame _ _ rfl rfl
  refine ⟨hkept, ?_, _, _, rfl, rfl, hparents "c", htrees "r"⟩
  have hids := congrArg (List.map Node.id) (hcalls _ rfl)
  rwa [List.map_map] at hids

/-- When a node comes a second time, what is stored behind it is not seen any more. -/
theorem decorations_stop_at_repeat :
    let stored := Stored.node "r" "Record Type"
      [("attributes", .list [.node "a" "Data Attribute" [], .node "a" "Data Attribute" []])]
    let decorate : Decorator Unit := fun node =>
      return { node with settings := node.settings.insert "decorated" (.bool true) }
    (∀ node ∈ stored.nodes, ((decorate node).run ()).1.id = node.id ∧
        ((decorate node).run ()).1.children = node.children) ∧
      load stored = .error (.duplicateId "a") ∧
      stored.nodes.map Node.id = ["a", "a", "r"] ∧
      (decorations decorate () stored).map (fun call => call.1.id) = ["a"] ∧
      (decorations decorate () stored).map Prod.fst ≠ stored.nodes := by
  intro stored decorate
  have hseen : (decorations decorate () stored).map (fun call => call.1.id) = ["a"] := by
    decide +kernel
  refine ⟨by decide +kernel, rfl, by decide +kernel, hseen, fun h => ?_⟩
  have hids := congrArg (List.map Node.id) h
  rw [List.map_map] at hids
  exact absurd (hseen.symm.trans hids) (by decide +kernel)

end Document

end RecordForms
