import RecordForms.Proofs.Problems
import RecordForms.Proofs.Pruning
import RecordForms.Proofs.TreeOrder

/-! References that lead nowhere. A document has the same nodes and the same references as the
stored value it is loaded from, whether a reference stands before its target or behind it. The code
of a record tells of no reference that is not found by a walk from the root as well. -/
namespace RecordForms

namespace Value

@[simp] theorem targetsOfAll_eq (items : List Value) : targetsOfAll items = items.flatMap targets := by
  induction items with
  | nil => rfl
  | cons item items ih => simp [targetsOfAll, ih]

end Value

namespace Stored

mutual

/-- The targets of the references in a stored value, without those that nodes in it hold. -/
def targets : Stored → List NodeId
  | .reference (some target) => [target]
  | .list items => targetsOfItems items
  | _ => []

def targetsOfItems : List Stored → List NodeId
  | [] => []
  | item :: items => item.targets ++ targetsOfItems items

end

mutual

/-- All references in a stored value, as they are reported when they lead nowhere: a node comes
before those below it, and what it holds itself comes in the order of its settings. -/
def references : Stored → List Dangling
  | .node id _ settings =>
    (settings.flatMap fun e => e.2.targets.map fun target => ⟨id, e.1, target⟩)
      ++ referencesOfSettings settings
  | .list items => referencesOfItems items
  | _ => []

def referencesOfItems : List Stored → List Dangling
  | [] => []
  | item :: items => item.references ++ referencesOfItems items

def referencesOfSettings : List (String × Stored) → List Dangling
  | [] => []
  | (_, item) :: settings => item.references ++ referencesOfSettings settings

end

inductive RefersTo : Stored → NodeId → Prop where
  | here (target : NodeId) : RefersTo (.reference (some target)) target
  | item {items : List Stored} {item : Stored} {target : NodeId} (hitem : item ∈ items)
      (h : RefersTo item target) : RefersTo (.list items) target
  | setting {id concept : String} {settings : List (String × Stored)} {e : String × Stored}
      {target : NodeId} (he : e ∈ settings) (h : RefersTo e.2 target) :
      RefersTo (.node id concept settings) target

@[simp] theorem targetsOfItems_eq (items : List Stored) :
    targetsOfItems items = items.flatMap targets := by
  induction items with
  | nil => rfl
  | cons item items ih => simp [targetsOfItems, ih]

@[simp] theorem referencesOfItems_eq (items : List Stored) :
    referencesOfItems items = items.flatMap references := by
  induction items with
  | nil => rfl
  | cons item items ih => simp [referencesOfItems, ih]

@[simp] theorem referencesOfSettings_eq (settings : List (String × Stored)) :
    referencesOfSettings settings = settings.flatMap (references ·.2) := by
  induction settings with
  | nil => rfl
  | cons e settings ih => simp [referencesOfSettings, ih]

@[simp] theorem targets_held (stored : Stored) : stored.held.targets = stored.targets := by
  induction stored using Stored.induction with
  | reference target => cases target <;> simp [held, Value.targets, targets]
  | list items ih =>
    rw [held, Value.targets, Value.targetsOfAll_eq, heldItems_eq, targets, targetsOfItems_eq,
      List.flatMap_map]
    exact List.flatMap_congr ih
  | _ => simp [held, Value.targets, targets]

theorem RefersTo.mem {stored : Stored} {target : NodeId} (h : stored.RefersTo target) :
    target ∈ stored.targets ∨ target ∈ stored.references.map Dangling.target := by
  induction h with
  | here target => exact .inl (List.mem_singleton_self target)
  | item hitem _ ih =>
    rw [targets, references, targetsOfItems_eq, referencesOfItems_eq, List.map_flatMap]
    exact ih.imp (fun h => List.mem_flatMap.mpr ⟨_, hitem, h⟩)
      fun h => List.mem_flatMap.mpr ⟨_, hitem, h⟩
  | @setting id concept settings e target he _ ih =>
    rw [references, referencesOfSettings_eq, List.map_append, List.mem_append]
    refine .inr (ih.imp (fun h => ?_) fun h => ?_)
    · exact List.mem_map.mpr ⟨⟨id, e.1, target⟩,
        List.mem_flatMap.mpr ⟨e, he, List.mem_map_of_mem h⟩, rfl⟩
    · rw [List.map_flatMap]
      exact List.mem_flatMap.mpr ⟨e, he, h⟩

theorem references_eq {stored : Stored} (sorted : stored.Sorted) :
    stored.references = stored.preorder.flatMap fun node =>
      node.references.map fun reference => ⟨node.id, reference.1, reference.2⟩ := by
  induction stored using Stored.induction with
  | node id concept settings ih =>
    rw [sorted_node_iff] at sorted
    have hentries : (TextMap.ofList (heldSettings settings)).entries = heldSettings settings :=
      TextMap.entries_ofList (List.pairwise_map.mpr sorted.1)
    rw [references, preorder, List.flatMap_cons, referencesOfSettings_eq, preorderOfSettings_eq,
      List.flatMap_assoc]
    congr 1
    · rw [Node.references, hentries, heldSettings, List.flatMap_map, List.map_flatMap]
      simp only [targets_held, List.map_map]
      rfl
    · exact List.flatMap_congr fun e he => ih e he (sorted.2 e he)
  | list items ih =>
    rw [sorted_list_iff] at sorted
    rw [references, preorder, referencesOfItems_eq, preorderOfItems_eq, List.flatMap_assoc]
    exact List.flatMap_congr fun item hitem => ih item hitem (sorted item hitem)
  | _ => simp [references, preorder]

end Stored

namespace Document

variable {stored : Stored} {doc : Document}

theorem contains_of_load (h : load stored = .ok doc) {id : NodeId} :
    doc.contains id = true ↔ id ∈ stored.ids := by
  simp only [contains_iff, get?_of_load h, Stored.ids, List.mem_map]

theorem tree_of_load (h : load stored = .ok doc) (sorted : stored.Sorted) :
    doc.tree doc.root = stored.preorder := by
  rw [← preorder_saveId (forest_load h) doc.root_mem, ← save, save_load h sorted]

theorem held_of_mem_references (h : load stored = .ok doc) (sorted : stored.Sorted)
    {reference : Dangling} (hmem : reference ∈ stored.references) :
    ∃ holder value, doc.get? reference.node = some holder ∧
      holder.get? reference.property = some value ∧ reference.target ∈ value.targets := by
  rw [Stored.references_eq sorted, ← tree_of_load h sorted] at hmem
  obtain ⟨holder, hholder, hmem⟩ := List.mem_flatMap.mp hmem
  obtain ⟨pair, hpair, rfl⟩ := List.mem_map.mp hmem
  obtain ⟨e, he, hpair⟩ := List.mem_flatMap.mp hpair
  obtain ⟨target, htarget, rfl⟩ := List.mem_map.mp hpair
  exact ⟨holder, e.2, ((mem_tree_iff (forest_load h)).mp hholder).1,
    (TextMap.mem_entries_iff _ _ _).mp he, htarget⟩

/-- A reference anywhere in a stored value is held by the document that is loaded from it, and
leads to a node exactly if a node with that id is stored. Those that lead nowhere are listed in the
order in which they are stored. -/
theorem load_references (sorted : stored.Sorted) (h : load stored = .ok doc) :
    (∀ target, stored.RefersTo target →
      (∃ id holder property value, doc.get? id = some holder ∧
        holder.get? property = some value ∧ target ∈ value.targets) ∧
      ((∃ node, doc.resolve (some target) = .resolved node ∧ node.id = target) ↔
        target ∈ stored.ids)) ∧
      doc.dangling = stored.references.filter fun reference => reference.target ∉ stored.ids := by
  refine ⟨fun target hrefers => ⟨?_, ?_⟩, ?_⟩
  · obtain ⟨⟨concept, settings, rfl⟩, -⟩ := load_eq_ok.mp h
    obtain ⟨reference, href, rfl⟩ :=
      List.mem_map.mp (hrefers.mem.resolve_left List.not_mem_nil)
    obtain ⟨holder, value, hheld⟩ := held_of_mem_references h sorted href
    exact ⟨_, holder, _, value, hheld⟩
  · rw [← contains_of_load h, contains_iff, resolve]
    cases hget : doc.get? target with
    | none => simp
    | some node => simpa using (forest_load h).keyed hget
  · have hgone (target : NodeId) : (!doc.contains target) = decide (target ∉ stored.ids) := by
      rw [Bool.eq_iff_iff, decide_eq_true_iff, ← contains_of_load h, Bool.not_eq_true',
        Bool.not_eq_true]
    rw [dangling, tree_of_load h sorted, Stored.references_eq sorted, List.filter_flatMap]
    refine List.flatMap_congr fun node _ => ?_
    simp only [danglingAt_eq, hgone]

theorem load_references_forward :
    let late := Stored.node "late" "Attribute" [("of", .reference (some "r")),
      ("same", .reference (some "late")), ("to", .reference (some "lost"))]
    let stored := Stored.node "r" "Record Type" [
      ("a", .list [.reference (some "late"), .list [.reference (some "gone")], .reference none,
        .reference (some "gone")]),
      ("b", late), ("c", .reference (some "gone"))]
    stored.Sorted ∧ stored.RefersTo "late" ∧ ∃ doc, load stored = .ok doc ∧
      (∃ node, doc.resolve (some "late") = .resolved node ∧ node.id = "late") ∧
      doc.dangling = [⟨"r", "a", "gone"⟩, ⟨"r", "a", "gone"⟩, ⟨"r", "c", "gone"⟩,
        ⟨"late", "to", "lost"⟩] := by
  intro late stored
  have hlate : late.Sorted := ⟨by decide +kernel, trivial, trivial, trivial, trivial⟩
  have hlist : Stored.Sorted (.list [.reference (some "late"), .list [.reference (some "gone")],
      .reference none, .reference (some "gone")]) :=
    ⟨trivial, ⟨trivial, trivial⟩, trivial, trivial, trivial⟩
  have hsorted : stored.Sorted := ⟨by decide +kernel, hlist, hlate, trivial, trivial⟩
  have hrefers : stored.RefersTo "late" :=
    .setting List.mem_cons_self (.item List.mem_cons_self (.here "late"))
  obtain ⟨hresolves, hdangling⟩ := load_references hsorted rfl
  exact ⟨hsorted, hrefers, _, rfl, (hresolves "late" hrefers).2.mpr (by decide +kernel),
    hdangling.trans (by decide +kernel)⟩

theorem mem_dangling {node : Node} {property : String} {value : Value} {target : NodeId}
    (hnode : node ∈ doc.tree doc.root) (hvalue : node.get? property = some value)
    (htarget : target ∈ value.targets) (hgone : doc.contains target = false) :
    ⟨node.id, property, target⟩ ∈ doc.dangling := by
  have hreference : (property, target) ∈ node.references :=
    List.mem_flatMap.mpr ⟨(property, value), (TextMap.mem_entries_iff _ _ _).mpr hvalue,
      List.mem_map_of_mem htarget⟩
  refine List.mem_flatMap.mpr ⟨node, hnode, ?_⟩
  rw [danglingAt_eq, List.mem_filter]
  exact ⟨List.mem_map.mpr ⟨_, hreference, rfl⟩, by simp [hgone]⟩

theorem listed_of_reported (forest : doc.Forest) {record : Node} (hroot : record.id = doc.root)
    {d : Diagnostic} {texts : List String} (h : RecordModule.Reported doc record d texts)
    (hkind : d.kind = .danglingReference) :
    ∃ node target, doc.get? node.id = some node ∧ d.node = some node.id ∧
      d.message = "attribute reference to unknown object \"" ++ target ++ "\"" ∧
      ⟨node.id, "attribute", target⟩ ∈ doc.dangling := by
  cases h with
  | fixed id hmessage =>
    subst hkind
    simp [RecordModule.fixedMessages] at hmessage
  | @dangling node target hnode htarget hgone =>
    rw [hroot] at hnode
    exact ⟨node, target, ((mem_tree_iff forest).mp hnode).1, rfl, rfl,
      mem_dangling hnode htarget (List.mem_singleton_self target) hgone⟩
  | _ => contradiction

/-- Where generation meets a reference to an unknown node, the references of the document that lead
nowhere have it too. So there is no such problem if all of them lead somewhere. -/
theorem dangling_problem_listed (hdoc : doc.Reachable) (options : Options) :
    (∀ d ∈ (generate doc options).diagnostics, d.kind = .danglingReference →
      ∃ node target, doc.get? node.id = some node ∧ d.node = some node.id ∧
        d.message = "attribute reference to unknown object \"" ++ target ++ "\"" ∧
        ⟨node.id, "attribute", target⟩ ∈ doc.dangling) ∧
      (doc.dangling = [] →
        ∀ d ∈ (generate doc options).diagnostics, d.kind ≠ .danglingReference) := by
  have wf := hdoc.wellFormed
  have hroot := RecordModule.get?_rootNode doc
  have hkey : doc.rootNode.id = doc.root := wf.keyed hroot
  have hreport := RecordModule.reportable_of_mem wf (hkey.symm ▸ hroot) options
  constructor
  · intro d hd hkind
    obtain ⟨texts, hreported⟩ := hreport d hd
    exact listed_of_reported wf.toForest hkey hreported hkind
  · intro hnone d hd hkind
    obtain ⟨texts, hreported⟩ := hreport d hd
    obtain ⟨node, target, -, -, -, hmem⟩ := listed_of_reported wf.toForest hkey hreported hkind
    rw [hnone] at hmem
    cases hmem

/-- A reference that is lost below an operation, and another one where no code is generated. -/
theorem dangling_problem_listed_operand :
    let doc := List.foldl Document.after (.new "r" "Record Type") [
      .create "lost" "Attribute Reference" (.ofList [("attribute", .reference (some "gone"))]),
      .create "two" "Number" (.ofList [("of", .reference (some "none")), ("value", .int 2)]),
      .create "sum" "Binary Operation" (.ofList [("left operand", .node "two"),
        ("operator", .text "+"), ("right operand", .node "lost")]),
      .create "total" "Attribute" (.ofList [("name", .text "total"), ("type", .text "amount"),
        ("value", .node "sum")]),
      .assign "r" "name" (some (.text "order")),
      .assign "r" "attributes" (some (.list [.node "total"]))]
    let problem : Diagnostic := ⟨.danglingReference, some "lost",
      "attribute reference to unknown object \"gone\""⟩
    doc.Reachable ∧ problem ∈ (generate doc {}).diagnostics ∧
      (∃ node target, some "lost" = some node ∧
        problem.message = "attribute reference to unknown object \"" ++ target ++ "\"" ∧
        ⟨node, "attribute", target⟩ ∈ doc.dangling) ∧
      doc.dangling = [⟨"two", "of", "none"⟩, ⟨"lost", "attribute", "gone"⟩] := by
  intro doc problem
  have hdoc : doc.Reachable :=
    (Document.Reachable.new "r" "Record Type").afterAll (by decide +kernel)
  have hproblem : problem ∈ (generate doc {}).diagnostics := by decide +kernel
  obtain ⟨node, target, -, hid, hmessage, hmem⟩ :=
    (dangling_problem_listed hdoc {}).1 problem hproblem rfl
  exact ⟨hdoc, hproblem, ⟨node.id, target, hid, hmessage, hmem⟩, by decide +kernel⟩

end Document

end RecordForms
