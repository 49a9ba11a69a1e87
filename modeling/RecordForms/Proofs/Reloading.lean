import RecordForms.Proofs.CleanModule
import RecordForms.Proofs.Saving

/-! Generation after saving and loading. Loading forgets the nodes that the root does not lead to;
if no node below the root refers to one of them, nothing that is generated can tell. -/
namespace RecordForms

namespace Generated

theorem forEach_congr {α β : Type} {f g : α → Generated β} {as : List α}
    (h : ∀ a ∈ as, f a = g a) : forEach f as = forEach g as := by
  induction as with
  | nil => rfl
  | cons a as ih =>
    rw [List.forall_mem_cons] at h
    rw [forEach, forEach, h.1, ih h.2]

end Generated

namespace Document

variable {doc : Document} {id : NodeId} {node : Node} {value : Value}

/-- What a node below the root refers to is below the root too, or is not there at all. -/
def Settled (doc : Document) : Prop :=
  ∀ id node, doc.Leads doc.root id → doc.get? id = some node → ∀ value ∈ node.settings.values,
    ∀ target ∈ value.targets, doc.Leads doc.root target ∨ doc.contains target = false

theorem get?_prune_of_leads (forest : doc.Forest) (h : doc.Leads doc.root id) :
    doc.prune.get? id = doc.get? id := by
  rw [get?_prune, if_pos ((isReachable_iff forest).mpr h)]

def Below (doc : Document) (value : Value) : Prop := ∀ id ∈ value.owned, doc.Leads doc.root id

theorem below_of_get? (h : doc.Leads doc.root id) (hget : doc.get? id = some node)
    {property : String} (hvalue : node.get? property = some value) : doc.Below value :=
  fun _ hchild => h.tail (owns_of_get? hget hvalue hchild)

theorem nodeOf?_prune (forest : doc.Forest) (h : doc.Below value) :
    doc.prune.nodeOf? value = doc.nodeOf? value := by
  cases value with
  | node id => exact get?_prune_of_leads forest (h id (List.mem_singleton_self id))
  | _ => rfl

theorem get?_prune_of_target (forest : doc.Forest) (settled : doc.Settled)
    (h : doc.Leads doc.root id) (hget : doc.get? id = some node)
    (hvalue : value ∈ node.settings.values) {target : NodeId} (htarget : target ∈ value.targets) :
    doc.prune.get? target = doc.get? target := by
  rcases settled id node h hget value hvalue target htarget with hleads | hgone
  · exact get?_prune_of_leads forest hleads
  · have hnone : doc.get? target = none := by simpa [contains, TextMap.contains, get?] using hgone
    rw [get?_prune, hnone, ite_self]

theorem resolve_prune (forest : doc.Forest) (settled : doc.Settled)
    (h : doc.Leads doc.root id) (hget : doc.get? id = some node) {target : Option NodeId}
    (hreference : (node.get? Property.referenced).bind Value.asReference? = some target) :
    doc.prune.resolve target = doc.resolve target := by
  obtain ⟨value, hvalue, htarget⟩ := Option.bind_eq_some_iff.mp hreference
  obtain rfl := Expression.asReference?_eq_some htarget
  cases target with
  | none => rfl
  | some key =>
    rw [resolve, resolve, get?_prune_of_target forest settled h hget
      (TextMap.mem_values.mpr ⟨_, hvalue⟩) (List.mem_singleton_self key)]

theorem referencedBy?_prune (forest : doc.Forest) (settled : doc.Settled)
    (h : doc.Leads doc.root id) (hget : doc.get? id = some node) :
    doc.prune.referencedBy? node = doc.referencedBy? node := by
  unfold referencedBy?
  apply Option.bind_congr
  intro target htarget
  rw [resolve_prune forest settled h hget htarget]

theorem tree_prune (forest : doc.Forest) (h : doc.Leads doc.root id) :
    doc.prune.tree id = doc.tree id := by
  induction id using (descending forest).induction with
  | _ id ih =>
    rw [tree_eq forest, tree_eq (forest_prune forest), get?_prune_of_leads forest h]
    cases hget : doc.get? id with
    | none => rfl
    | some node =>
      refine congrArg (node :: ·) (List.flatMap_congr fun child hchild => ?_)
      have hown : doc.Owns id child := ⟨node, hget, hchild⟩
      exact ih child hown (h.tail hown)

theorem referencedIn_prune (forest : doc.Forest) (settled : doc.Settled)
    (h : doc.Leads doc.root id) (hget : doc.get? id = some node) (property : String) :
    doc.prune.referencedIn node property = doc.referencedIn node property := by
  unfold referencedIn
  split
  next value hvalue =>
    have hbelow := below_of_get? h hget hvalue
    have hinstances : doc.prune.instancesIn Concept.attributeReference value =
        doc.instancesIn Concept.attributeReference value := by
      refine List.flatMap_congr fun top htop => ?_
      rw [instances, instances, tree_prune forest (hbelow top htop)]
    rw [hinstances]
    refine congrArg (List.map _) (List.filterMap_congr fun ref href => ?_)
    obtain ⟨top, htop, href⟩ := List.mem_flatMap.mp href
    obtain ⟨hnode, hleads⟩ := (mem_tree_iff forest).mp (List.mem_filter.mp href).1
    exact referencedBy?_prune forest settled ((hbelow top htop).trans hleads) hnode
  next => rfl

theorem reads_prune (forest : doc.Forest) (settled : doc.Settled)
    (h : doc.Leads doc.root id) (hget : doc.get? id = some node) :
    doc.prune.reads node = doc.reads node := by
  simp only [reads, referencedIn_prune forest settled h hget]

theorem dangling_prune (forest : doc.Forest) (settled : doc.Settled) :
    doc.prune.dangling = doc.dangling := by
  have hroot : doc.prune.root = doc.root := rfl
  rw [dangling, dangling, hroot, tree_prune forest .refl]
  refine List.flatMap_congr fun node hnode => ?_
  obtain ⟨hget, hleads⟩ := (mem_tree_iff forest).mp hnode
  refine List.flatMap_congr fun entry hentry => congrArg (List.map _) ?_
  refine List.filter_congr fun target htarget => ?_
  have hkept := get?_prune_of_target forest settled hleads hget (List.mem_map_of_mem hentry) htarget
  exact congrArg (fun found => !found.isSome) hkept

end Document

namespace Expression

variable {doc : Document} {id : NodeId} {node : Node} {value : Value}

theorem attributeReference_prune (forest : doc.Forest) (settled : doc.Settled)
    (h : doc.Leads doc.root id) (hget : doc.get? id = some node) :
    attributeReference doc.prune node = attributeReference doc node := by
  unfold attributeReference
  cases href : (node.get? Property.referenced).bind Value.asReference? with
  | none => rfl
  | some target => rw [Option.getD_some, Document.resolve_prune forest settled h hget href]

/-- Rendering goes down to nodes that are kept, so it gives the same, whatever depths are left. -/
theorem renderWithin_prune (forest : doc.Forest) (settled : doc.Settled) (table : OperatorTable)
    {d e : Nat} {value : Value} (hbelow : doc.Below value)
    (hd : ∀ id ∈ value.owned, doc.prune.Within d id) (he : ∀ id ∈ value.owned, doc.Within e id)
    (path : List Node) :
    renderWithin doc.prune table d value path = renderWithin doc table e value path := by
  induction d generalizing e value path with
  | zero =>
    have hnone := nodeOf?_of_within_zero (Document.forest_prune forest) hd
    rw [renderWithin_of_none hnone,
      renderWithin_of_none ((Document.nodeOf?_prune forest hbelow).symm.trans hnone)]
  | succ d ih =>
    have hsame := Document.nodeOf?_prune forest hbelow
    cases hnode : doc.nodeOf? value with
    | none => rw [renderWithin_of_none hnode, renderWithin_of_none (hsame.trans hnode)]
    | some node =>
      obtain ⟨e, rfl⟩ := exists_depth_eq_succ forest hnode he
      obtain ⟨id, rfl, hget⟩ := nodeOf?_eq_some hnode
      have hkept := hsame.trans hnode
      have hleads := hbelow id (List.mem_singleton_self id)
      refine renderWithin_congr hkept hnode
        (attributeReference_prune forest settled hleads hget) rfl fun property held hheld => ?_
      exact ih (Document.below_of_get? hleads hget hheld)
        (within_held (Document.forest_prune forest) hkept hd hheld)
        (within_held forest hnode he hheld) _

theorem render_prune (forest : doc.Forest) (settled : doc.Settled) (table : OperatorTable)
    (hbelow : doc.Below value) : render doc.prune table value = render doc table value :=
  renderWithin_prune forest settled table hbelow
    (fun id _ => Document.within_of_size_le (Nat.le_refl _) id)
    (fun id _ => Document.within_of_size_le (Nat.le_refl _) id) []

end Expression

namespace RecordModule

variable {doc : Document} {ids : List NodeId} {id : NodeId} {node record : Node}

theorem nodesAt_prune (forest : doc.Forest) (h : ∀ id ∈ ids, doc.Leads doc.root id) :
    nodesAt doc.prune ids = nodesAt doc ids :=
  List.filterMap_congr fun id hid => Document.get?_prune_of_leads forest (h id hid)

theorem arrangement_prune (forest : doc.Forest) (settled : doc.Settled)
    (h : ∀ id ∈ ids, doc.Leads doc.root id) : arrangement doc.prune ids = arrangement doc ids := by
  apply Arrangement.of_congr
  intro id hid
  rw [Document.get?_prune_of_leads forest (h id hid)]
  cases hget : doc.get? id with
  | none => rfl
  | some node => exact Document.reads_prune forest settled (h id hid) hget

theorem cycleReport_prune (forest : doc.Forest) (h : ∀ id ∈ ids, doc.Leads doc.root id)
    (record : Node) :
    cycleReport doc.prune record (arrangement doc ids) =
      cycleReport doc record (arrangement doc ids) := by
  cases harranged : arrangement doc ids with
  | ordered order => rfl
  | stuck left =>
    have hleft := (Arrangement.of_eq_stuck harranged).2.1.subset
    have hnodes := nodesAt_prune forest fun id hid => h id (hleft hid)
    unfold nodesAt at hnodes
    rw [cycleReport, cycleReport, hnodes]

theorem classField_prune (forest : doc.Forest) (settled : doc.Settled) (table : OperatorTable)
    (h : doc.Leads doc.root id) (hget : doc.get? id = some node) :
    classField doc.prune table (fieldOf node) = classField doc table (fieldOf node) := by
  have hrender {property : String} {held : Value} (hheld : node.get? property = some held) :
      Expression.render doc.prune table held = Expression.render doc table held :=
    Expression.render_prune forest settled table (Document.below_of_get? h hget hheld)
  unfold classField
  split
  next expression hvalue => rw [hrender hvalue]
  next =>
    split
    next expression hinitial => rw [hrender hinitial]
    next => rfl

theorem attributesAmong_congr {other : Document} {items : List Value}
    (h : ∀ item ∈ items, doc.nodeOf? item = other.nodeOf? item) (record : Node) :
    attributesAmong doc record items = attributesAmong other record items := by
  induction items with
  | nil => rfl
  | cons item items ih =>
    rw [List.forall_mem_cons] at h
    rw [attributesAmong, attributesAmong, h.1, ih h.2]

theorem below_of_mem_attributes (hrecord : doc.get? doc.root = some record) :
    ∀ item ∈ attributeItems record, doc.Below item := by
  intro item hitem id hid
  have hlist := get?_attributes (List.ne_nil_of_mem hitem)
  apply Document.below_of_get? .refl hrecord hlist
  rw [Value.owned_list]
  exact List.mem_flatMap.mpr ⟨item, hitem, hid⟩

theorem attributesOf_prune (forest : doc.Forest) (hrecord : doc.get? doc.root = some record) :
    attributesOf doc.prune record = attributesOf doc record :=
  attributesAmong_congr (fun item hitem =>
    Document.nodeOf?_prune forest (below_of_mem_attributes hrecord item hitem)) record

theorem leads_attributeIds (hrecord : doc.get? doc.root = some record) :
    ∀ id ∈ attributeIds record, doc.Leads doc.root id := by
  intro id hid
  obtain ⟨item, hitem, hnode⟩ := List.mem_filterMap.mp hid
  cases item with
  | node held =>
    obtain rfl := Option.some.inj hnode
    exact below_of_mem_attributes hrecord _ hitem held (List.mem_singleton_self held)
  | _ => contradiction

theorem fragment_prune (forest : doc.Forest) (settled : doc.Settled) (table : OperatorTable)
    (hrecord : doc.get? doc.root = some record) :
    fragment doc.prune table record = fragment doc table record := by
  have hkept := (Document.get?_prune_of_leads forest .refl).trans hrecord
  have hids := leads_attributeIds hrecord
  have horder : ∀ id ∈ (arrangement doc (attributeIds record)).orGiven (attributeIds record),
      doc.Leads doc.root id := fun id hid => hids id ((orGiven_perm doc _).mem_iff.mp hid)
  have hentries : Generated.forEach (fun node => classField doc.prune table (fieldOf node))
        (nodesAt doc ((arrangement doc (attributeIds record)).orGiven (attributeIds record))) =
      Generated.forEach (fun node => classField doc table (fieldOf node))
        (nodesAt doc ((arrangement doc (attributeIds record)).orGiven (attributeIds record))) := by
    apply Generated.forEach_congr
    intro node hnode
    obtain ⟨id, hid, hget⟩ := List.mem_filterMap.mp hnode
    exact classField_prune forest settled table (horder id hid) hget
  rw [fragment_eq (Document.forest_prune forest) hkept, fragment_eq forest hrecord,
    attributesOf_prune forest hrecord, arrangement_prune forest settled hids,
    cycleReport_prune forest hids, nodesAt_prune forest hids, nodesAt_prune forest horder, hentries]

end RecordModule

namespace Document

variable {doc : Document}

theorem rootNode_prune (forest : doc.Forest) : doc.prune.rootNode = doc.rootNode := by
  apply Option.some.inj
  rw [← RecordModule.get?_rootNode, ← RecordModule.get?_rootNode]
  exact get?_prune_of_leads forest .refl

theorem generate_prune (forest : doc.Forest) (settled : doc.Settled) (options : Options) :
    generate doc.prune options = generate doc options := by
  unfold generate generateRecord
  rw [rootNode_prune forest, RecordModule.fragment_prune forest settled _
    (RecordModule.get?_rootNode doc)]

/-- A document that is saved and loaded gives the same code with the same problems, and the same
of its references lead nowhere, if none below the root leads to a node that is lost. -/
theorem load_save_generates (h : doc.Reachable) (settled : doc.Settled) (options : Options) :
    ∃ loaded, load doc.save = .ok loaded ∧ generate loaded options = generate doc options ∧
      loaded.dangling = doc.dangling :=
  have forest := h.wellFormed.toForest
  ⟨doc.prune, load_save forest, generate_prune forest settled options,
    dangling_prune forest settled⟩

theorem load_save_generates_detached :
    let doc := List.foldl Document.after (.new "r" "Record Type") [
      .create "lost" "Attribute" (.ofList [("of", .reference (some "r"))]),
      .create "price" "Attribute" (.ofList [("name", .text "unit price"),
        ("type", .text "amount")]),
      .create "left" "Attribute Reference" (.ofList [("attribute", .reference (some "price"))]),
      .create "right" "Attribute Reference" (.ofList [("attribute", .reference (some "gone"))]),
      .create "sum" "Binary Operation" (.ofList [("left operand", .node "left"),
        ("operator", .text "+"), ("right operand", .node "right")]),
      .create "total" "Attribute" (.ofList [("name", .text "total"), ("type", .text "amount"),
        ("value", .node "sum")]),
      .assign "r" "attributes" (some (.list [.node "total", .node "price"]))]
    doc.Reachable ∧ doc.Settled ∧ ∃ loaded, load doc.save = .ok loaded ∧
      loaded.contains "lost" = false ∧ doc.contains "lost" = true ∧
      generate loaded {} = generate doc {} ∧
      loaded.dangling = [⟨"right", "attribute", "gone"⟩] := by
  intro doc
  have hdoc : doc.Reachable := by
    simp only [doc, List.foldl_cons, List.foldl_nil]
    iterate 7 refine .edited _ ?_ ?_
    · exact .new "r" "Record Type"
    all_goals trivial
  have forest := hdoc.wellFormed.toForest
  have settled : doc.Settled := by
    have hall : ∀ node ∈ doc.tree doc.root, ∀ value ∈ node.settings.values,
        ∀ target ∈ value.targets, doc.isReachable target = true ∨ doc.contains target = false := by
      decide +kernel
    intro id node hleads hget value hvalue target htarget
    obtain rfl := forest.keyed hget
    rw [← isReachable_iff forest]
    exact hall node (mem_tree_of_leads forest hget hleads) value hvalue target htarget
  obtain ⟨loaded, hload, hgenerate, hdangling⟩ := load_save_generates hdoc settled {}
  have hlost : loaded.contains "lost" = false := by
    obtain rfl := Except.ok.inj (hload.symm.trans (load_save forest))
    decide +kernel
  exact ⟨hdoc, settled, loaded, hload, hlost, by decide +kernel, hgenerate,
    hdangling.trans (by decide +kernel)⟩

end Document

end RecordForms
