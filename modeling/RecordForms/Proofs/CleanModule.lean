import RecordForms.Proofs.ClassOrder

/-! Modules generated without problems. Every attribute then has its own name in code, and every
reference the name of its target. Nothing makes these names different, and nothing keeps a
reference to the attributes of the record. -/
namespace RecordForms.RecordModule

open Expression (Mentioned)

variable {doc : Document} {record node : Node}

@[simp] theorem get?_rootNode (doc : Document) : doc.get? doc.root = some doc.rootNode :=
  (Option.some_get _).symm

theorem exists_display {name : String} (h : node.codeName? = some name) :
    ∃ display, node.getText? Property.name = some display ∧ name = Text.camelCase display := by
  obtain ⟨display, hdisplay, hname, -⟩ := Expression.codeName?_eq_some.mp h
  exact ⟨display, hdisplay, hname⟩

theorem codeName?_of_clean (h : (named node).diagnostics = []) :
    node.codeName? = some (attributeName node) := by
  rw [attributeName, ← output_nameOf]
  simp only [named, Generated.diagnostics_bind, Generated.diagnostics_pure, List.append_nil] at h
  unfold nameOf at h ⊢
  split at h
  next name hname => exact hname
  next => exact absurd h Expression.diagnostics_problem

theorem preamble_of_clean (h : (conceptReport record).diagnostics = []) : preamble record = [] := by
  rw [← output_conceptReport]
  unfold conceptReport at h ⊢
  split
  next => rfl
  next hconcept =>
    rw [if_neg hconcept] at h
    exact absurd (List.append_eq_nil_iff.mp h).1 Expression.diagnostics_problem

theorem output_cycleReport {arranged : Arrangement NodeId}
    (h : (cycleReport doc record arranged).diagnostics = []) :
    (cycleReport doc record arranged).output = [] := by
  cases arranged with
  | ordered order => rfl
  | stuck left =>
    rw [(cycleReport_stuck doc record left).1] at h
    contradiction

theorem clean_parts (forest : doc.Forest) {key : NodeId} (hrecord : doc.get? key = some record)
    {options : Options} (h : (generateRecord doc record options).diagnostics = []) :
    let ids := attributeIds record
    (conceptReport record).diagnostics = [] ∧
      (∀ node ∈ nodesAt doc ids, (named node).diagnostics = []) ∧
      (cycleReport doc record (arrangement doc ids)).diagnostics = [] ∧
      ∀ node ∈ nodesAt doc ((arrangement doc ids).orGiven ids),
        (classField doc options.operators (fieldOf node)).diagnostics = [] := by
  rw [generateRecord, fragment_eq forest hrecord] at h
  simp only [Generated.diagnostics_bind, Generated.diagnostics_pure, Generated.output_bind,
    Generated.output_pure, Generated.diagnostics_forEach, List.append_nil,
    List.append_eq_nil_iff, List.flatMap_eq_nil_iff] at h
  obtain ⟨hconcept, -, -, hnamed, hcycle, hfields, -⟩ := h
  exact ⟨hconcept, hnamed, hcycle, hfields⟩

theorem reference_of_clean (forest : doc.Forest) (table : OperatorTable) {id : NodeId} {ref : Node}
    (hclean : (classField doc table (fieldOf node)).diagnostics = [])
    (hshown : shownExpression? node = some id) (hmentioned : Mentioned doc (.node id) ref) :
    ∃ y target name, ref.get? Property.referenced = some (.reference (some y)) ∧
      doc.get? y = some target ∧ target.codeName? = some name ∧
      (Expression.attributeReference doc ref).output = "this." ++ name := by
  obtain ⟨text, refs, ⟨blank, -, hspelled⟩, heq⟩ := exists_classField forest table node
  rw [hshown] at hspelled
  rw [fieldOf, heq] at hclean
  have htext : text.diagnostics = [] := (List.append_eq_nil_iff.mp hclean).1
  have href : ref ∈ refs := hspelled.mem_iff.mpr ⟨_, rfl, hmentioned⟩
  exact Expression.attributeReference_clean (hspelled.clean htext ref href)

/-- In a module without problems, attributes stand under their names in camel case, and so do the
targets of all references. The names differ exactly if they differ in camel case. -/
theorem clean_module_names {doc : Document} (hdoc : doc.Reachable) (options : Options)
    (hclean : (generate doc options).diagnostics = []) :
    let record := doc.rootNode
    let ids := attributeIds record
    ∃ (order : List NodeId) (entries forms : List Fragment),
      (generate doc options).output = String.intercalate "\n"
        (moduleLines options.indentWidth (nameOf "record" record).output []
          (entries.flatMap (Fragment.lines options.indentWidth 1))
          (forms.flatMap (Fragment.lines options.indentWidth 1))) ∧
      order.Perm ids ∧
      List.Forall₂ (fun id fragment => ∃ node, doc.get? id = some node ∧ IsEntry doc node fragment)
        order entries ∧
      (∀ id ∈ ids, ∃ node display, doc.get? id = some node ∧
        node.getText? Property.name = some display ∧ attributeName node = Text.camelCase display) ∧
      (((nodesAt doc order).map attributeName).Nodup ↔
        ((nodesAt doc ids).map fun node =>
          (node.getText? Property.name).map Text.camelCase).Nodup) ∧
      ∀ x ∈ ids, ∀ node id ref, doc.get? x = some node → shownExpression? node = some id →
        Mentioned doc (.node id) ref →
        ∃ y target display, ref.get? Property.referenced = some (.reference (some y)) ∧
          doc.get? y = some target ∧ target.getText? Property.name = some display ∧
          (Expression.attributeReference doc ref).output = "this." ++ Text.camelCase display ∧
          (y ∈ ids → attributeName target = Text.camelCase display) := by
  intro record ids
  have forest : doc.Forest := hdoc.wellFormed.toForest
  have hrecord := get?_rootNode doc
  have hids : ∀ id ∈ ids, doc.contains id = true := contains_attributes forest hrecord
  have hperm := orGiven_perm doc ids
  obtain ⟨hconcept, hnamed, hcycle, hfields⟩ := clean_parts forest hrecord hclean
  have houtput := output_generateRecord forest hrecord options
  simp only [preamble_of_clean hconcept, output_cycleReport hcycle, List.flatMap_nil,
    List.nil_append, ← output_nameOf "record"] at houtput
  have hname : ∀ node ∈ nodesAt doc ids, ∃ display, node.getText? Property.name = some display ∧
      attributeName node = Text.camelCase display :=
    fun node hnode => exists_display (codeName?_of_clean (hnamed node hnode))
  refine ⟨(arrangement doc ids).orGiven ids, _, _, houtput, hperm,
    forall₂_nodesAt (fun _ node _ => exists_entryShows forest options.operators node)
      fun id hid => hids id (hperm.mem_iff.mp hid), ?_, ?_, ?_⟩
  · intro id hid
    obtain ⟨node, hget⟩ := Document.contains_iff.mp (hids id hid)
    obtain ⟨display, hdisplay, hcamel⟩ := hname node (List.mem_filterMap.mpr ⟨id, hid, hget⟩)
    exact ⟨node, display, hget, hdisplay, hcamel⟩
  · have hcamel : ((nodesAt doc ids).map fun node =>
        (node.getText? Property.name).map Text.camelCase) =
        ((nodesAt doc ids).map attributeName).map some := by
      rw [List.map_map]
      apply List.map_congr_left
      intro node hnode
      obtain ⟨display, hdisplay, hcamel⟩ := hname node hnode
      simp [hdisplay, hcamel]
    rw [hcamel, List.nodup_map_iff (Option.some_injective _)]
    exact ((hperm.filterMap doc.get?).map attributeName).nodup_iff
  · intro x hx node id ref hget hshown hmentioned
    have hnode : node ∈ nodesAt doc ((arrangement doc ids).orGiven ids) :=
      List.mem_filterMap.mpr ⟨x, hperm.mem_iff.mpr hx, hget⟩
    obtain ⟨y, target, name, href, htarget, hcode, hout⟩ :=
      reference_of_clean forest options.operators (hfields node hnode) hshown hmentioned
    obtain ⟨display, hdisplay, rfl⟩ := exists_display hcode
    refine ⟨y, target, display, href, htarget, hdisplay, hout, fun hy => ?_⟩
    obtain ⟨display', hdisplay', hcamel⟩ := hname target (List.mem_filterMap.mpr ⟨y, hy, htarget⟩)
    obtain rfl := Option.some.inj (hdisplay.symm.trans hdisplay')
    exact hcamel

theorem clean_module_names_getter :
    let doc := List.foldl Document.after (.new "r" "Record Type") [
      .create "price" "Attribute" (.ofList [("name", .text "unit price"),
        ("type", .text "amount")]),
      .create "mention" "Attribute Reference"
        (.ofList [("attribute", .reference (some "price"))]),
      .create "total" "Attribute" (.ofList [("name", .text "total"), ("type", .text "amount"),
        ("value", .node "mention")]),
      .assign "r" "name" (some (.text "order")),
      .assign "r" "attributes" (some (.list [.node "total", .node "price"]))]
    doc.Reachable ∧ (generate doc {}).diagnostics = [] ∧
      attributeIds doc.rootNode = ["total", "price"] ∧
      ((nodesAt doc ["total", "price"]).map attributeName).Nodup ∧
      ∃ ref target display, Mentioned doc (.node "mention") ref ∧
        doc.get? "price" = some target ∧ target.getText? Property.name = some display ∧
        (Expression.attributeReference doc ref).output = "this." ++ Text.camelCase display ∧
        attributeName target = Text.camelCase display := by
  intro doc
  have hdoc : doc.Reachable := by
    simp only [doc, List.foldl_cons, List.foldl_nil]
    iterate 5 refine .edited _ ?_ ?_
    · exact .new "r" "Record Type"
    · decide +kernel
    · decide +kernel
    · decide +kernel
    · trivial
    · trivial
  have hclean : (generate doc {}).diagnostics = [] := by decide +kernel
  have hids : attributeIds doc.rootNode = ["total", "price"] := by decide +kernel
  have hnodup : ((nodesAt doc ["total", "price"]).map attributeName).Nodup := by decide +kernel
  obtain ⟨order, entries, forms, -, -, -, -, -, hreferences⟩ := clean_module_names hdoc {} hclean
  have hmentioned : ∃ ref, Mentioned doc (.node "mention") ref ∧
      ref.get? Property.referenced = some (.reference (some "price")) :=
    ⟨_, ⟨.here rfl, rfl⟩, rfl⟩
  obtain ⟨ref, hmentioned, href⟩ := hmentioned
  rw [hids] at hreferences
  obtain ⟨y, target, display, hy, htarget, hdisplay, hout, hown⟩ :=
    hreferences "total" (by decide) _ "mention" ref rfl rfl hmentioned
  rw [href] at hy
  cases hy
  exact ⟨hdoc, hclean, hids, hnodup, ref, target, display, hmentioned, htarget, hdisplay, hout,
    hown (by decide)⟩

/-- Two attributes under one name, and a reference to the record, without a problem. -/
theorem clean_module_same_names :
    let doc := List.foldl Document.after (.new "r" "Record Type") [
      .create "a" "Attribute" (.ofList [("name", .text "unit price"), ("type", .text "amount")]),
      .create "mention" "Attribute Reference" (.ofList [("attribute", .reference (some "r"))]),
      .create "b" "Attribute" (.ofList [("name", .text "Unit Price"), ("type", .text "amount"),
        ("initial value", .node "mention")]),
      .assign "r" "name" (some (.text "order")),
      .assign "r" "attributes" (some (.list [.node "a", .node "b"]))]
    doc.Reachable ∧ (generate doc {}).diagnostics = [] ∧
      attributeIds doc.rootNode = ["a", "b"] ∧
      (nodesAt doc ["a", "b"]).map attributeName = ["unitPrice", "unitPrice"] ∧
      ∃ node ref, doc.get? "b" = some node ∧ shownExpression? node = some "mention" ∧
        Mentioned doc (.node "mention") ref ∧
        ref.get? Property.referenced = some (.reference (some "r")) ∧
        (Expression.attributeReference doc ref).output = "this.order" := by
  intro doc
  have hdoc : doc.Reachable := by
    simp only [doc, List.foldl_cons, List.foldl_nil]
    iterate 5 refine .edited _ ?_ ?_
    · exact .new "r" "Record Type"
    · decide +kernel
    · decide +kernel
    · decide +kernel
    · trivial
    · trivial
  have hclean : (generate doc {}).diagnostics = [] := by decide +kernel
  have hids : attributeIds doc.rootNode = ["a", "b"] := by decide +kernel
  have hnames : (nodesAt doc ["a", "b"]).map attributeName = ["unitPrice", "unitPrice"] := by
    decide +kernel
  refine ⟨hdoc, hclean, hids, hnames, _, _, rfl, rfl, ⟨.here rfl, rfl⟩, rfl, ?_⟩
  decide +kernel

end RecordForms.RecordModule
