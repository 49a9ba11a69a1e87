import RecordForms.Proofs.ClassOrder

/-! What the generation of a module can report. The kinds of problems, with the texts of the
document that get into their messages, are listed once; whatever is recorded is one of them. -/
namespace RecordForms

def Expression.describedTexts : Value → List String
  | .text s => [s]
  | .node id => [id]
  | _ => []

namespace RecordModule

open Generated (Records records_pure records_problem records_forEach)

def fixedMessages : List (DiagnosticKind × String) := [
  (.missingValue, "record's name is undefined"),
  (.missingValue, "attribute's name is undefined"),
  (.missingValue, "attribute's type is undefined"),
  (.missingValue, "number's value is undefined"),
  (.missingValue, "binary operation's left operand is undefined"),
  (.missingValue, "binary operation's operator is undefined"),
  (.missingValue, "binary operation's right operand is undefined"),
  (.missingValue, "parentheses's sub is undefined"),
  (.missingValue, "referenced attribute has no name"),
  (.absentReference, "attribute reference is undefined"),
  (.invalidValue, "record type has an attribute that is not an AST object")]

/-- A problem in the module of a record, with the texts of the document in its message. Nodes that
have one stand at or below the record. -/
inductive Reported (doc : Document) (record : Node) : Diagnostic → List String → Prop where
  | fixed {kind : DiagnosticKind} {message : String} (id : NodeId)
      (hmessage : (kind, message) ∈ fixedMessages) :
      Reported doc record ⟨kind, some id, message⟩ []
  | notARecord :
      Reported doc record ⟨.unhandledConcept, some record.id,
        "value of concept \"" ++ record.concept ++ "\" isn't a record type"⟩ [record.concept]
  | cycle (left : List NodeId) :
      Reported doc record (cycleDiagnostic doc record left)
        ((nodesAt doc left).filterMap (·.getText? Property.name))
  | noDefault {node : Node} {type : String} (hnode : node ∈ doc.tree record.id)
      (htype : node.getText? Property.type = some type) :
      Reported doc record ⟨.unhandledType, some node.id,
        "type \"" ++ type ++ "\" has no default initial value"⟩ [type]
  | noInput {node : Node} {type : String} (hnode : node ∈ doc.tree record.id)
      (htype : node.getText? Property.type = some type) :
      Reported doc record ⟨.unhandledType, some node.id,
        "type \"" ++ type ++ "\" has no form input"⟩ [type]
  | notAnExpression {node : Node} {property : String} {value : Value}
      (hnode : node ∈ doc.tree record.id) (hvalue : node.get? property = some value) :
      Reported doc record ⟨.invalidValue, none,
        "value " ++ Expression.describe value ++ " isn't handled as an expression"⟩
        (Expression.describedTexts value)
  | unknownConcept {node : Node} (hnode : node ∈ doc.tree record.id) :
      Reported doc record ⟨.unhandledConcept, some node.id,
        "value of concept \"" ++ node.concept ++ "\" isn't handled as an expression"⟩
        [node.concept]
  | notANumber {node : Node} {value : Value} (hnode : node ∈ doc.tree record.id)
      (hvalue : node.get? Property.value = some value) :
      Reported doc record ⟨.invalidValue, some node.id,
        "number's value " ++ Expression.describe value ++ " is not a number"⟩
        (Expression.describedTexts value)
  | dangling {node : Node} {target : NodeId} (hnode : node ∈ doc.tree record.id)
      (htarget : node.get? Property.referenced = some (.reference (some target)))
      (hgone : doc.contains target = false) :
      Reported doc record ⟨.danglingReference, some node.id,
        "attribute reference to unknown object \"" ++ target ++ "\""⟩ [target]

def Reportable (doc : Document) (record : Node) (d : Diagnostic) : Prop :=
  ∃ texts, Reported doc record d texts

variable {doc : Document} {record node : Node}

theorem records_fixed {kind : DiagnosticKind} {message : String} (id : NodeId)
    (hmessage : (kind, message) ∈ fixedMessages) :
    Records (Reportable doc record) (.problem kind (some id) message) :=
  records_problem ⟨[], .fixed id hmessage⟩

theorem mem_tree_of_held (forest : doc.Forest) {top : NodeId} {holder : Node} {property : String}
    {value : Value} (hholder : holder ∈ doc.tree top) (hvalue : holder.get? property = some value)
    (hnode : doc.nodeOf? value = some node) : node ∈ doc.tree top := by
  obtain ⟨hget, hleads⟩ := (Document.mem_tree_iff forest).mp hholder
  obtain ⟨id, rfl, hid⟩ := Expression.nodeOf?_eq_some hnode
  have hown : doc.Owns holder.id id :=
    Document.owns_of_get? hget hvalue (List.mem_singleton_self id)
  obtain rfl := forest.keyed hid
  exact (Document.mem_tree_iff forest).mpr ⟨hid, hleads.tail hown⟩

section Expressions

open Expression

theorem dangling_of_resolve {target : NodeId}
    (h : doc.resolve (((node.get? Property.referenced).bind Value.asReference?).getD none) =
      .dangling target) :
    node.get? Property.referenced = some (.reference (some target)) ∧
      doc.contains target = false := by
  obtain ⟨hid, hget⟩ := resolve_eq_dangling h
  exact ⟨get?_referenced hid, by simp [Document.contains_iff, hget, ← Bool.not_eq_true]⟩

theorem records_number (wf : doc.WellFormed) (hnode : node ∈ doc.tree record.id) :
    Records (Reportable doc record) (number node) := by
  have hget := ((Document.mem_tree_iff wf.toForest).mp hnode).1
  unfold number
  split
  next => exact records_pure _
  next x hvalue =>
    -- no document that comes about holds a number that is not finite
    have hfinite : x.isFinite = true := wf.finite hget _ (TextMap.mem_values.mpr ⟨_, hvalue⟩)
    rw [if_pos hfinite]
    exact records_pure _
  next s hvalue =>
    split
    · exact records_pure _
    · apply records_problem
      have hmessage : "number's value \"" ++ s ++ "\" is not a number" =
          "number's value " ++ describe (.text s) ++ " is not a number" := by
        simp [describe, String.append_assoc, ← String.toList_inj]
      rw [hmessage]
      exact ⟨_, .notANumber hnode hvalue⟩
  next value hvalue => exact records_problem ⟨_, .notANumber hnode hvalue⟩
  next => exact records_fixed _ (by simp [fixedMessages])

theorem records_attributeReference (hnode : node ∈ doc.tree record.id) :
    Records (Reportable doc record) (attributeReference doc node) := by
  unfold attributeReference
  split
  next target hresolved =>
    split
    · exact records_pure _
    · exact records_fixed _ (by simp [fixedMessages])
  next target hresolved =>
    obtain ⟨htarget, hgone⟩ := dangling_of_resolve hresolved
    exact records_problem ⟨_, .dangling hnode htarget hgone⟩
  next => exact records_fixed _ (by simp [fixedMessages])

theorem records_operator (node : Node) : Records (Reportable doc record) (operator node) := by
  unfold operator
  split
  · exact records_pure _
  · exact records_fixed _ (by simp [fixedMessages])

theorem records_operand {render : Value → Generated String} {what property : String}
    (hmissing : (.missingValue, what ++ "'s " ++ property ++ " is undefined") ∈ fixedMessages)
    (hrender : ∀ value, node.get? property = some value →
      Records (Reportable doc record) (render value)) :
    Records (Reportable doc record) (operand render node what property) := by
  unfold operand
  split
  next value hvalue => exact hrender value hvalue
  next => exact records_fixed _ hmissing

theorem records_operation {render : Value → Generated String}
    (hrender : ∀ property value, node.get? property = some value →
      Records (Reportable doc record) (render value)) :
    Records (Reportable doc record) (operation render node) := by
  unfold operation
  refine (records_operand (by decide +kernel) (hrender _)).bind fun _ =>
    (records_operator node).bind fun _ => ?_
  exact (records_operand (by decide +kernel) (hrender _)).bind fun _ => records_pure _

/-- Rendering goes from a node to the values it holds, so it stays below the record. -/
theorem records_renderWithin (wf : doc.WellFormed) (table : OperatorTable) (depth : Nat)
    {holder : Node} {property : String} {value : Value} {path : List Node}
    (hholder : holder ∈ doc.tree record.id) (hvalue : holder.get? property = some value) :
    Records (Reportable doc record) (renderWithin doc table depth value path) := by
  induction depth generalizing holder property value path with
  | zero => exact records_problem ⟨_, .notAnExpression hholder hvalue⟩
  | succ depth ih =>
    unfold renderWithin
    split
    next => exact records_problem ⟨_, .notAnExpression hholder hvalue⟩
    next node hnode =>
      have hbelow : node ∈ doc.tree record.id :=
        mem_tree_of_held wf.toForest hholder hvalue hnode
      have hinside (property : String) (held : Value) (hheld : node.get? property = some held) :
          Records (Reportable doc record) (renderWithin doc table depth held (path ++ [node])) :=
        ih hbelow hheld
      dsimp only
      split_ifs
      · exact records_attributeReference hbelow
      · exact records_number wf hbelow
      · exact (records_operation hinside).bind fun _ => records_pure _
      · exact (records_operation hinside).bind fun _ => records_pure _
      · exact (records_operand (by decide +kernel) (hinside _)).bind fun _ => records_pure _
      · exact records_problem ⟨_, .unknownConcept hbelow⟩

end Expressions

theorem records_nameOf {what : String} (node : Node)
    (hmessage : (.missingValue, what ++ "'s name is undefined") ∈ fixedMessages) :
    Records (Reportable doc record) (nameOf what node) := by
  unfold nameOf
  split
  · exact records_pure _
  · exact records_fixed _ hmessage

theorem records_named (node : Node) : Records (Reportable doc record) (named node) :=
  (records_nameOf node (by decide +kernel)).bind fun _ => records_pure _

theorem records_attributesOf (record : Node) :
    Records (Reportable doc record) (attributesOf doc record) := by
  intro d hd
  rw [attributesOf, diagnostics_attributesAmong] at hd
  obtain rfl := List.eq_of_mem_replicate hd
  exact ⟨[], .fixed record.id (by simp [fixedMessages])⟩

theorem records_conceptReport (record : Node) :
    Records (Reportable doc record) (conceptReport record) := by
  unfold conceptReport
  split
  · exact records_pure _
  · exact (records_problem ⟨_, .notARecord⟩).bind fun _ => records_pure _

theorem records_cycleReport (arranged : Arrangement NodeId) :
    Records (Reportable doc record) (cycleReport doc record arranged) := by
  cases arranged with
  | ordered order => exact records_pure _
  | stuck left =>
    intro d hd
    rw [(cycleReport_stuck doc record left).1] at hd
    cases List.mem_singleton.mp hd
    exact ⟨_, .cycle left⟩

theorem records_initialDefault (hnode : node ∈ doc.tree record.id) :
    Records (Reportable doc record) (initialDefault node) := by
  unfold initialDefault
  split
  iterate 4 exact records_pure _
  next other _ _ _ _ htype => exact records_problem ⟨_, .noDefault hnode htype⟩
  next => exact records_fixed _ (by simp [fixedMessages])

theorem records_formField (object : String) {field : Named}
    (hnode : field.node ∈ doc.tree record.id) :
    Records (Reportable doc record) (formField object field) := by
  have hinputs : Records (Reportable doc record) (formInputs object field) := by
    unfold formInputs
    split
    iterate 4 exact records_pure _
    next other _ _ _ _ htype =>
      exact (records_problem ⟨_, .noInput hnode htype⟩).bind fun _ => records_pure _
    next => exact (records_fixed _ (by simp [fixedMessages])).bind fun _ => records_pure _
  exact hinputs.bind fun _ => records_pure _

theorem records_classField (wf : doc.WellFormed) (table : OperatorTable) {field : Named}
    (hnode : field.node ∈ doc.tree record.id) :
    Records (Reportable doc record) (classField doc table field) := by
  have hrender {property : String} {value : Value} (hvalue : field.node.get? property = some value) :
      Records (Reportable doc record) (Expression.render doc table value) :=
    records_renderWithin wf table doc.size hnode hvalue
  unfold classField
  split
  next id hvalue => exact (hrender hvalue).bind fun _ => records_pure _
  next =>
    split
    next id hinitial => exact (hrender hinitial).bind fun _ => records_pure _
    next => exact (records_initialDefault hnode).bind fun _ => records_pure _

theorem mem_tree_of_attribute (forest : doc.Forest) (hrecord : doc.get? record.id = some record)
    (hnode : node ∈ nodesAt doc (attributeIds record)) : node ∈ doc.tree record.id := by
  obtain ⟨id, hid, hget⟩ := List.mem_filterMap.mp hnode
  obtain ⟨item, hitem, hnode⟩ := List.mem_filterMap.mp hid
  have howned : id ∈ (Value.list (attributeItems record)).owned :=
    (sublist_owned _).subset hid
  have hown : doc.Owns record.id id :=
    Document.owns_of_get? hrecord (get?_attributes (List.ne_nil_of_mem hitem)) howned
  obtain rfl := forest.keyed hget
  exact (Document.mem_tree_iff forest).mpr ⟨hget, .single hown⟩

theorem reportable_of_mem (wf : doc.WellFormed) (hrecord : doc.get? record.id = some record)
    (options : Options) :
    ∀ d ∈ (generateRecord doc record options).diagnostics, Reportable doc record d := by
  let ids := attributeIds record
  have hattribute {node : Node} (hnode : node ∈ nodesAt doc ids) : node ∈ doc.tree record.id :=
    mem_tree_of_attribute wf.toForest hrecord hnode
  have hordered {node : Node} (hnode : node ∈ nodesAt doc ((arrangement doc ids).orGiven ids)) :
      node ∈ doc.tree record.id :=
    hattribute (((orGiven_perm doc ids).filterMap doc.get?).mem_iff.mp hnode)
  have hfragment : Records (Reportable doc record) (fragment doc options.operators record) := by
    rw [fragment_eq wf.toForest hrecord]
    apply (records_conceptReport record).bind
    intro preamble
    apply (records_nameOf record (by decide +kernel)).bind
    intro name
    apply (records_attributesOf record).bind
    intro _
    apply (records_forEach fun node _ => records_named node).bind
    intro _
    apply (records_cycleReport _).bind
    intro report
    apply (records_forEach fun node hnode => records_classField wf _ (hordered hnode)).bind
    intro entries
    apply (records_forEach fun node hnode => records_formField name (hattribute hnode)).bind
    exact fun _ => records_pure _
  exact hfragment.bind fun _ => records_pure _

end RecordModule

end RecordForms
