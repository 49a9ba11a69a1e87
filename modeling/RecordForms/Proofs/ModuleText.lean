import RecordForms.Proofs.Mentions
import RecordForms.RecordModule

/-! The text of a module and the problems met on the way. What stands for an attribute in the
class and in the form is spelled out from its properties, apart from the lines around it. -/
namespace RecordForms

namespace Fragment

theorem splitLines_eq_singleton {text : String} (h : '\n' ∉ text.toList) :
    splitLines text = [text] := by
  rw [splitLines, List.splitOn_eq_singleton h]
  simp

@[simp] theorem linesOfParts_eq (width level : UInt64) (parts : List Fragment) :
    linesOfParts width level parts = parts.flatMap (lines width level) := by
  induction parts with
  | nil => rfl
  | cons part parts ih => simp [linesOfParts, ih]

end Fragment

namespace Generated

variable {α β : Type} {P : Diagnostic → Prop}

def Records (P : Diagnostic → Prop) (g : Generated α) : Prop := ∀ d ∈ g.diagnostics, P d

theorem records_pure (a : α) : Records P (pure a) := by
  simp [Records]

theorem records_problem {kind : DiagnosticKind} {id : Option String} {message : String}
    (h : P ⟨kind, id, message⟩) : Records P (problem kind id message) := by
  intro d hd
  cases List.mem_singleton.mp hd
  exact h

theorem Records.bind {g : Generated α} {f : α → Generated β} (hg : Records P g)
    (hf : ∀ a, Records P (f a)) : Records P (g >>= f) := by
  intro d hd
  rcases List.mem_append.mp hd with hd | hd
  · exact hg d hd
  · exact hf g.output d hd

theorem records_forEach {f : α → Generated β} {as : List α} (h : ∀ a ∈ as, Records P (f a)) :
    Records P (forEach f as) := by
  intro d hd
  rw [diagnostics_forEach] at hd
  obtain ⟨a, ha, hd⟩ := List.mem_flatMap.mp hd
  exact h a ha d hd

end Generated

namespace RecordModule

open Expression (FieldCode NumberCode OperatorCode Spelled comment unwritten)

variable {doc : Document} {node : Node}

def moduleLines (width : UInt64) (name : String) (preamble body form : List String) : List String :=
  let className := Text.capitalized name
  let inner := Fragment.indentLine width.toNat
  preamble ++
    ["import React from \"react\"",
      "import \x7b createRoot \x7d from \"react-dom/client\"",
      "import \x7b makeAutoObservable \x7d from \"mobx\"",
      "import \x7b observer \x7d from \"mobx-react\"",
      "",
      "import \x7b FormField, Input \x7d from \"./components\"",
      "import \x7b DateRange, Period \x7d from \"./dates\"",
      "",
      "class " ++ className ++ " \x7b"] ++
    body ++
    [inner "constructor() \x7b",
      Fragment.indentLine (2 * width).toNat "makeAutoObservable(this)",
      inner "\x7d",
      "\x7d",
      "",
      "const " ++ className ++ "Form = observer((\x7b " ++ name ++ " \x7d) => <form>"] ++
    form ++
    ["</form>)",
      "",
      "const " ++ name ++ " = new " ++ className ++ "()",
      "",
      "createRoot(document.getElementById(\"root\"))",
      inner ".render(",
      Fragment.indentLine (2 * width).toNat ("<" ++ className ++ "Form " ++ name ++ "=\x7b" ++ name ++
        "\x7d />"),
      inner ")",
      ""]

theorem lines_layout {name : String} (hname : '\n' ∉ name.toList)
    (hclass : '\n' ∉ (Text.capitalized name).toList) (width : UInt64)
    (preamble body form : List Fragment) :
    (layout name preamble body form).lines width 0 =
      moduleLines width name (preamble.flatMap (Fragment.lines width 0))
        (body.flatMap (Fragment.lines width 1)) (form.flatMap (Fragment.lines width 1)) := by
  simp (disch := simp [hname, hclass]) [layout, moduleLines, Fragment.ofLines, imports,
    Fragment.lines, Fragment.splitLines_eq_singleton, Fragment.indentLine]

def preamble (record : Node) : List Fragment :=
  if record.concept = Concept.recordType then []
  else [.line (comment ("value of concept \"" ++ record.concept ++ "\" isn't a record type"))]

@[simp] theorem output_conceptReport (record : Node) :
    (conceptReport record).output = preamble record := by
  by_cases hconcept : record.concept = Concept.recordType
  · simp [conceptReport, preamble, Node.isA, hconcept]
  · simp only [conceptReport, preamble, Node.isA, beq_eq_false_iff_ne.mpr hconcept,
      Bool.false_eq_true, if_false, if_neg hconcept]
    rfl

section Names

/-- A name in code is the display name in camel case. Where nothing is left of it, a comment stands
for the name. -/
def codeText (what : String) (node : Node) : String :=
  match (node.getText? Property.name).map Text.camelCase with
  | none | some "" => comment (what ++ "'s name is undefined")
  | some name => name

@[simp] theorem output_nameOf (what : String) (node : Node) :
    (nameOf what node).output = codeText what node := by
  unfold nameOf codeText
  cases hname : (node.getText? Property.name).map Text.camelCase with
  | none => simp only [Node.codeName?, hname, Option.filter_none]; rfl
  | some name =>
    by_cases hempty : name = ""
    · subst hempty
      simp only [Node.codeName?, hname, Option.filter_some]
      rfl
    · have hcode : node.codeName? = some name := by
        rw [Node.codeName?, hname, Option.filter_some, if_pos (by simpa using hempty)]
      simp [hcode]

theorem oneLine_codeText (record : Node) :
    '\n' ∉ (codeText "record" record).toList ∧
      '\n' ∉ (Text.capitalized (codeText "record" record)).toList := by
  have hcomment : '\n' ∉ (comment "record's name is undefined").toList ∧
      '\n' ∉ (Text.capitalized (comment "record's name is undefined")).toList := by
    decide +kernel
  unfold codeText
  split
  · exact hcomment
  · exact hcomment
  next name _ hname =>
    obtain ⟨text, -, rfl⟩ := Option.map_eq_some_iff.mp hname
    have hword := Text.wordStart_le_camelCase text
    have hcapital := Text.wordStart_le_capitalize hword
    refine ⟨fun hmem => absurd (hword _ hmem) (by decide), fun hmem => ?_⟩
    rw [Text.capitalized, String.toList_ofList] at hmem
    exact absurd (hcapital _ hmem) (by decide)

def attributeName (node : Node) : String := codeText "attribute" node

/-- The label of an attribute: its display name with a capital, or else what stands for its name in
code. -/
def labelText (node : Node) : String :=
  match node.getText? Property.name with
  | none | some "" => attributeName node
  | some display => Text.capitalized display

@[simp] theorem label_eq (node : Node) : label ⟨node, attributeName node⟩ = labelText node := by
  unfold label labelText
  cases hname : node.getText? Property.name with
  | none => rfl
  | some display =>
    by_cases hempty : display = ""
    · subst hempty
      rfl
    · simp [hempty]

end Names

section Entries

def knownTypes : List String := ["amount", "percentage", "date range", "period in days"]

inductive DefaultCode (node : Node) : Generated String → Prop where
  | known {type text : String} (htype : node.getText? Property.type = some type)
      (htext : (type, text) ∈ [("amount", "0.0"), ("percentage", "0"),
        ("date range", "new DateRange()"), ("period in days", "new Period()")]) :
      DefaultCode node (pure text)
  | unknown {type : String} (htype : node.getText? Property.type = some type)
      (hother : type ∉ knownTypes) :
      DefaultCode node (unwritten .unhandledType node.id
        ("type \"" ++ type ++ "\" has no default initial value"))
  | untyped (htype : node.getText? Property.type = none) :
      DefaultCode node (unwritten .missingValue node.id "attribute's type is undefined")

theorem defaultCode_initialDefault (node : Node) : DefaultCode node (initialDefault node) := by
  unfold initialDefault
  split
  next htype => exact .known htype (by simp)
  next htype => exact .known htype (by simp)
  next htype => exact .known htype (by simp)
  next htype => exact .known htype (by simp)
  next type h₁ h₂ h₃ h₄ htype => exact .unknown htype (by simp_all [knownTypes])
  next htype => exact .untyped htype

/-- The node of the expression that stands in the class for an attribute, if there is one. -/
def shownExpression? (node : Node) : Option NodeId :=
  ((node.get? Property.value).bind Value.asNode?).or
    ((node.get? Property.initialValue).bind Value.asNode?)

/-- The getter or the field of an attribute, around its text. -/
def entry (node : Node) (text : String) : Fragment :=
  match node.get? Property.value with
  | some (.node _) =>
    .sequence [
      .line ("get " ++ attributeName node ++ "() \x7b"),
      .indented 1 (.line ("return " ++ text)),
      .line "\x7d"]
  | _ => .line (attributeName node ++ " = " ++ text)

def EntryCode (doc : Document) (node : Node) (text : Generated String) (refs : List Node) : Prop :=
  ∃ blank, DefaultCode node blank ∧
    Spelled doc blank ((shownExpression? node).map Value.node) text refs

/-- What stands in the class for an attribute, with the references in it. -/
def EntryShows (doc : Document) (node : Node) (refs : List Node) (fragment : Fragment) : Prop :=
  ∃ text, EntryCode doc node text refs ∧ fragment = entry node text.output

def IsEntry (doc : Document) (node : Node) (fragment : Fragment) : Prop :=
  ∃ refs, EntryShows doc node refs fragment

theorem bind_asNode?_eq_none {held : Option Value} (h : ∀ id, held = some (.node id) → False) :
    held.bind Value.asNode? = none := by
  rcases held with _ | held
  · rfl
  · cases held with
    | node id => exact (h id rfl).elim
    | _ => rfl

theorem exists_classField (forest : doc.Forest) (table : OperatorTable) (node : Node) :
    ∃ text refs, EntryCode doc node text refs ∧
      classField doc table ⟨node, attributeName node⟩ = do return entry node (← text) := by
  have hdefault := defaultCode_initialDefault node
  have hshows (id : NodeId) (hshown : shownExpression? node = some id) :
      ∃ refs, EntryCode doc node (Expression.render doc table (.node id)) refs := by
    obtain ⟨refs, hspelled⟩ := Expression.exists_spelled_render forest table (.node id) _
    refine ⟨refs, _, hdefault, ?_⟩
    rw [hshown]
    exact hspelled
  unfold classField
  split
  next id hvalue =>
    obtain ⟨refs, htext⟩ := hshows id (by simp [shownExpression?, hvalue, Value.asNode?])
    exact ⟨_, refs, htext, by simp only [entry, hvalue]⟩
  next hvalue =>
    have hnone := bind_asNode?_eq_none hvalue
    have hentry (text : String) :
        entry node text = .line (attributeName node ++ " = " ++ text) := by
      unfold entry
      split
      next id hid => exact (hvalue id hid).elim
      next => rfl
    simp only [hentry]
    split
    next id hinitial =>
      obtain ⟨refs, htext⟩ := hshows id (by simp [shownExpression?, hnone, hinitial, Value.asNode?])
      exact ⟨_, refs, htext, rfl⟩
    next hinitial =>
      have hshown : shownExpression? node = none := by
        simp [shownExpression?, hnone, bind_asNode?_eq_none hinitial]
      refine ⟨initialDefault node, [], ⟨_, hdefault, ?_⟩, rfl⟩
      rw [hshown]
      exact .blank _

end Entries

section Form

def inputText (type object field : String) : String :=
  "<Input type=\"" ++ type ++ "\" object=\x7b" ++ object ++ "\x7d fieldName=\"" ++ field ++ "\" />"

/-- The inputs for an attribute of `object`. What is computed is shown and not entered. -/
inductive InputCode (object : String) (node : Node) : Fragment → Prop where
  | amount (htype : node.getText? Property.type = some "amount")
      (hvalue : ∀ id, node.get? Property.value ≠ some (.node id)) :
      InputCode object node
        (.line ("$ " ++ inputText "number" object (attributeName node)))
  | shownAmount {id : NodeId} (htype : node.getText? Property.type = some "amount")
      (hvalue : node.get? Property.value = some (.node id)) :
      InputCode object node
        (.line ("$ " ++ ("\x7b" ++ (object ++ "." ++ attributeName node) ++ ".toFixed(2)\x7d")))
  | percentage (htype : node.getText? Property.type = some "percentage")
      (hvalue : ∀ id, node.get? Property.value ≠ some (.node id)) :
      InputCode object node
        (.line (inputText "number" object (attributeName node) ++ " %"))
  | shownPercentage {id : NodeId} (htype : node.getText? Property.type = some "percentage")
      (hvalue : node.get? Property.value = some (.node id)) :
      InputCode object node
        (.line ("\x7b" ++ (object ++ "." ++ attributeName node) ++ "\x7d" ++ " %"))
  | dates {type : String} (htype : node.getText? Property.type = some type)
      (hdates : type ∈ ["date range", "period in days"]) :
      InputCode object node (.sequence [
        .line (inputText "date" (object ++ "." ++ attributeName node) "from"),
        .line (inputText "date" (object ++ "." ++ attributeName node) "to")])
  | unknown {type : String} (htype : node.getText? Property.type = some type)
      (hother : type ∉ knownTypes) :
      InputCode object node (.line (comment ("type \"" ++ type ++ "\" has no form input")))
  | untyped (htype : node.getText? Property.type = none) :
      InputCode object node (.line (comment "attribute's type is undefined"))

theorem isComputed_cases (node : Node) :
    (∃ id, node.get? Property.value = some (.node id)) ∧ Document.isComputed node = true ∨
      (∀ id, node.get? Property.value ≠ some (.node id)) ∧ Document.isComputed node = false := by
  by_cases hvalue : ∃ id, node.get? Property.value = some (.node id)
  · obtain ⟨id, hvalue⟩ := hvalue
    exact .inl ⟨⟨id, hvalue⟩, by simp [Document.isComputed, hvalue, Value.asNode?]⟩
  · rw [not_exists] at hvalue
    exact .inr ⟨hvalue, by simp [Document.isComputed, bind_asNode?_eq_none hvalue]⟩

theorem inputCode_formInputs (object : String) (node : Node) :
    InputCode object node (formInputs object ⟨node, attributeName node⟩).output := by
  unfold formInputs
  dsimp only
  split
  next htype =>
    rcases isComputed_cases node with ⟨⟨id, hvalue⟩, hcomputed⟩ | ⟨hvalue, hcomputed⟩
    · simp only [hcomputed, if_true]
      exact .shownAmount htype hvalue
    · simp only [hcomputed, Bool.false_eq_true, if_false]
      exact .amount htype hvalue
  next htype =>
    rcases isComputed_cases node with ⟨⟨id, hvalue⟩, hcomputed⟩ | ⟨hvalue, hcomputed⟩
    · simp only [hcomputed, if_true]
      exact .shownPercentage htype hvalue
    · simp only [hcomputed, Bool.false_eq_true, if_false]
      exact .percentage htype hvalue
  next htype => exact .dates htype (by simp)
  next htype => exact .dates htype (by simp)
  next type h₁ h₂ h₃ h₄ htype => exact .unknown htype (by simp_all [knownTypes])
  next htype => exact .untyped htype

/-- The part of the form that belongs to an attribute: one field, with the inputs for it. -/
def IsFormField (object : String) (node : Node) (fragment : Fragment) : Prop :=
  ∃ inputs, InputCode object node inputs ∧ fragment = .sequence [
    .line ("<FormField label=\"" ++ labelText node ++ "\">"),
    .indented 1 inputs,
    .line "</FormField>"]

theorem isFormField_formField (object : String) (node : Node) :
    IsFormField object node (formField object ⟨node, attributeName node⟩).output := by
  refine ⟨_, inputCode_formInputs object node, ?_⟩
  rw [← label_eq]
  rfl

end Form

section Attributes

variable {record : Node} {items : List Value}

def notAnObject (record : Node) : Diagnostic where
  kind := .invalidValue
  node := some record.id
  message := "record type has an attribute that is not an AST object"

@[simp] theorem output_attributesAmong (doc : Document) (record : Node) (items : List Value) :
    (attributesAmong doc record items).output = items.filterMap doc.nodeOf? := by
  induction items with
  | nil => rfl
  | cons item items ih =>
    rw [attributesAmong, List.filterMap_cons]
    split <;> simp_all

@[simp] theorem diagnostics_attributesAmong (doc : Document) (record : Node) (items : List Value) :
    (attributesAmong doc record items).diagnostics =
      List.replicate (items.countP fun item => (doc.nodeOf? item).isNone) (notAnObject record) := by
  induction items with
  | nil => rfl
  | cons item items ih =>
    rw [attributesAmong, List.countP_cons]
    split <;> simp_all [Generated.problem, notAnObject, List.replicate_succ]

def attributeItems (record : Node) : List Value :=
  ((record.get? Property.attributes).bind Value.asList?).getD []

def attributeIds (record : Node) : List NodeId := (attributeItems record).filterMap Value.asNode?

theorem attributeItems_eq (h : record.get? Property.attributes = some (.list items)) :
    attributeItems record = items := by
  simp [attributeItems, h, Value.asList?]

theorem get?_attributes (h : attributeItems record ≠ []) :
    record.get? Property.attributes = some (.list (attributeItems record)) := by
  unfold attributeItems at h ⊢
  cases hvalue : record.get? Property.attributes with
  | none => simp [hvalue] at h
  | some value =>
    cases value with
    | list items => rfl
    | _ => simp [hvalue, Value.asList?] at h

theorem exists_nodeOf? (forest : doc.Forest) {key : NodeId} (hrecord : doc.get? key = some record)
    {item : Value} (hitem : item ∈ attributeItems record) {id : NodeId}
    (hnode : item.asNode? = some id) :
    ∃ node, doc.get? id = some node ∧ doc.nodeOf? item = some node := by
  have howned : id ∈ (Value.list (attributeItems record)).owned := by
    rw [Value.owned_list]
    refine List.mem_flatMap.mpr ⟨item, hitem, ?_⟩
    cases item with
    | node held => simpa [Value.asNode?, Value.owned, eq_comm] using hnode
    | _ => contradiction
  have hown := Document.owns_of_get? hrecord (get?_attributes (List.ne_nil_of_mem hitem)) howned
  obtain ⟨node, hget⟩ := Document.contains_iff.mp (forest.child_mem hown)
  exact ⟨node, hget, by rw [Document.nodeOf?, hnode]; exact hget⟩

theorem contains_attributes (forest : doc.Forest) {key : NodeId}
    (hrecord : doc.get? key = some record) :
    ∀ id ∈ attributeIds record, doc.contains id = true := by
  intro id hid
  obtain ⟨item, hitem, hnode⟩ := List.mem_filterMap.mp hid
  obtain ⟨node, hget, -⟩ := exists_nodeOf? forest hrecord hitem hnode
  exact Document.contains_iff.mpr ⟨node, hget⟩

theorem sublist_owned (items : List Value) :
    (items.filterMap Value.asNode?).Sublist (Value.list items).owned := by
  rw [Value.owned_list]
  induction items with
  | nil => exact .refl _
  | cons item items ih =>
    rw [List.filterMap_cons, List.flatMap_cons]
    cases item with
    | node id => exact ih.cons_cons id
    | _ => exact ih.trans (List.sublist_append_right _ _)

theorem nodup_attributes (forest : doc.Forest) {key : NodeId}
    (hrecord : doc.get? key = some record) : (attributeIds record).Nodup := by
  by_cases hempty : attributeItems record = []
  · simp [attributeIds, hempty]
  · have hchildren : (Value.list (attributeItems record)).owned.Sublist record.children := by
      rw [Node.children_eq, List.flatMap_def]
      apply List.sublist_flatten_of_mem
      exact List.mem_map_of_mem (TextMap.mem_values.mpr ⟨_, get?_attributes hempty⟩)
    exact (Document.nodup_children forest hrecord).sublist ((sublist_owned _).trans hchildren)

end Attributes

section Problems

def Routine (d : Diagnostic) : Prop :=
  d.kind ≠ .cyclicDependency ∧
    (d.kind = .invalidValue →
      d.message ≠ "record type has an attribute that is not an AST object")

def OnlyRoutine {α : Type} (g : Generated α) : Prop := ∀ d ∈ g.diagnostics, Routine d

theorem onlyRoutine_pure {α : Type} (a : α) : OnlyRoutine (pure a) := Generated.records_pure a

theorem onlyRoutine_problem {kind : DiagnosticKind} {id : Option String} {message : String}
    (hcycle : kind ≠ .cyclicDependency) (hinvalid : kind ≠ .invalidValue) :
    OnlyRoutine (.problem kind id message) :=
  Generated.records_problem ⟨hcycle, fun h => absurd h hinvalid⟩

theorem onlyRoutine_invalid {id : Option String} {front back : String}
    (hhead : front.toList.head? ≠ some 'r') (hne : front.toList ≠ []) :
    OnlyRoutine (.problem .invalidValue id (front ++ back)) := by
  refine Generated.records_problem ⟨nofun, fun _ hmessage => hhead ?_⟩
  have htext := congrArg (fun s => s.toList.head?) hmessage
  simp only [String.toList_append] at htext
  rwa [List.head?_append_of_ne_nil _ hne] at htext

theorem OnlyRoutine.bind {α β : Type} {g : Generated α} {f : α → Generated β}
    (hg : OnlyRoutine g) (hf : ∀ a, OnlyRoutine (f a)) : OnlyRoutine (g >>= f) :=
  Generated.Records.bind hg hf

theorem onlyRoutine_forEach {α β : Type} {f : α → Generated β} (h : ∀ a, OnlyRoutine (f a))
    (as : List α) : OnlyRoutine (Generated.forEach f as) :=
  Generated.records_forEach fun a _ => h a

theorem onlyRoutine_fieldCode {text : Generated String} (h : FieldCode doc node text) :
    OnlyRoutine text := by
  cases h with
  | named => exact onlyRoutine_pure _
  | _ => exact onlyRoutine_problem (by decide) (by decide)

theorem onlyRoutine_numberCode {text : Generated String} (h : NumberCode node text) :
    OnlyRoutine text := by
  cases h with
  | written => exact onlyRoutine_pure _
  | missing => exact onlyRoutine_problem (by decide) (by decide)
  | _ =>
    simp only [String.append_assoc]
    exact onlyRoutine_invalid (by decide) (by decide)

theorem onlyRoutine_operatorCode {text : Generated String} (h : OperatorCode node text) :
    OnlyRoutine text := by
  cases h with
  | missing => exact onlyRoutine_problem (by decide) (by decide)
  | _ => exact onlyRoutine_pure _

theorem onlyRoutine_spelled {blank text : Generated String} {held : Option Value}
    {refs : List Node} (h : Spelled doc blank held text refs) (hblank : OnlyRoutine blank) :
    OnlyRoutine text := by
  induction h with
  | blank => exact hblank
  | stranger =>
    simp only [String.append_assoc]
    exact onlyRoutine_invalid (by decide) (by decide)
  | reference _ _ htext => exact onlyRoutine_fieldCode htext
  | number _ _ htext => exact onlyRoutine_numberCode htext
  | operation _ _ _ _ _ hoperator _ ihl ihr =>
    refine (ihl (onlyRoutine_problem (by decide) (by decide))).bind fun _ => ?_
    refine (onlyRoutine_operatorCode hoperator).bind fun _ => ?_
    exact (ihr (onlyRoutine_problem (by decide) (by decide))).bind fun _ => onlyRoutine_pure _
  | parentheses _ _ _ ih =>
    exact (ih (onlyRoutine_problem (by decide) (by decide))).bind fun _ => onlyRoutine_pure _
  | unknown => exact onlyRoutine_problem (by decide) (by decide)

theorem onlyRoutine_nameOf (what : String) (node : Node) : OnlyRoutine (nameOf what node) := by
  unfold nameOf
  split
  · exact onlyRoutine_pure _
  · exact onlyRoutine_problem (by decide) (by decide)

theorem onlyRoutine_entryCode {text : Generated String} {refs : List Node}
    (h : EntryCode doc node text refs) : OnlyRoutine text := by
  obtain ⟨blank, hblank, hspelled⟩ := h
  refine onlyRoutine_spelled hspelled ?_
  cases hblank with
  | known => exact onlyRoutine_pure _
  | _ => exact onlyRoutine_problem (by decide) (by decide)

theorem onlyRoutine_formField (object : String) (field : Named) :
    OnlyRoutine (formField object field) := by
  have hinputs : OnlyRoutine (formInputs object field) := by
    unfold formInputs
    split
    all_goals first
      | exact onlyRoutine_pure _
      | exact (onlyRoutine_problem (by decide) (by decide)).bind fun _ => onlyRoutine_pure _
  exact hinputs.bind fun _ => onlyRoutine_pure _

theorem onlyRoutine_conceptReport (record : Node) : OnlyRoutine (conceptReport record) := by
  unfold conceptReport
  split
  · exact onlyRoutine_pure _
  · exact (onlyRoutine_problem (by decide) (by decide)).bind fun _ => onlyRoutine_pure _

end Problems

end RecordModule

end RecordForms
