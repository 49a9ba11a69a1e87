import Mathlib.Data.List.Sublists
import RecordForms.Proofs.ModuleText
import RecordForms.Proofs.Order

/-! The order of the class. An attribute is read wherever a reference to it stands below another
one; the text of an entry shows some of these references and no others, so an order by what is
read is an order by what the text needs. -/
namespace RecordForms.RecordModule

open Expression (Mentioned comment)

variable {doc : Document} {record : Node} {ids : List NodeId}

def ResolvesTo (doc : Document) (ref : Node) (target : NodeId) : Prop :=
  ref.get? Property.referenced = some (.reference (some target)) ∧ doc.contains target = true

/-- A reference to `y` stands somewhere below the initial value or the value of `x`. -/
def RefersTo (doc : Document) (x y : NodeId) : Prop :=
  ∃ node, doc.get? x = some node ∧ ∃ property ∈ [Property.initialValue, Property.value],
    ∃ held, node.get? property = some held ∧ ∃ top ∈ held.owned,
      ∃ ref, doc.get? ref.id = some ref ∧ doc.Leads top ref.id ∧
        ref.concept = Concept.attributeReference ∧ ResolvesTo doc ref y

def Reads (doc : Document) (ids : List NodeId) (x y : NodeId) : Prop :=
  x ∈ ids ∧ y ∈ ids ∧ RefersTo doc x y

/-- The text for `x` shows a reference to `y`, or to a getter that needs `y` in turn. -/
inductive TextNeeds (doc : Document) (ids : List NodeId) (shown : NodeId → List Node) :
    NodeId → NodeId → Prop where
  | mentioned {x y : NodeId} {ref : Node} (href : ref ∈ shown x) (hy : ResolvesTo doc ref y) :
      TextNeeds doc ids shown x y
  | getter {x g y id : NodeId} {ref node : Node} (href : ref ∈ shown x)
      (hg : ResolvesTo doc ref g) (hmem : g ∈ ids) (hnode : doc.get? g = some node)
      (hvalue : node.get? Property.value = some (.node id))
      (rest : TextNeeds doc ids shown g y) : TextNeeds doc ids shown x y

theorem referencedBy?_eq_some (forest : doc.Forest) {ref : Node} {y : NodeId} :
    (∃ target, doc.referencedBy? ref = some target ∧ target.id = y) ↔ ResolvesTo doc ref y := by
  unfold Document.referencedBy? ResolvesTo
  constructor
  · rintro ⟨target, htarget, rfl⟩
    obtain ⟨reference, href, hnode⟩ := Option.bind_eq_some_iff.mp htarget
    obtain ⟨value, hvalue, href⟩ := Option.bind_eq_some_iff.mp href
    cases hresolved : doc.resolve reference with
    | resolved found =>
      obtain ⟨id, rfl, hget⟩ := Expression.resolve_eq_resolved hresolved
      rw [hresolved] at hnode
      obtain rfl := Option.some.inj hnode
      rw [forest.keyed hget, hvalue, Expression.asReference?_eq_some href]
      exact ⟨rfl, Document.contains_iff.mpr ⟨found, hget⟩⟩
    | _ => simp [hresolved, Resolution.node?] at hnode
  · rintro ⟨href, hcontains⟩
    obtain ⟨target, hget⟩ := Document.contains_iff.mp hcontains
    refine ⟨target, ?_, forest.keyed hget⟩
    simp [href, Value.asReference?, Document.resolve, hget, Resolution.node?]

theorem mem_referencedIn (forest : doc.Forest) {node : Node} {property : String} {y : NodeId} :
    y ∈ doc.referencedIn node property ↔ ∃ held, node.get? property = some held ∧
      ∃ top ∈ held.owned, ∃ ref, doc.get? ref.id = some ref ∧ doc.Leads top ref.id ∧
        ref.concept = Concept.attributeReference ∧ ResolvesTo doc ref y := by
  unfold Document.referencedIn
  split
  next held hheld =>
    simp only [Document.instancesIn, Document.instances, Node.isA, List.mem_map,
      List.mem_filterMap, List.mem_flatMap, List.mem_filter, beq_iff_eq,
      Document.mem_tree_iff forest, ← referencedBy?_eq_some forest, hheld, Option.some.injEq,
      exists_eq_left']
    grind
  next hnone => simp [hnone]

theorem mem_reads_iff (forest : doc.Forest) {x y : NodeId} :
    y ∈ (doc.get? x).elim [] doc.reads ↔ RefersTo doc x y := by
  unfold RefersTo
  cases hget : doc.get? x with
  | none => simp
  | some node =>
    simp [Document.reads, List.mem_eraseDups, mem_referencedIn forest]

theorem uses_iff_reads (forest : doc.Forest) (ids : List NodeId) :
    Arrangement.Uses ids (fun id => (doc.get? id).elim [] doc.reads) = Reads doc ids := by
  funext x y
  simp only [Arrangement.Uses, Reads, mem_reads_iff forest]

theorem shownExpression?_eq_some {node : Node} {id : NodeId} (h : shownExpression? node = some id) :
    ∃ property ∈ [Property.initialValue, Property.value],
      node.get? property = some (.node id) := by
  have hnode {property : String} (h : (node.get? property).bind Value.asNode? = some id) :
      node.get? property = some (.node id) := by
    obtain ⟨held, hheld, hid⟩ := Option.bind_eq_some_iff.mp h
    cases held with
    | node found => rw [hheld, Option.some.inj hid]
    | _ => contradiction
  rcases Option.or_eq_some_iff.mp h with h | ⟨-, h⟩
  · exact ⟨Property.value, by simp, hnode h⟩
  · exact ⟨Property.initialValue, by simp, hnode h⟩

theorem EntryShows.refersTo (forest : doc.Forest) {node ref : Node} {refs : List Node}
    {fragment : Fragment} (h : EntryShows doc node refs fragment) {x y : NodeId}
    (hget : doc.get? x = some node) (href : ref ∈ refs) (hy : ResolvesTo doc ref y) :
    RefersTo doc x y := by
  obtain ⟨text, ⟨blank, -, hspelled⟩, -⟩ := h
  obtain ⟨value, hvalue, hoccurs, hconcept⟩ := hspelled.mem_iff.mp href
  obtain ⟨id, hshown, rfl⟩ := Option.map_eq_some_iff.mp hvalue
  obtain ⟨property, hproperty, hheld⟩ := shownExpression?_eq_some hshown
  obtain ⟨href, hleads⟩ := hoccurs.leads forest
  exact ⟨node, hget, property, hproperty, _, hheld, id, List.mem_singleton_self id, ref, href,
    hleads, hconcept, hy⟩

theorem TextNeeds.transGen {shown : NodeId → List Node}
    (hshown : ∀ x ∈ ids, ∀ ref ∈ shown x, ∀ y, ResolvesTo doc ref y → RefersTo doc x y)
    {x y : NodeId} (h : TextNeeds doc ids shown x y) (hx : x ∈ ids) (hy : y ∈ ids) :
    Relation.TransGen (Reads doc ids) x y := by
  induction h with
  | mentioned href hresolves => exact .single ⟨hx, hy, hshown _ hx _ href _ hresolves⟩
  | getter href hresolves hg _ _ _ ih =>
    exact .head ⟨hx, hg, hshown _ hx _ href _ hresolves⟩ (ih hg hy)

theorem sublist_of_transGen (forest : doc.Forest) {order : List NodeId}
    (h : arrangement doc ids = .ordered order) {x y : NodeId} (hx : x ∈ ids)
    (htrans : Relation.TransGen (Reads doc ids) x y) : [y, x].Sublist order := by
  obtain ⟨hperm, hsequential⟩ := Arrangement.of_eq_ordered h
  obtain ⟨front, back, hsplit⟩ := List.append_of_mem (hperm.mem_iff.mpr hx)
  rw [← uses_iff_reads forest] at htrans
  have hfront : y ∈ front := hsequential.mem_of_transGen hsplit htrans
  have hback : [x].Sublist (x :: back) := by simp
  rw [hsplit]
  exact (List.singleton_sublist.mpr hfront).append hback

section Generated

def nodesAt (doc : Document) (ids : List NodeId) : List Node := ids.filterMap doc.get?

theorem forall₂_nodesAt {R : NodeId → Node → Fragment → Prop} {f : Node → Fragment}
    (h : ∀ id node, doc.get? id = some node → R id node (f node))
    (hids : ∀ id ∈ ids, doc.contains id = true) :
    List.Forall₂ (fun id fragment => ∃ node, doc.get? id = some node ∧ R id node fragment) ids
      ((nodesAt doc ids).map f) := by
  induction ids with
  | nil => exact .nil
  | cons id ids ih =>
    rw [List.forall_mem_cons] at hids
    obtain ⟨node, hget⟩ := Document.contains_iff.mp hids.1
    rw [nodesAt, List.filterMap_cons_some hget, List.map_cons]
    exact .cons ⟨node, hget, h id node hget⟩ (ih hids.2)

theorem map_id_nodesAt (forest : doc.Forest) (hids : ∀ id ∈ ids, doc.contains id = true) :
    (nodesAt doc ids).map Node.id = ids := by
  induction ids with
  | nil => rfl
  | cons id ids ih =>
    rw [List.forall_mem_cons] at hids
    obtain ⟨node, hget⟩ := Document.contains_iff.mp hids.1
    rw [nodesAt, List.filterMap_cons_some hget, List.map_cons, forest.keyed hget]
    exact congrArg (id :: ·) (ih hids.2)

theorem filterMap_find?_eq (forest : doc.Forest) {order : List NodeId}
    (horder : ∀ id ∈ order, id ∈ ids) (hids : ∀ id ∈ ids, doc.contains id = true)
    (name : Node → String) :
    (order.filterMap fun id =>
      ((nodesAt doc ids).map fun node => Named.mk node (name node)).find? (·.node.id == id)) =
      (nodesAt doc order).map fun node => ⟨node, name node⟩ := by
  have hfind : ∀ id ∈ ids, (nodesAt doc ids).find? (·.id == id) = doc.get? id := by
    intro id hid
    obtain ⟨node, hget⟩ := Document.contains_iff.mp (hids id hid)
    have hmem : node ∈ nodesAt doc ids := List.mem_filterMap.mpr ⟨id, hid, hget⟩
    cases hfound : (nodesAt doc ids).find? (·.id == id) with
    | none =>
      have hne := List.find?_eq_none.mp hfound node hmem
      simp [forest.keyed hget] at hne
    | some found =>
      obtain ⟨key, -, hkey⟩ := List.mem_filterMap.mp (List.mem_of_find?_eq_some hfound)
      have hid : found.id = id := by simpa using List.find?_some hfound
      rw [← hid, forest.keyed hkey, hkey]
  rw [nodesAt.eq_1 doc order, List.map_filterMap]
  apply List.filterMap_congr
  intro id hid
  rw [List.find?_map]
  exact congrArg (Option.map _) (hfind id (horder id hid))

@[simp] theorem output_attributesOf (doc : Document) (record : Node) :
    (attributesOf doc record).output = nodesAt doc (attributeIds record) := by
  rw [attributesOf, output_attributesAmong, nodesAt, attributeIds, List.filterMap_filterMap]
  rfl

theorem orGiven_perm (doc : Document) (ids : List NodeId) :
    ((arrangement doc ids).orGiven ids).Perm ids := by
  cases h : arrangement doc ids with
  | ordered order => exact (Arrangement.of_eq_ordered h).1
  | stuck left => exact .refl _

def fieldOf (node : Node) : Named := ⟨node, attributeName node⟩

@[simp] theorem output_named (node : Node) : (named node).output = fieldOf node :=
  congrArg (Named.mk node) (output_nameOf "attribute" node)

theorem fragment_eq (forest : doc.Forest) {key : NodeId} (hrecord : doc.get? key = some record)
    (table : OperatorTable) :
    let ids := attributeIds record
    let order := (arrangement doc ids).orGiven ids
    fragment doc table record = do
      let preamble ← conceptReport record
      let name ← nameOf "record" record
      let _ ← attributesOf doc record
      let _ ← Generated.forEach named (nodesAt doc ids)
      let report ← cycleReport doc record (arrangement doc ids)
      let entries ← Generated.forEach (fun node => classField doc table (fieldOf node))
        (nodesAt doc order)
      let forms ← Generated.forEach (fun node => formField name (fieldOf node)) (nodesAt doc ids)
      return layout name preamble (report ++ entries) forms := by
  intro ids order
  have hids : ∀ id ∈ ids, doc.contains id = true := contains_attributes forest hrecord
  have hnodes : (attributesOf doc record).output = nodesAt doc ids := output_attributesOf doc record
  have hfields : (Generated.forEach named (nodesAt doc ids)).output =
      (nodesAt doc ids).map fieldOf := by
    simp only [Generated.output_forEach, output_named]
  have hkeys : ((nodesAt doc ids).map fieldOf).map (·.node.id) = ids := by
    rw [List.map_map]
    exact map_id_nodesAt forest hids
  have hsorted : (order.filterMap fun id =>
      ((nodesAt doc ids).map fieldOf).find? (·.node.id == id)) = (nodesAt doc order).map fieldOf :=
    filterMap_find?_eq forest (fun id hid => (orGiven_perm doc ids).mem_iff.mp hid) hids
      attributeName
  apply Generated.ext
  · simp only [fragment, classFields, Generated.output_bind,
      Generated.output_pure, hnodes, hfields, hkeys, Generated.output_forEach, List.map_map]
    rw [hsorted, List.map_map]
    rfl
  · simp only [fragment, classFields, Generated.output_bind,
      Generated.diagnostics_bind, Generated.output_pure, Generated.diagnostics_pure, hnodes,
      hfields, hkeys, Generated.diagnostics_forEach, List.flatMap_map,
      List.append_assoc, List.append_nil]
    rw [hsorted, List.flatMap_map]

def quotedName (node : Node) : String :=
  match node.getText? Property.name with
  | some display => "\"" ++ display ++ "\""
  | none => "\"?\""

theorem writtenName_eq (node : Node) : writtenName node = quotedName node := by
  unfold writtenName quotedName
  cases node.getText? Property.name <;> rfl

def cycleDiagnostic (doc : Document) (record : Node) (left : List NodeId) : Diagnostic where
  kind := .cyclicDependency
  node := some record.id
  message := "attributes " ++ String.intercalate ", " ((nodesAt doc left).map quotedName) ++
    " depend on each other cyclically"

theorem filter_diagnostics (forest : doc.Forest) {key : NodeId}
    (hrecord : doc.get? key = some record) (options : Options)
    {p : Diagnostic → Bool} (hp : ∀ d, Routine d → p d = false) :
    (generateRecord doc record options).diagnostics.filter p =
      (List.replicate ((attributeItems record).countP fun item => item.asNode?.isNone)
          (notAnObject record)).filter p ++
        (cycleReport doc record (arrangement doc (attributeIds record))).diagnostics.filter p := by
  have hdrop {α : Type} {g : Generated α} (hg : OnlyRoutine g) : g.diagnostics.filter p = [] := by
    rw [List.filter_eq_nil_iff]
    intro d hd
    simp [hp d (hg d hd)]
  -- whatever a record owns is there, so the element alone tells whether it is a node
  have hcount : ((attributeItems record).countP fun item => (doc.nodeOf? item).isNone) =
      (attributeItems record).countP fun item => item.asNode?.isNone := by
    apply List.countP_congr
    intro item hitem
    cases hnode : item.asNode? with
    | none => simp [Document.nodeOf?, hnode]
    | some id =>
      obtain ⟨node, -, hfound⟩ := exists_nodeOf? forest hrecord hitem hnode
      simp [hfound]
  have hnamed (node : Node) : OnlyRoutine (named node) :=
    (onlyRoutine_nameOf "attribute" node).bind fun _ => onlyRoutine_pure _
  have hfield (node : Node) : OnlyRoutine (classField doc options.operators (fieldOf node)) := by
    obtain ⟨text, refs, htext, heq⟩ := exists_classField forest options.operators node
    rw [fieldOf, heq]
    exact (onlyRoutine_entryCode htext).bind fun _ => onlyRoutine_pure _
  have hothers : (attributesOf doc record).diagnostics = List.replicate
      ((attributeItems record).countP fun item => item.asNode?.isNone) (notAnObject record) := by
    rw [attributesOf, diagnostics_attributesAmong]
    exact congrArg (List.replicate · (notAnObject record)) hcount
  rw [generateRecord, fragment_eq forest hrecord]
  simp only [Generated.diagnostics_bind, Generated.diagnostics_pure, Generated.output_bind,
    Generated.output_pure, List.filter_append, List.append_nil, hothers,
    hdrop (onlyRoutine_conceptReport record), hdrop (onlyRoutine_nameOf "record" record),
    hdrop (onlyRoutine_forEach hnamed _), hdrop (onlyRoutine_forEach hfield _),
    hdrop (onlyRoutine_forEach (fun node => onlyRoutine_formField _ (fieldOf node)) _),
    List.nil_append]

theorem exists_entryShows (forest : doc.Forest) (table : OperatorTable) (node : Node) :
    ∃ refs, EntryShows doc node refs (classField doc table (fieldOf node)).output := by
  obtain ⟨text, refs, htext, heq⟩ := exists_classField forest table node
  exact ⟨refs, text, htext, congrArg Generated.output heq⟩

theorem output_generateRecord (forest : doc.Forest) {key : NodeId}
    (hrecord : doc.get? key = some record) (options : Options) :
    let ids := attributeIds record
    let name := codeText "record" record
    (generateRecord doc record options).output = String.intercalate "\n"
      (moduleLines options.indentWidth name
        ((preamble record).flatMap (Fragment.lines options.indentWidth 0))
        (((cycleReport doc record (arrangement doc ids)).output ++
          (nodesAt doc ((arrangement doc ids).orGiven ids)).map fun node =>
            (classField doc options.operators (fieldOf node)).output).flatMap
              (Fragment.lines options.indentWidth 1))
        (((nodesAt doc ids).map fun node => (formField name (fieldOf node)).output).flatMap
          (Fragment.lines options.indentWidth 1))) := by
  intro ids name
  obtain ⟨hname, hclass⟩ := oneLine_codeText record
  rw [generateRecord, fragment_eq forest hrecord]
  simp only [Generated.output_bind, Generated.output_pure, Generated.output_forEach,
    Fragment.print, output_nameOf, output_conceptReport, lines_layout hname hclass]
  rfl

theorem cycleReport_stuck (doc : Document) (record : Node) (left : List NodeId) :
    (cycleReport doc record (.stuck left)).diagnostics = [cycleDiagnostic doc record left] ∧
      (cycleReport doc record (.stuck left)).output =
        [.line (comment (cycleDiagnostic doc record left).message)] := by
  have hnames : writtenName = quotedName := funext writtenName_eq
  simp only [cycleReport, cycleDiagnostic, hnames]
  exact ⟨rfl, rfl⟩

theorem kind_of_mem_cycleReport {arranged : Arrangement NodeId} {d : Diagnostic}
    (h : d ∈ (cycleReport doc record arranged).diagnostics) : d.kind = .cyclicDependency := by
  cases arranged with
  | ordered order => cases h
  | stuck left =>
    rw [(cycleReport_stuck doc record left).1] at h
    cases List.mem_singleton.mp h
    rfl

theorem filter_notAnObject (forest : doc.Forest) {key : NodeId}
    (hrecord : doc.get? key = some record) (options : Options) :
    ((generateRecord doc record options).diagnostics.filter fun d => d.kind = .invalidValue ∧
        d.message = "record type has an attribute that is not an AST object") =
      List.replicate ((attributeItems record).countP fun item => item.asNode?.isNone)
        (notAnObject record) := by
  rw [filter_diagnostics forest hrecord options]
  · rw [List.filter_replicate_of_pos (by simp [notAnObject]), List.append_right_eq_self,
      List.filter_eq_nil_iff]
    intro d hd
    simp [kind_of_mem_cycleReport hd]
  · intro d hd
    simpa using hd.2

theorem filter_cyclicDependency (forest : doc.Forest) {key : NodeId}
    (hrecord : doc.get? key = some record) (options : Options) :
    ((generateRecord doc record options).diagnostics.filter fun d => d.kind = .cyclicDependency) =
      (cycleReport doc record (arrangement doc (attributeIds record))).diagnostics := by
  rw [filter_diagnostics forest hrecord options]
  · rw [List.filter_replicate_of_neg (by simp [notAnObject]), List.nil_append,
      List.filter_eq_self]
    intro d hd
    simpa using kind_of_mem_cycleReport hd
  · intro d hd
    simpa using hd.1

end Generated

theorem exists_reads_of_entangled {x : NodeId}
    (h : ∃ y, Relation.ReflTransGen (Reads doc ids) x y ∧ Relation.TransGen (Reads doc ids) y y) :
    ∃ z, Reads doc ids x z := by
  obtain ⟨y, hreach, hloop⟩ := h
  obtain ⟨z, hz, -⟩ := Relation.TransGen.head'_iff.mp (Relation.TransGen.trans_right hreach hloop)
  exact ⟨z, hz⟩

theorem arrangement_of_acyclic (forest : doc.Forest)
    (h : ∀ x, ¬Relation.TransGen (Reads doc ids) x x) :
    ∃ order, arrangement doc ids = .ordered order := by
  cases harranged : arrangement doc ids with
  | ordered order => exact ⟨order, rfl⟩
  | stuck left =>
    obtain ⟨x, hx⟩ := Arrangement.cycle_of_stuck harranged
    rw [uses_iff_reads forest] at hx
    exact absurd hx (h x)

theorem arrangement_of_cyclic (forest : doc.Forest)
    (h : ∃ x, Relation.TransGen (Reads doc ids) x x) :
    ∃ stuck, arrangement doc ids = .stuck stuck ∧ stuck.Sublist ids ∧
      ∀ x ∈ ids, x ∈ stuck ↔ ∃ y, Relation.ReflTransGen (Reads doc ids) x y ∧
        Relation.TransGen (Reads doc ids) y y := by
  rw [← uses_iff_reads forest] at h ⊢
  cases harranged : arrangement doc ids with
  | ordered order =>
    obtain ⟨x, hx⟩ := h
    exact absurd hx (Arrangement.acyclic_of_ordered harranged x)
  | stuck left =>
    obtain ⟨-, hsublist, hentangled⟩ := Arrangement.of_eq_stuck harranged
    exact ⟨left, rfl, hsublist, hentangled⟩

/-- A class has one entry for each attribute, and a form one field. The entries come in an order
in which no text needs a later one, unless attributes refer to each other in a circle. -/
theorem class_entries_arranged {doc : Document} (hdoc : doc.Reachable) {key : NodeId}
    {record : Node} {items : List Value} (hrecord : doc.get? key = some record)
    (hitems : record.get? Property.attributes = some (.list items)) (options : Options) :
    let ids := items.filterMap Value.asNode?
    let name := codeText "record" record
    let diagnostics := (generateRecord doc record options).diagnostics
    let cycles := diagnostics.filter fun d => d.kind = .cyclicDependency
    ids.Nodup ∧ ∃ order report entries forms shown,
      (generateRecord doc record options).output = String.intercalate "\n"
        (moduleLines options.indentWidth name
          ((preamble record).flatMap (Fragment.lines options.indentWidth 0))
          ((report ++ entries).flatMap (Fragment.lines options.indentWidth 1))
          (forms.flatMap (Fragment.lines options.indentWidth 1))) ∧
      order.Perm ids ∧
      List.Forall₂ (fun id fragment => ∃ node, doc.get? id = some node ∧
        EntryShows doc node (shown id) fragment) order entries ∧
      List.Forall₂ (fun id fragment => ∃ node, doc.get? id = some node ∧
        IsFormField name node fragment) ids forms ∧
      (diagnostics.filter fun d => d.kind = .invalidValue ∧
          d.message = "record type has an attribute that is not an AST object") =
        List.replicate (items.countP fun item => item.asNode?.isNone) (notAnObject record) ∧
      ((∀ x, ¬Relation.TransGen (Reads doc ids) x x) → report = [] ∧ cycles = [] ∧
        ∀ x ∈ ids, ∀ y ∈ ids, TextNeeds doc ids shown x y → [y, x].Sublist order) ∧
      ((∃ x, Relation.TransGen (Reads doc ids) x x) → order = ids ∧ ∃ stuck, stuck.Sublist ids ∧
        (∀ x ∈ ids, x ∈ stuck ↔ ∃ y, Relation.ReflTransGen (Reads doc ids) x y ∧
          Relation.TransGen (Reads doc ids) y y) ∧
        cycles = [cycleDiagnostic doc record stuck] ∧
        report = [.line (comment (cycleDiagnostic doc record stuck).message)]) := by
  have forest : doc.Forest := hdoc.wellFormed.toForest
  obtain rfl := attributeItems_eq hitems
  intro ids name diagnostics cycles
  have hids : ∀ id ∈ ids, doc.contains id = true := contains_attributes forest hrecord
  have hperm := orGiven_perm doc ids
  have hcycles : cycles = (cycleReport doc record (arrangement doc ids)).diagnostics :=
    filter_cyclicDependency forest hrecord options
  -- the entries and their order have to speak of the same references
  choose refs hrefs using exists_entryShows forest options.operators
  let shown (id : NodeId) : List Node := (doc.get? id).elim [] refs
  have hshown : ∀ x ∈ ids, ∀ ref ∈ shown x, ∀ y, ResolvesTo doc ref y → RefersTo doc x y := by
    intro x hx ref href y hy
    obtain ⟨node, hget⟩ := Document.contains_iff.mp (hids x hx)
    simp only [shown, hget, Option.elim_some] at href
    exact (hrefs node).refersTo forest hget href hy
  have hentries (id : NodeId) (node : Node) (hget : doc.get? id = some node) :
      EntryShows doc node (shown id)
        (classField doc options.operators (fieldOf node)).output := by
    simp only [shown, hget, Option.elim_some]
    exact hrefs node
  refine ⟨nodup_attributes forest hrecord, (arrangement doc ids).orGiven ids,
    (cycleReport doc record (arrangement doc ids)).output, _, _, shown,
    output_generateRecord forest hrecord options, hperm,
    forall₂_nodesAt hentries fun id hid => hids id (hperm.mem_iff.mp hid),
    forall₂_nodesAt (fun _ node _ => isFormField_formField name node) hids,
    filter_notAnObject forest hrecord options, ?_, ?_⟩
  · intro hacyclic
    obtain ⟨order, harranged⟩ := arrangement_of_acyclic forest hacyclic
    rw [hcycles, harranged]
    exact ⟨rfl, rfl, fun x hx y hy hneeds =>
      sublist_of_transGen forest harranged hx (hneeds.transGen hshown hx hy)⟩
  · intro hcyclic
    obtain ⟨stuck, harranged, hsublist, hmem⟩ := arrangement_of_cyclic forest hcyclic
    obtain ⟨hdiagnostics, hreport⟩ := cycleReport_stuck doc record stuck
    rw [hcycles, harranged]
    exact ⟨rfl, stuck, hsublist, hmem, hdiagnostics, hreport⟩

/-- A record whose getter stands in front of the attribute it reads, with a text between the two,
and a record with a circle behind an attribute that has no part in it. -/
theorem class_entries_arranged_circle :
    let doc := List.foldl Document.after (.new "r" "Record Type") [
      .create "price" "Attribute" (.ofList [("name", .text "unit price"),
        ("type", .text "amount")]),
      .create "mention" "Attribute Reference"
        (.ofList [("attribute", .reference (some "price"))]),
      .create "total" "Attribute" (.ofList [("name", .text "total"), ("type", .text "amount"),
        ("value", .node "mention")]),
      .assign "r" "attributes" (some (.list [.node "total", .text "?", .node "price"])),
      .create "toB" "Attribute Reference" (.ofList [("attribute", .reference (some "b"))]),
      .create "a" "Attribute" (.ofList [("name", .text "net"), ("initial value", .node "toB")]),
      .create "toA" "Attribute Reference" (.ofList [("attribute", .reference (some "a"))]),
      .create "b" "Attribute" (.ofList [("value", .node "toA")]),
      .create "plain" "Attribute" .empty,
      .create "c" "Record Type"
        (.ofList [("attributes", .list [.node "plain", .node "a", .node "b"])])]
    let circle : Node := ⟨"c", "Record Type",
      .ofList [("attributes", .list [.node "plain", .node "a", .node "b"])]⟩
    let diagnostics := (generateRecord doc doc.rootNode {}).diagnostics
    let problems := (generateRecord doc circle {}).diagnostics
    doc.Reachable ∧ doc.get? "r" = some doc.rootNode ∧ doc.get? "c" = some circle ∧
      (∃ order shown, order.Perm ["total", "price"] ∧
        TextNeeds doc ["total", "price"] shown "total" "price" ∧
        ["price", "total"].Sublist order ∧
        (diagnostics.filter fun d => d.kind = .cyclicDependency) = [] ∧
        (diagnostics.filter fun d => d.kind = .invalidValue ∧
          d.message = "record type has an attribute that is not an AST object") =
            [notAnObject doc.rootNode]) ∧
      ∃ (entries : List Fragment) (shown : NodeId → List Node),
        List.Forall₂ (fun id fragment => ∃ node, doc.get? id = some node ∧
          EntryShows doc node (shown id) fragment) ["plain", "a", "b"] entries ∧
        (problems.filter fun d => d.kind = .cyclicDependency) = [⟨.cyclicDependency, some "c",
          "attributes \"net\", \"?\" depend on each other cyclically"⟩] := by
  intro doc circle diagnostics problems
  have hdoc : doc.Reachable :=
    (Document.Reachable.new "r" "Record Type").afterAll (by decide +kernel)
  have hreads : ∀ ids x y, Reads doc ids x y ↔
      x ∈ ids ∧ y ∈ ids ∧ y ∈ (doc.get? x).elim [] doc.reads := fun ids x y => by
    rw [Reads, mem_reads_iff hdoc.wellFormed.toForest]
  have hroot : doc.get? "r" = some doc.rootNode := rfl
  have hrecord : doc.get? "c" = some circle := rfl
  refine ⟨hdoc, hroot, hrecord, ?_, ?_⟩
  · have hstep : ∀ x y, Reads doc ["total", "price"] x y → x = "total" ∧ y = "price" := by
      intro x y h
      obtain ⟨hx, -, hy⟩ := (hreads _ x y).mp h
      have htotal : (doc.get? "total").elim [] doc.reads = ["price"] := by decide +kernel
      have hprice : (doc.get? "price").elim [] doc.reads = [] := by decide +kernel
      simp only [List.mem_cons, List.not_mem_nil, or_false] at hx
      rcases hx with rfl | rfl
      · exact ⟨rfl, List.mem_singleton.mp (htotal ▸ hy)⟩
      · exact absurd (hprice ▸ hy) List.not_mem_nil
    have hacyclic : ∀ x, ¬Relation.TransGen (Reads doc ["total", "price"]) x x := by
      intro x hx
      obtain ⟨y, hfirst, -⟩ := Relation.TransGen.head'_iff.mp hx
      obtain ⟨z, -, hlast⟩ := Relation.TransGen.tail'_iff.mp hx
      exact absurd ((hstep _ _ hfirst).1.symm.trans (hstep _ _ hlast).2) (by decide)
    obtain ⟨-, order, report, entries, forms, shown, -, hperm, hentries, -, hinvalid, hordered, -⟩ :=
      class_entries_arranged hdoc hroot rfl {}
    obtain ⟨-, hcycles, hbefore⟩ := hordered hacyclic
    -- the entry of the getter shows the reference, wherever it stands
    have htotal : "total" ∈ order := hperm.mem_iff.mpr (by decide)
    obtain ⟨i, hi, hget⟩ := List.mem_iff_getElem.mp htotal
    obtain ⟨hlength, hall⟩ := List.forall₂_iff_get.mp hentries
    obtain ⟨node, hnode, text, ⟨blank, -, hspelled⟩, -⟩ := hall i hi (hlength ▸ hi)
    have hmention : ∃ ref, ref ∈ shown "total" ∧ ResolvesTo doc ref "price" := by
      simp only [List.get_eq_getElem, hget] at hnode hspelled
      cases hnode
      exact ⟨_, hspelled.mem_iff.mpr ⟨_, rfl, .here rfl, rfl⟩, rfl, rfl⟩
    obtain ⟨ref, href, hresolves⟩ := hmention
    have hneeds : TextNeeds doc ["total", "price"] shown "total" "price" :=
      .mentioned href hresolves
    exact ⟨order, shown, hperm, hneeds, hbefore "total" (by decide) "price" (by decide) hneeds,
      hcycles, hinvalid⟩
  · have hplain : (doc.get? "plain").elim [] doc.reads = [] := by decide +kernel
    have hab : Reads doc ["plain", "a", "b"] "a" "b" := (hreads _ _ _).mpr (by decide +kernel)
    have hba : Reads doc ["plain", "a", "b"] "b" "a" := (hreads _ _ _).mpr (by decide +kernel)
    obtain ⟨-, order, report, entries, forms, shown, -, -, hentries, -, -, -, hcyclic⟩ :=
      class_entries_arranged hdoc hrecord rfl {}
    obtain ⟨rfl, stuck, hsublist, hstuck, hcycles, -⟩ := hcyclic ⟨"a", .head hab (.single hba)⟩
    have hout : "plain" ∉ stuck := by
      rw [hstuck "plain" (by decide)]
      intro hentangled
      obtain ⟨z, hz⟩ := exists_reads_of_entangled hentangled
      exact absurd (hplain ▸ ((hreads _ _ _).mp hz).2.2) List.not_mem_nil
    have ha : "a" ∈ stuck := (hstuck "a" (by decide)).mpr ⟨"a", .refl, .head hab (.single hba)⟩
    have hb : "b" ∈ stuck := (hstuck "b" (by decide)).mpr ⟨"b", .refl, .head hba (.single hab)⟩
    have hlists : ∀ l ∈ ["plain", "a", "b"].sublists, "plain" ∉ l → "a" ∈ l → "b" ∈ l →
        l = ["a", "b"] := by decide
    obtain rfl := hlists stuck (List.mem_sublists.mpr hsublist) hout ha hb
    exact ⟨entries, shown, hentries, hcycles.trans (by decide +kernel)⟩

end RecordForms.RecordModule
