import RecordForms.Proofs.Problems

/-! Where the comment of a problem ends. The words of the messages cannot end a comment, and the
texts of a document are put between them as they are; so a comment ends where it should unless one
of these texts ends it. -/
namespace RecordForms

def closing : List Char := ['*', '/']

/-- A comment from end to end: it is not closed before its end. -/
def IsBlockComment (text : List Char) : Prop :=
  (∃ body, text = ['/', '*'] ++ body ++ closing) ∧
    ∀ front back, text = front ++ closing ++ back → back = []

theorem closing_infix_append {front back : List Char}
    (hborder : front.getLast? = some '*' → back.head? ≠ some '/') :
    closing <:+: front ++ back ↔ closing <:+: front ∨ closing <:+: back := by
  constructor
  · intro h
    rcases List.infix_append_iff.mp h with h | h | ⟨left, right, hsplit, hleft, hright⟩
    · exact .inl h
    · exact .inr h
    · match left with
      | [] =>
        obtain rfl : closing = right := hsplit
        exact .inr hright.isInfix
      | [c] =>
        obtain ⟨rfl, rfl⟩ : '*' = c ∧ ['/'] = right := List.cons.inj hsplit
        obtain ⟨before, rfl⟩ := hleft
        obtain ⟨behind, rfl⟩ := hright
        exact absurd rfl (hborder List.getLast?_concat)
      | c :: d :: rest =>
        obtain ⟨rfl, htail⟩ : '*' = c ∧ ['/'] = d :: rest ++ right := List.cons.inj hsplit
        obtain ⟨rfl, hnil⟩ : '/' = d ∧ [] = rest ++ right := List.cons.inj htail
        obtain ⟨rfl, -⟩ := List.append_eq_nil_iff.mp hnil.symm
        exact .inl hleft.isInfix
  · rintro (h | h)
    · exact h.trans (List.prefix_append _ _).isInfix
    · exact h.trans (List.suffix_append _ _).isInfix

theorem isBlockComment_of_body {text : List Char} (body : List Char)
    (htext : text = ['/', '*'] ++ body ++ closing)
    (hbody : ¬closing <:+: ['/', '*'] ++ body ++ ['*']) : IsBlockComment text := by
  refine ⟨⟨body, htext⟩, fun front back hclose => ?_⟩
  rcases List.eq_nil_or_concat back with hnil | ⟨init, last, rfl⟩
  · exact hnil
  · have hsplit : ['/', '*'] ++ body ++ ['*'] ++ ['/'] = front ++ closing ++ init ++ [last] := by
      simpa [closing] using htext.symm.trans hclose
    obtain ⟨hinit, -⟩ := List.append_inj' hsplit rfl
    exact absurd ⟨front, init, hinit.symm⟩ hbody

theorem isBlockComment_iff {opening message ending : List Char} (hopening : ['/', '*'] <+: opening)
    (hopen : ¬closing <:+: opening) (hlast : opening.getLast? ≠ some '*')
    (hending : ending = ' ' :: closing) :
    IsBlockComment (opening ++ message ++ ending) ↔ ¬closing <:+: message := by
  subst hending
  constructor
  · rintro ⟨-, honce⟩ ⟨front, back, rfl⟩
    have hback := honce (opening ++ front) (back ++ ' ' :: closing)
      (by simp only [List.append_assoc])
    simp at hback
  · intro hmessage
    obtain ⟨marker, rfl⟩ := hopening
    apply isBlockComment_of_body (marker ++ message ++ [' '])
    · simp
    · have hblank : ¬closing <:+: [' '] := by decide
      have hstar : ¬closing <:+: ['*'] := by decide
      rw [← List.append_assoc, ← List.append_assoc, closing_infix_append (by simp),
        closing_infix_append (by simp), closing_infix_append fun h => absurd h hlast]
      simp only [hopen, hmessage, hblank, hstar, or_self, not_false_eq_true]

@[simp] theorem Diagnostic.isBlockComment_placeholder {d : Diagnostic} :
    IsBlockComment d.placeholder.toList ↔ ¬closing <:+: d.message.toList := by
  unfold placeholder
  rw [String.toList_append, String.toList_append]
  exact isBlockComment_iff (by decide +kernel) (by decide +kernel) (by decide +kernel)
    (by decide +kernel)

def IsPlain (text : String) : Prop := '*' ∉ text.toList ∧ '/' ∉ text.toList

instance (text : String) : Decidable (IsPlain text) := inferInstanceAs (Decidable (_ ∧ _))

theorem IsPlain.append {front back : String} (hfront : IsPlain front) (hback : IsPlain back) :
    IsPlain (front ++ back) := by
  unfold IsPlain
  rw [String.toList_append, List.mem_append, List.mem_append]
  exact ⟨not_or.mpr ⟨hfront.1, hback.1⟩, not_or.mpr ⟨hfront.2, hback.2⟩⟩

theorem IsPlain.not_closing {text : String} (h : IsPlain text) : ¬closing <:+: text.toList :=
  fun hclosing => h.1 (hclosing.subset List.mem_cons_self)

theorem isPlain_of_not_delimiter {text : List Char}
    (h : ∀ c ∈ text, Code.isDelimiter c = false) : IsPlain (String.ofList text) := by
  unfold IsPlain
  rw [String.toList_ofList]
  exact ⟨fun hstar => absurd (h _ hstar) (by decide), fun hslash => absurd (h _ hslash) (by decide)⟩

theorem Code.IsNumeral.isPlain {text : List Char} (h : IsNumeral text) :
    IsPlain (String.ofList text) := by
  obtain ⟨negative, digits, rfl, hdigits⟩ := h
  rw [String.ofList_append]
  refine IsPlain.append ?_ (isPlain_of_not_delimiter hdigits.not_delimiter)
  cases negative <;> decide +kernel

theorem isPlain_displayText (x : Binary64) : IsPlain x.displayText := by
  cases hfinite : x.isFinite with
  | true => exact (Code.isNumeral_display hfinite).isPlain
  | false =>
    unfold Binary64.displayText Binary64.display Binary64.signText
    rw [hfinite]
    cases x.isNaN <;> cases x.isNegative <;> simp <;> decide +kernel

theorem isPlain_repr (n : Nat) : IsPlain (Nat.repr n) := by
  rw [Nat.repr_eq_ofList_toDigits]
  exact isPlain_of_not_delimiter (allDigits_decimalDigits n).not_delimiter

/-- A message of plain words with these texts in it, each behind some words. -/
inductive Spliced : List String → String → Prop where
  | words {text : String} (hplain : IsPlain text) : Spliced [] text
  | behind {words : String} (hplain : IsPlain words) (hne : words ≠ "") (text : String) :
      Spliced [text] (words ++ text)
  | append {texts more : List String} {front back : String} (hfront : Spliced texts front)
      (hback : Spliced more back) : Spliced (texts ++ more) (front ++ back)

namespace Spliced

theorem between {front back : String} (hfront : IsPlain front) (hne : front ≠ "")
    (hback : IsPlain back) (text : String) : Spliced [text] (front ++ text ++ back) :=
  append (behind hfront hne text) (words hback)

theorem around {texts : List String} {front message back : String} (hfront : IsPlain front)
    (h : Spliced texts message) (hback : IsPlain back) :
    Spliced texts (front ++ message ++ back) := by
  have hspliced := append (append (words hfront) h) (words hback)
  rwa [List.nil_append, List.append_nil] at hspliced

variable {texts : List String} {message : String}

theorem head?_ne_slash (h : Spliced texts message) : message.toList.head? ≠ some '/' := by
  induction h with
  | words hplain => exact fun hslash => hplain.2 (List.mem_of_head? hslash)
  | @behind words hplain hne text =>
    obtain ⟨c, rest, hwords⟩ := List.exists_cons_of_ne_nil (mt String.toList_eq_nil_iff.mp hne)
    rw [String.toList_append, hwords, List.cons_append, List.head?_cons]
    rintro ⟨rfl⟩
    exact hplain.2 (hwords ▸ List.mem_cons_self)
  | append _ _ ihfront ihback =>
    rw [String.toList_append, List.head?_append]
    exact fun hslash => (Option.or_eq_some_iff.mp hslash).elim ihfront fun h => ihback h.2

theorem closing_infix_iff (h : Spliced texts message) :
    closing <:+: message.toList ↔ ∃ text ∈ texts, closing <:+: text.toList := by
  induction h with
  | words hplain => simp [hplain.not_closing]
  | @behind words hplain hne text =>
    have hborder : words.toList.getLast? = some '*' → text.toList.head? ≠ some '/' :=
      fun hstar => absurd (List.mem_of_getLast? hstar) hplain.1
    rw [String.toList_append, closing_infix_append hborder]
    simp [hplain.not_closing]
  | append _ hback ihfront ihback =>
    rw [String.toList_append, closing_infix_append fun _ => hback.head?_ne_slash, ihfront, ihback]
    simp only [List.mem_append, or_and_right, exists_or]

end Spliced

theorem Expression.spliced_describe (value : Value) :
    Spliced (describedTexts value) (describe value) := by
  have hquote : IsPlain "\"" := by decide +kernel
  unfold describe
  cases value with
  | text s => exact .between hquote (by decide) hquote s
  | node id =>
    have hwords : "\"" ++ ("object " ++ id) ++ "\"" = "\"object " ++ id ++ "\"" := by
      simp [← String.toList_inj]
    dsimp only
    rw [hwords]
    exact .between (by decide +kernel) (by decide) hquote id
  | bool b => cases b <;> exact .words (by decide +kernel)
  | int n => exact .words ((hquote.append (Code.isNumeral_integerText _).isPlain).append hquote)
  | float x => exact .words ((hquote.append (isPlain_displayText x)).append hquote)
  | reference target =>
    have hreference : IsPlain ("\"" ++ "reference" ++ "\"") := by decide +kernel
    exact .words hreference
  | list items =>
    have hcount : IsPlain ("sequence of " ++ Nat.repr items.length) :=
      IsPlain.append (by decide +kernel) (isPlain_repr _)
    exact .words ((hquote.append hcount).append hquote)

namespace RecordModule

variable {doc : Document} {record node : Node}

theorem spliced_quotedName (node : Node) :
    Spliced (node.getText? Property.name).toList (quotedName node) := by
  unfold quotedName
  cases node.getText? Property.name with
  | none => exact .words (by decide +kernel)
  | some name => exact .between (by decide +kernel) (by decide) (by decide +kernel) name

theorem spliced_names (nodes : List Node) :
    Spliced (nodes.filterMap (·.getText? Property.name))
      (String.intercalate ", " (nodes.map quotedName)) := by
  induction nodes with
  | nil => exact .words (by decide +kernel)
  | cons node nodes ih =>
    have hnames : (node :: nodes).filterMap (·.getText? Property.name) =
        (node.getText? Property.name).toList ++ nodes.filterMap (·.getText? Property.name) := by
      rw [List.filterMap_cons]
      cases node.getText? Property.name <;> rfl
    rw [hnames]
    cases nodes with
    | nil => simpa using spliced_quotedName node
    | cons next nodes =>
      rw [List.map_cons, List.map_cons, String.intercalate_cons_cons]
      have hcomma : Spliced [] ", " := .words (by decide +kernel)
      have hfirst := (spliced_quotedName node).append hcomma
      rw [List.append_nil] at hfirst
      exact hfirst.append ih

theorem Reported.spliced {d : Diagnostic} {texts : List String}
    (h : Reported doc record d texts) : Spliced texts d.message := by
  have hfixed : ∀ entry ∈ fixedMessages, IsPlain entry.2 := by decide +kernel
  cases h with
  | fixed id hmessage => exact .words (hfixed _ hmessage)
  | cycle left => exact .around (by decide +kernel) (spliced_names _) (by decide +kernel)
  | notAnExpression | notANumber =>
    exact .around (by decide +kernel) (Expression.spliced_describe _) (by decide +kernel)
  | notARecord | noDefault | noInput | unknownConcept | dangling =>
    exact .between (by decide +kernel) (by decide) (by decide +kernel) _

theorem Reported.isBlockComment_iff {d : Diagnostic} {texts : List String}
    (h : Reported doc record d texts) :
    IsBlockComment d.placeholder.toList ↔ ∀ text ∈ texts, ¬closing <:+: text.toList := by
  rw [Diagnostic.isBlockComment_placeholder, h.spliced.closing_infix_iff]
  simp only [not_exists, not_and]

end RecordModule

/-- The texts in a document: ids, concepts, texts that nodes hold, and ids that they refer to. -/
inductive Document.HasText (doc : Document) : String → Prop where
  | id {id : NodeId} {node : Node} (hget : doc.get? id = some node) : HasText doc id
  | concept {id : NodeId} {node : Node} (hget : doc.get? id = some node) : HasText doc node.concept
  | held {id : NodeId} {node : Node} {property text : String} (hget : doc.get? id = some node)
      (hheld : node.get? property = some (.text text)) : HasText doc text
  | target {id target : NodeId} {node : Node} {property : String} (hget : doc.get? id = some node)
      (hheld : node.get? property = some (.reference (some target))) : HasText doc target

namespace RecordModule

variable {doc : Document} {record node : Node}

theorem hasText_of_getText? {id : NodeId} {property text : String} (hget : doc.get? id = some node)
    (h : node.getText? property = some text) : doc.HasText text := by
  obtain ⟨value, hvalue, htext⟩ := Option.bind_eq_some_iff.mp h
  cases value with
  | text s =>
    obtain rfl : s = text := Option.some.inj htext
    exact .held hget hvalue
  | _ => contradiction

theorem hasText_of_described (forest : doc.Forest) {id : NodeId} {property : String} {value : Value}
    (hget : doc.get? id = some node) (hvalue : node.get? property = some value) :
    ∀ text ∈ Expression.describedTexts value, doc.HasText text := by
  intro text htext
  cases value with
  | text s =>
    obtain rfl := List.mem_singleton.mp htext
    exact .held hget hvalue
  | node child =>
    obtain rfl := List.mem_singleton.mp htext
    have hown : doc.Owns id text := Document.owns_of_get? hget hvalue (List.mem_singleton_self text)
    obtain ⟨held, hheld⟩ := Document.contains_iff.mp (forest.child_mem hown)
    exact .id hheld
  | _ => contradiction

theorem Reported.hasText (forest : doc.Forest) (hrecord : doc.get? record.id = some record)
    {d : Diagnostic} {texts : List String} (h : Reported doc record d texts) :
    ∀ text ∈ texts, doc.HasText text := by
  have hget {node : Node} (hnode : node ∈ doc.tree record.id) : doc.get? node.id = some node :=
    ((Document.mem_tree_iff forest).mp hnode).1
  cases h with
  | fixed => simp
  | notARecord => simpa using .concept hrecord
  | cycle left =>
    intro text htext
    obtain ⟨node, hnode, hname⟩ := List.mem_filterMap.mp htext
    obtain ⟨id, -, hid⟩ := List.mem_filterMap.mp hnode
    exact hasText_of_getText? hid hname
  | noDefault hnode htype => simpa using hasText_of_getText? (hget hnode) htype
  | noInput hnode htype => simpa using hasText_of_getText? (hget hnode) htype
  | notAnExpression hnode hvalue => exact hasText_of_described forest (hget hnode) hvalue
  | unknownConcept hnode => simpa using .concept (hget hnode)
  | notANumber hnode hvalue => exact hasText_of_described forest (hget hnode) hvalue
  | dangling hnode htarget _ => simpa using .target (hget hnode) htarget

/-- The comment of a problem ends at its end exactly if none of the texts of the document in it ends
a comment; the words around them never do. So if no text in a document ends a comment, no comment
ends early. -/
theorem placeholder_closes_iff (hdoc : doc.Reachable) {key : NodeId}
    (hrecord : doc.get? key = some record) (options : Options) :
    (∀ d ∈ (generateRecord doc record options).diagnostics, ∃ texts,
      Reported doc record d texts ∧ (∀ text ∈ texts, doc.HasText text) ∧
      (IsBlockComment d.placeholder.toList ↔ ∀ text ∈ texts, ¬closing <:+: text.toList)) ∧
    ((∀ text, doc.HasText text → ¬closing <:+: text.toList) →
      ∀ d ∈ (generateRecord doc record options).diagnostics,
        IsBlockComment d.placeholder.toList) := by
  have wf := hdoc.wellFormed
  obtain rfl := wf.keyed hrecord
  have hreport := reportable_of_mem wf hrecord options
  constructor
  · intro d hd
    obtain ⟨texts, hreported⟩ := hreport d hd
    exact ⟨texts, hreported, hreported.hasText wf.toForest hrecord, hreported.isBlockComment_iff⟩
  · intro hclean d hd
    obtain ⟨texts, hreported⟩ := hreport d hd
    apply hreported.isBlockComment_iff.mpr
    intro text htext
    exact hclean text (hreported.hasText wf.toForest hrecord text htext)

/-- The end of a comment in an id that no node has, and one that is torn apart in a type. -/
theorem placeholder_closes_iff_target :
    let doc := List.foldl Document.after (.new "r" "Record Type") [
      .create "lost" "Attribute Reference" (.ofList [("attribute", .reference (some "*/ x /*"))]),
      .create "a" "Attribute" (.ofList [("name", .text "half"), ("type", .text "unit * / 2"),
        ("value", .node "lost")]),
      .assign "r" "attributes" (some (.list [.node "a"]))]
    let generated := generateRecord doc doc.rootNode {}
    let lost : Diagnostic := ⟨.danglingReference, some "lost",
      "attribute reference to unknown object \"*/ x /*\""⟩
    let unit : Diagnostic := ⟨.unhandledType, some "a", "type \"unit * / 2\" has no form input"⟩
    doc.Reachable ∧ doc.get? "r" = some doc.rootNode ∧ lost ∈ generated.diagnostics ∧
      ¬IsBlockComment lost.placeholder.toList ∧
      (∃ text, doc.HasText text ∧ closing <:+: text.toList) ∧ unit ∈ generated.diagnostics ∧
      ∃ texts, Reported doc doc.rootNode unit texts ∧ ∀ text ∈ texts, ¬closing <:+: text.toList := by
  intro doc generated lost unit
  have hdoc : doc.Reachable :=
    (Document.Reachable.new "r" "Record Type").afterAll (by decide +kernel)
  have hrecord : doc.get? "r" = some doc.rootNode := rfl
  have hlost : lost ∈ generated.diagnostics := by decide +kernel
  have hunit : unit ∈ generated.diagnostics := by decide +kernel
  have hearly : ¬IsBlockComment lost.placeholder.toList := by
    rw [Diagnostic.isBlockComment_placeholder]
    decide +kernel
  have hwhole : IsBlockComment unit.placeholder.toList := by
    rw [Diagnostic.isBlockComment_placeholder]
    decide +kernel
  obtain ⟨hparts, hclean⟩ := placeholder_closes_iff hdoc hrecord {}
  obtain ⟨texts, hreported, -, hiff⟩ := hparts unit hunit
  refine ⟨hdoc, hrecord, hlost, hearly, ?_, hunit, texts, hreported, hiff.mp hwhole⟩
  by_contra hnone
  exact hearly (hclean (fun text htext hclosing => hnone ⟨text, htext, hclosing⟩) lost hlost)

/-- A type can end the comment in the place of an initial value, have a value of its own behind it,
and open a comment again. -/
theorem placeholder_closed_by_type :
    let doc := List.foldl Document.after (.new "r" "Record Type") [
      .assign "r" "name" (some (.text "order")),
      .create "a" "Attribute" (.ofList [("name", .text "price"), ("type", .text "*/ run() /*")]),
      .assign "r" "attributes" (some (.list [.node "a"]))]
    doc.Reachable ∧ ∃ d ∈ (generateRecord doc doc.rootNode {}).diagnostics,
      ¬IsBlockComment d.placeholder.toList ∧ ∃ first second, IsBlockComment first ∧
        IsBlockComment second ∧ d.placeholder.toList = first ++ " run() ".toList ++ second := by
  intro doc
  have hdoc : doc.Reachable :=
    (Document.Reachable.new "r" "Record Type").afterAll (by decide +kernel)
  refine ⟨hdoc, ⟨.unhandledType, some "a", "type \"*/ run() /*\" has no default initial value"⟩,
    by decide +kernel, ?_, "/* [GENERATION PROBLEM] type \"*/".toList,
    "/*\" has no default initial value */".toList, ?_, ?_, by decide +kernel⟩
  · rw [Diagnostic.isBlockComment_placeholder]
    decide +kernel
  · apply isBlockComment_of_body " [GENERATION PROBLEM] type \"".toList <;> decide +kernel
  · apply isBlockComment_of_body "\" has no default initial value ".toList <;> decide +kernel

end RecordModule

end RecordForms
