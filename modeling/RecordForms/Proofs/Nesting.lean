import Mathlib.Data.List.Chain
import RecordForms.Proofs.Rendering
import RecordForms.Proofs.Saving

/-! How deep nodes are nested. No way down and no way up comes back to a node, so neither is longer
than the document is large; every walk ends there by itself, and the limit that it is given is never
met. References lead anywhere and are not part of any way. -/
namespace RecordForms.Document

variable {doc : Document}

theorem nodup_of_isChain (forest : doc.Forest) {chain : List NodeId} (h : chain.IsChain doc.Owns) :
    chain.Nodup := by
  have hbelow : chain.Pairwise (Relation.TransGen doc.Owns) :=
    (h.imp fun _ _ hown => .single hown).pairwise
  refine hbelow.imp fun hab heq => ?_
  exact not_transGen_self forest.acyclic _ (heq ▸ hab)

theorem contains_of_isChain_cons (forest : doc.Forest) {first : NodeId} {chain : List NodeId}
    (h : (first :: chain).IsChain doc.Owns) : ∀ id ∈ chain, doc.contains id = true := by
  induction chain generalizing first with
  | nil => simp
  | cons second chain ih =>
    obtain ⟨hown, hrest⟩ := List.isChain_cons_cons.mp h
    exact List.forall_mem_cons.mpr ⟨forest.child_mem hown, ih hrest⟩

/-- An id that is nowhere in the document makes a chain of its own, and there is room for one. -/
theorem length_le_size_of_isChain (forest : doc.Forest) {chain : List NodeId}
    (h : chain.IsChain doc.Owns) : chain.length ≤ doc.size := by
  match chain with
  | [] => exact Nat.zero_le _
  | [_] => exact doc.size_pos
  | first :: second :: rest =>
    obtain ⟨node, hget, -⟩ := (List.isChain_cons_cons.mp h).1
    exact TextMap.length_le_size (nodup_of_isChain forest h) (List.forall_mem_cons.mpr
      ⟨contains_iff.mpr ⟨node, hget⟩, contains_of_isChain_cons forest h⟩)

theorem isChain_owns_of_parents (forest : doc.Forest) {chain : List NodeId}
    (h : chain.IsChain fun id parent => doc.parent? id = some parent) :
    chain.reverse.IsChain doc.Owns :=
  List.isChain_reverse.mpr (h.imp fun _ _ => forest.parent_iff.mp)

theorem exists_chain_of_ancestor? {steps : Nat} {id above : NodeId}
    (h : doc.ancestor? steps id = some above) : ∃ passed : List NodeId, passed.length = steps ∧
      (∀ v ∈ passed, doc.parents.contains v = true) ∧ (passed ++ [above]).head? = some id ∧
      (passed ++ [above]).IsChain fun id parent => doc.parent? id = some parent := by
  induction steps generalizing id with
  | zero => exact ⟨[], rfl, by simp, h.symm, .singleton above⟩
  | succ steps ih =>
    obtain ⟨parent, hparent, hsteps⟩ := Option.bind_eq_some_iff.mp h
    obtain ⟨passed, hlength, hpassed, hhead, hchain⟩ := ih hsteps
    refine ⟨id :: passed, by rw [List.length_cons, hlength], List.forall_mem_cons.mpr
      ⟨Option.isSome_iff_exists.mpr ⟨parent, hparent⟩, hpassed⟩, rfl, ?_⟩
    refine List.isChain_cons.mpr ⟨fun next hnext => ?_, hchain⟩
    obtain rfl := Option.some.inj (hhead.symm.trans hnext)
    exact hparent

theorem ancestor?_eq_none (forest : doc.Forest) (id : NodeId) :
    doc.ancestor? (doc.parents.size + 1) id = none := by
  by_contra hsome
  obtain ⟨above, habove⟩ := Option.ne_none_iff_exists'.mp hsome
  obtain ⟨passed, hlength, hpassed, -, hchain⟩ := exists_chain_of_ancestor? habove
  have hnodup : (passed ++ [above]).Nodup :=
    List.nodup_reverse.mp (nodup_of_isChain forest (isChain_owns_of_parents forest hchain))
  have hle := TextMap.length_le_size (List.nodup_append.mp hnodup).1 hpassed
  omega

theorem parents_size_lt (forest : doc.Forest) : doc.parents.size < doc.size := by
  have hroot : doc.root ∉ doc.parents.keys := by
    intro hmem
    obtain ⟨parent, hparent⟩ := Option.isSome_iff_exists.mp (TextMap.mem_keys.mp hmem)
    exact forest.root_free (forest.parent_iff.mp hparent)
  have hkeys : ∀ id ∈ doc.parents.keys, doc.nodes.contains id = true := by
    intro id hmem
    obtain ⟨parent, hparent⟩ := Option.isSome_iff_exists.mp (TextMap.mem_keys.mp hmem)
    exact forest.child_mem (forest.parent_iff.mp hparent)
  have hle : (doc.root :: doc.parents.keys).length ≤ doc.nodes.size :=
    TextMap.length_le_size (List.nodup_cons.mpr ⟨hroot, doc.parents.nodup_keys⟩)
      (List.forall_mem_cons.mpr ⟨doc.root_mem, hkeys⟩)
  rwa [List.length_cons, TextMap.length_keys] at hle

theorem lineageWithin_eq {steps limit : Nat} {id : NodeId} (h : doc.ancestor? steps id = none)
    (hle : steps ≤ limit) : doc.lineageWithin limit id = doc.lineageWithin steps id := by
  induction steps generalizing limit id with
  | zero => contradiction
  | succ steps ih =>
    obtain ⟨limit, rfl⟩ := Nat.exists_eq_succ_of_ne_zero (by omega : limit ≠ 0)
    rw [lineageWithin, lineageWithin]
    split
    next parent hparent =>
      rw [ancestor?, hparent] at h
      rw [ih h (Nat.le_of_succ_le_succ hle)]
    next => rfl

/-- One step into a value: to an item of a list, or to what a property of a node holds. Saving a
value goes on to all of these, rendering an expression to some of them. -/
inductive Holds (doc : Document) : Value → Value → Prop where
  | item {items : List Value} {item : Value} (hitem : item ∈ items) : Holds doc (.list items) item
  | setting {id : NodeId} {node : Node} {property : String} {held : Value}
      (hget : doc.get? id = some node) (hheld : node.get? property = some held) :
      Holds doc (.node id) held

theorem mem_owned_of_isChain {value : Value} {rest : List Value} {id : NodeId}
    (h : (value :: rest).IsChain doc.Holds)
    (hid : ((value :: rest).filterMap Value.asNode?).head? = some id) : id ∈ value.owned := by
  induction rest generalizing value with
  | nil => cases value <;> simp_all [Value.asNode?, Value.owned]
  | cons next rest ih =>
    obtain ⟨hnext, hrest⟩ := List.isChain_cons_cons.mp h
    cases hnext with
    | @item items _ hitem =>
      rw [Value.owned_list]
      exact List.mem_flatMap.mpr ⟨next, hitem, ih hrest hid⟩
    | setting => simpa [Value.asNode?, Value.owned, eq_comm] using hid

theorem isChain_owns_of_holds {chain : List Value} (h : chain.IsChain doc.Holds) :
    (chain.filterMap Value.asNode?).IsChain doc.Owns := by
  induction chain with
  | nil => exact .nil
  | cons value rest ih =>
    have hrest := ih h.of_cons
    cases value with
    | node top =>
      refine List.isChain_cons.mpr ⟨fun id hid => ?_, hrest⟩
      match rest with
      | [] => contradiction
      | next :: rest =>
        obtain ⟨hnext, htail⟩ := List.isChain_cons_cons.mp h
        cases hnext with
        | setting hget hheld => exact owns_of_get? hget hheld (mem_owned_of_isChain htail hid)
    | _ => exact hrest

theorem acc_holds_of_owned {value : Value}
    (h : ∀ id ∈ value.owned, Acc (fun inner outer => doc.Holds outer inner) (.node id)) :
    Acc (fun inner outer => doc.Holds outer inner) value := by
  induction value using Value.induction with
  | node id => exact h id (List.mem_singleton_self id)
  | list items ih =>
    rw [Value.owned_list] at h
    refine Acc.intro _ fun inner hinner => ?_
    cases hinner with
    | item hitem =>
      exact ih inner hitem fun id hid => h id (List.mem_flatMap.mpr ⟨inner, hitem, hid⟩)
  | _ => exact Acc.intro _ fun inner hinner => by cases hinner

theorem wellFounded_holds (forest : doc.Forest) :
    WellFounded fun inner outer => doc.Holds outer inner := by
  have hnode (id : NodeId) : Acc (fun inner outer => doc.Holds outer inner) (.node id) := by
    induction id using (descending forest).induction with
    | _ id ih =>
      refine Acc.intro _ fun inner hinner => ?_
      cases hinner with
      | setting hget hheld =>
        exact acc_holds_of_owned fun child hchild => ih child (owns_of_get? hget hheld hchild)
  exact ⟨fun value => acc_holds_of_owned fun id _ => hnode id⟩

/-- Whatever the references of a document are, no chain of owners or of parents meets a node twice,
and no way into a value does; none of them meets more nodes than there are. So climbing from any id
ends within that many steps, ways into any value end, and a limit that is not below the size of the
document makes no difference to climbing, to walking down, to saving or to rendering. -/
theorem nesting_bounded (h : doc.Reachable) :
    (∀ chain : List NodeId, chain.IsChain doc.Owns → chain.Nodup ∧ chain.length ≤ doc.size) ∧
      (∀ chain : List NodeId, (chain.IsChain fun id parent => doc.parent? id = some parent) →
        chain.Nodup ∧ chain.length ≤ doc.size) ∧
      (∀ chain : List Value, chain.IsChain doc.Holds →
        (chain.filterMap Value.asNode?).Nodup ∧
          (chain.filterMap Value.asNode?).length ≤ doc.size) ∧
      (∀ id, ∃ steps ≤ doc.size, doc.ancestor? steps id = none) ∧
      (WellFounded fun inner outer => doc.Holds outer inner) ∧
      ∀ limit, doc.size ≤ limit →
        (∀ id, doc.lineageWithin limit id = doc.lineage id) ∧
        (∀ id, doc.treeWithin limit id = doc.tree id) ∧
        (∀ value : Value, value.saveWith (doc.saveIdWithin limit) = doc.saveValue value) ∧
        ∀ table value path, Expression.renderWithin doc table limit value path =
          Expression.renderBelow doc table value path := by
  have forest := h.wellFormed.toForest
  have hparents := parents_size_lt forest
  refine ⟨fun chain hchain => ⟨nodup_of_isChain forest hchain,
    length_le_size_of_isChain forest hchain⟩, fun chain hchain => ?_, fun chain hchain => ?_,
    fun id => ⟨doc.parents.size + 1, hparents, ancestor?_eq_none forest id⟩,
    wellFounded_holds forest, fun limit hlimit => ⟨fun id => ?_, fun id => ?_, fun value => ?_,
    fun table value path => ?_⟩⟩
  -- read backwards, a chain of parents is a chain of owners
  · have hdown := isChain_owns_of_parents forest hchain
    refine ⟨List.nodup_reverse.mp (nodup_of_isChain forest hdown), ?_⟩
    rw [← List.length_reverse]
    exact length_le_size_of_isChain forest hdown
  · have hdown := isChain_owns_of_holds hchain
    exact ⟨nodup_of_isChain forest hdown, length_le_size_of_isChain forest hdown⟩
  · exact lineageWithin_eq (ancestor?_eq_none forest id) (Nat.le_trans hparents hlimit)
  · exact treeWithin_eq forest (within_of_size_le hlimit id) (within_of_size_le (Nat.le_refl _) id)
  · exact Value.saveWith_congr fun id _ => saveIdWithin_eq forest (within_of_size_le hlimit id)
      (within_of_size_le (Nat.le_refl _) id)
  · exact Expression.renderWithin_eq forest (fun id _ => within_of_size_le hlimit id)
      (fun id _ => within_of_size_le (Nat.le_refl _) id) fun _ _ => rfl

/-- Two attributes that read each other: references go round in a ring, and nothing else does. -/
theorem nesting_bounded_ring :
    let doc := List.foldl Document.after (.new "r" "Record Type") [
      .create "one" "Number" (.ofList [("value", .int 1)]),
      .create "of b" "Attribute Reference" (.ofList [("attribute", .reference (some "b"))]),
      .create "sum" "Binary Operation" (.ofList [("left operand", .node "one"),
        ("operator", .text "+"), ("right operand", .node "of b")]),
      .create "a" "Attribute" (.ofList [("name", .text "a"), ("value", .node "sum")]),
      .create "of a" "Attribute Reference" (.ofList [("attribute", .reference (some "a"))]),
      .create "b" "Attribute" (.ofList [("name", .text "b"), ("value", .node "of a")]),
      .assign "r" "attributes" (some (.list [.node "a", .node "b"]))]
    doc.Reachable ∧ doc.size = 7 ∧
      ((doc.get? "a").map doc.reads = some ["b"] ∧ (doc.get? "b").map doc.reads = some ["a"]) ∧
      doc.lineage "one" = ["one", "sum", "a", "r"] ∧
      (∃ steps ≤ 7, doc.ancestor? steps "one" = none) ∧
      doc.lineageWithin 1000 "one" = doc.lineage "one" ∧
      doc.treeWithin 1000 "r" = doc.tree "r" ∧
      Value.saveWith (doc.saveIdWithin 1000) (.list [.node "a", .reference (some "b")]) =
        doc.saveValue (.list [.node "a", .reference (some "b")]) ∧
      Expression.renderWithin doc .standard 1000 (.node "sum") [] =
        Expression.render doc .standard (.node "sum") ∧
      (Expression.render doc .standard (.node "sum")).output = "1 + this.b" := by
  intro doc
  have hdoc : doc.Reachable :=
    (Document.Reachable.new "r" "Record Type").afterAll (by decide +kernel)
  have hsize : doc.size = 7 := by decide +kernel
  obtain ⟨-, -, -, hclimb, -, hlimit⟩ := nesting_bounded hdoc
  obtain ⟨hlineage, htree, hsave, hrender⟩ := hlimit 1000 (by rw [hsize]; decide)
  exact ⟨hdoc, hsize, by decide +kernel, by decide +kernel, hsize ▸ hclimb "one", hlineage "one",
    htree "r", hsave _, hrender _ _ _, by decide +kernel⟩

end RecordForms.Document
