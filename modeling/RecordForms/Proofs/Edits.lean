import RecordForms.Model.Edit
import RecordForms.Proofs.Ownership

/-! Edits keep a document well formed. Every edit that is made puts one node in its place; what the
node owns changes by what the edit sets free and what it attaches, and the checks see to it that
this is enough. -/
namespace RecordForms

theorem bind_eq_ok {ε α β : Type} {x : Except ε α} {f : α → Except ε β} {b : β} :
    (x >>= f) = .ok b ↔ ∃ a, x = .ok a ∧ f a = .ok b := by
  cases x <;> simp [bind, Except.bind]

namespace Document

/-- What the checks of children have made sure of. -/
structure Attachable (doc : Document) (parent : NodeId) (released children : List NodeId) :
    Prop where
  present : ∀ child ∈ children, doc.contains child = true
  not_root : ∀ child ∈ children, child ≠ doc.root
  free : ∀ child ∈ children, ∀ owner, doc.parent? child = some owner →
    owner = parent ∧ child ∈ released
  not_above : ∀ child ∈ children, child ∉ doc.lineage parent
  nodup : children.Nodup

theorem checkChild_eq_ok {doc : Document} {parent child : NodeId} {released seen : List NodeId} :
    doc.checkChild parent released seen child = .ok () ↔
      doc.contains child = true ∧ child ≠ doc.root ∧ child ∉ seen ∧
        (∀ owner, doc.parent? child = some owner → owner = parent ∧ child ∈ released) ∧
        child ∉ doc.lineage parent := by
  unfold checkChild
  cases hparent : doc.parent? child with
  | none => simp only [Option.filter_none]; grind
  | some owner => simp only [Option.filter_some]; grind

theorem attachable_nil (doc : Document) (parent : NodeId) (released : List NodeId) :
    doc.Attachable parent released [] :=
  ⟨by simp, by simp, by simp, by simp, .nil⟩

theorem attachable_cons {doc : Document} {parent child : NodeId} {released rest : List NodeId} :
    doc.Attachable parent released (child :: rest) ↔
      (doc.contains child = true ∧ child ≠ doc.root ∧
        (∀ owner, doc.parent? child = some owner → owner = parent ∧ child ∈ released) ∧
        child ∉ doc.lineage parent) ∧ child ∉ rest ∧ doc.Attachable parent released rest := by
  constructor
  · intro h
    obtain ⟨hpresent, present⟩ := List.forall_mem_cons.mp h.present
    obtain ⟨hroot, not_root⟩ := List.forall_mem_cons.mp h.not_root
    obtain ⟨hfree, free⟩ := List.forall_mem_cons.mp h.free
    obtain ⟨habove, not_above⟩ := List.forall_mem_cons.mp h.not_above
    obtain ⟨hrest, nodup⟩ := List.nodup_cons.mp h.nodup
    exact ⟨⟨hpresent, hroot, hfree, habove⟩, hrest, present, not_root, free, not_above, nodup⟩
  · rintro ⟨⟨hpresent, hroot, hfree, habove⟩, hrest, h⟩
    exact {
      present := List.forall_mem_cons.mpr ⟨hpresent, h.present⟩
      not_root := List.forall_mem_cons.mpr ⟨hroot, h.not_root⟩
      free := List.forall_mem_cons.mpr ⟨hfree, h.free⟩
      not_above := List.forall_mem_cons.mpr ⟨habove, h.not_above⟩
      nodup := List.nodup_cons.mpr ⟨hrest, h.nodup⟩ }

@[simp] theorem checkChildren_eq_ok {doc : Document} {parent : NodeId}
    {released seen children : List NodeId} :
    doc.checkChildren parent released seen children = .ok () ↔
      doc.Attachable parent released children ∧ ∀ child ∈ children, child ∉ seen := by
  induction children generalizing seen with
  | nil => simp [checkChildren, attachable_nil]
  | cons child rest ih =>
    -- what was seen before the rest is the child too, so the rest does not hold it
    have hseen : (∀ c ∈ rest, c ∉ child :: seen) ↔ child ∉ rest ∧ ∀ c ∈ rest, c ∉ seen := by
      grind
    rw [checkChildren, attachable_cons, List.forall_mem_cons]
    cases hcheck : doc.checkChild parent released seen child with
    | error refusal =>
      have hno : ¬doc.checkChild parent released seen child = .ok () := by
        rw [hcheck]
        exact nofun
      rw [checkChild_eq_ok] at hno
      simp only [reduceCtorEq, false_iff]
      tauto
    | ok _ =>
      have hchild := checkChild_eq_ok.mp hcheck
      simp only [ih, hseen]
      tauto

def childrenOf (doc : Document) (id : NodeId) : List NodeId := (doc.get? id).elim [] Node.children

@[simp] theorem mem_childrenOf {doc : Document} {id child : NodeId} :
    child ∈ doc.childrenOf id ↔ doc.Owns id child := by
  cases hget : doc.get? id <;> simp [childrenOf, Owns, hget]

/-- A node that may take the place `id`, with the children it loses and gains. -/
structure Replacement (doc : Document) (id : NodeId) (node : Node)
    (released attached : List NodeId) : Prop where
  node_id : node.id = id
  finite : ∀ value ∈ node.settings.values, value.isFinite = true
  count : ∀ child, node.children.count child + released.count child =
    (doc.childrenOf id).count child + attached.count child
  gained : ∀ child ∈ attached, child ∈ node.children
  attachable : doc.Attachable id released attached

theorem count_ownedIds_put (doc : Document) (id : NodeId) (node : Node)
    (released attached : List NodeId) (child : NodeId) :
    (doc.put id node released attached).ownedIds.count child + (doc.childrenOf id).count child =
      doc.ownedIds.count child + node.children.count child :=
  TextMap.count_insert Node.children doc.nodes id node child

theorem count_childrenOf_le (doc : Document) (id child : NodeId) :
    (doc.childrenOf id).count child ≤ doc.ownedIds.count child :=
  TextMap.count_le_values Node.children doc.nodes id child

@[simp] theorem owns_put {doc : Document} {id : NodeId} {node : Node} {released attached : List NodeId}
    {p child : NodeId} :
    (doc.put id node released attached).Owns p child ↔
      if p = id then child ∈ node.children else doc.Owns p child := by
  simp only [Owns, get?_put]
  split <;> simp

namespace Replacement

variable {doc : Document} {id : NodeId} {node : Node} {released attached : List NodeId}

theorem owns_of_released (h : doc.Replacement id node released attached) {child : NodeId}
    (hreleased : child ∈ released) (hattached : child ∉ attached) : doc.Owns id child := by
  have hcount := h.count child
  have hpos := List.count_pos_iff.mpr hreleased
  rw [List.count_eq_zero_of_not_mem hattached] at hcount
  exact mem_childrenOf.mp (List.count_pos_iff.mp (by omega))

theorem not_mem_children_of_released (wf : doc.WellFormed)
    (h : doc.Replacement id node released attached) {child : NodeId}
    (hreleased : child ∈ released) (hattached : child ∉ attached) : child ∉ node.children := by
  have hcount := h.count child
  have honce := List.nodup_iff_count_le_one.mp wf.owned_once child
  have hle := count_childrenOf_le doc id child
  have hpos := List.count_pos_iff.mpr hreleased
  rw [List.count_eq_zero_of_not_mem hattached] at hcount
  exact List.count_eq_zero.mp (by omega)

theorem mem_children_iff (h : doc.Replacement id node released attached) {child : NodeId}
    (hreleased : child ∉ released) (hattached : child ∉ attached) :
    child ∈ node.children ↔ doc.Owns id child := by
  have hcount := h.count child
  rw [List.count_eq_zero_of_not_mem hreleased, List.count_eq_zero_of_not_mem hattached] at hcount
  rw [← mem_childrenOf, ← List.count_pos_iff, ← List.count_pos_iff]
  omega

/-- Nobody but the node itself owns what it gains, and nobody owns what it loses for good. -/
theorem owns_put_iff (wf : doc.WellFormed) (h : doc.Replacement id node released attached)
    {p child : NodeId} :
    (doc.put id node released attached).Owns p child ↔
      if child ∈ attached then p = id
      else child ∉ released ∧ doc.Owns p child := by
  rw [owns_put]
  by_cases hattached : child ∈ attached
  · rw [if_pos hattached]
    split
    next hp => exact iff_of_true (h.gained child hattached) hp
    next hp =>
      refine iff_of_false (fun hown => hp ?_) hp
      exact (h.attachable.free child hattached p (wf.parent_iff.mpr hown)).1
  · rw [if_neg hattached]
    by_cases hreleased : child ∈ released
    · simp only [hreleased, not_true_eq_false, false_and, iff_false]
      split
      next => exact h.not_mem_children_of_released wf hreleased hattached
      next hp => exact fun hown => hp (wf.owner_unique hown (h.owns_of_released hreleased hattached))
    · simp only [hreleased, not_false_eq_true, true_and]
      split
      next hp => rw [hp, h.mem_children_iff hreleased hattached]
      next => rfl

theorem owned_once_put (wf : doc.WellFormed) (h : doc.Replacement id node released attached) :
    (doc.put id node released attached).ownedIds.Nodup := by
  apply List.nodup_iff_count_le_one.mpr
  intro child
  have hput := count_ownedIds_put doc id node released attached child
  have hcount := h.count child
  have honce := List.nodup_iff_count_le_one.mp wf.owned_once child
  have hattached := List.nodup_iff_count_le_one.mp h.attachable.nodup child
  by_cases hmem : child ∈ attached
  · -- a child that is attached was free, or is set free in the same place
    by_cases howned : child ∈ doc.ownedIds
    · obtain ⟨p, hp⟩ := mem_ownedIds.mp howned
      have hfree := h.attachable.free child hmem p (wf.parent_iff.mpr hp)
      have hpos := List.count_pos_iff.mpr hfree.2
      omega
    · rw [List.count_eq_zero_of_not_mem howned] at hput
      omega
  · rw [List.count_eq_zero_of_not_mem hmem] at hcount
    omega

theorem acc_put_of_not_above (wf : doc.WellFormed)
    (h : doc.Replacement id node released attached) (x : NodeId) :
    (∀ a, Relation.ReflTransGen doc.Owns a x → a ∉ attached) →
      Acc (doc.put id node released attached).Owns x := by
  induction x using wf.acyclic.induction with
  | _ x ih =>
    intro habove
    refine Acc.intro x fun p hp => ?_
    rw [h.owns_put_iff wf, if_neg (habove x .refl)] at hp
    exact ih p hp.2 fun a ha => habove a (ha.tail hp.2)

theorem acyclic_put (wf : doc.WellFormed) (h : doc.Replacement id node released attached) :
    WellFounded (doc.put id node released attached).Owns := by
  have hid : Acc (doc.put id node released attached).Owns id :=
    h.acc_put_of_not_above wf id fun a ha hmem =>
      h.attachable.not_above a hmem (wf.mem_lineage ha)
  refine ⟨fun x => ?_⟩
  induction x using wf.acyclic.induction with
  | _ x ih =>
    refine Acc.intro x fun p hp => ?_
    rw [h.owns_put_iff wf] at hp
    split at hp
    · exact hp ▸ hid
    · exact ih p hp.2

theorem wellFormed_put (wf : doc.WellFormed) (h : doc.Replacement id node released attached) :
    (doc.put id node released attached).WellFormed where
  keyed := by
    intro k n hget
    rw [get?_put] at hget
    split at hget
    next hk => rw [← Option.some.inj hget, hk, h.node_id]
    next => exact wf.keyed hget
  child_mem := by
    intro p child hown
    rw [h.owns_put_iff wf] at hown
    rw [contains, put, TextMap.contains_insert, Bool.or_eq_true]
    split at hown
    next hmem => exact .inr (h.attachable.present child hmem)
    next => exact .inr (wf.child_mem hown.2)
  root_free := by
    intro p hown
    rw [h.owns_put_iff wf] at hown
    split at hown
    next hmem => exact h.attachable.not_root doc.root hmem rfl
    next => exact wf.root_free hown.2
  owned_once := h.owned_once_put wf
  parent_iff := by
    intro p child
    rw [h.owns_put_iff wf, parent?_put]
    split
    · simp [eq_comm]
    · split
      · simp_all
      · simp_all [wf.parent_iff]
  acyclic := h.acyclic_put wf
  finite := by
    intro k n hget
    rw [get?_put] at hget
    split at hget
    next => rw [← Option.some.inj hget]; exact h.finite
    next => exact wf.finite hget

end Replacement

@[simp] theorem checkFinite_eq_ok {node : NodeId} {property : String} {value : Value} :
    checkFinite node property value = .ok () ↔ value.isFinite = true := by
  unfold checkFinite
  split <;> simp_all

@[simp] theorem checkAllFinite_eq_ok {node : NodeId} {entries : List (String × Value)} :
    checkAllFinite node entries = .ok () ↔ ∀ e ∈ entries, e.2.isFinite = true := by
  induction entries with
  | nil => simp [checkAllFinite]
  | cons entry rest ih =>
    rw [checkAllFinite, List.forall_mem_cons, ← ih]
    cases hcheck : checkFinite node entry.1 entry.2 with
    | error refusal =>
      have hno := checkFinite_eq_ok.not.mp (by rw [hcheck]; simp :
        ¬checkFinite node entry.1 entry.2 = .ok ())
      simp [hno]
    | ok _ => simp [checkFinite_eq_ok.mp hcheck]

theorem checkValue_eq_ok {doc : Document} {node : NodeId} {property : String}
    {old value : Option Value} :
    doc.checkValue node property old value = .ok () ↔
      (∀ v, value = some v → v.isFinite = true) ∧
        doc.Attachable node (old.elim [] Value.owned) (value.elim [] Value.owned) := by
  cases value with
  | none => simp [checkValue, attachable_nil]
  | some v =>
    rw [checkValue]
    cases hcheck : checkFinite node property v with
    | error refusal =>
      have hno := checkFinite_eq_ok.not.mp (by rw [hcheck]; simp :
        ¬checkFinite node property v = .ok ())
      simp [hno]
    | ok _ => simp [checkFinite_eq_ok.mp hcheck]

@[simp] theorem find_eq_ok {doc : Document} {id : NodeId} {node : Node} :
    doc.find id = .ok node ↔ doc.get? id = some node := by
  unfold find
  cases doc.get? id <;> simp

@[simp] theorem findList_eq_ok {id : NodeId} {node : Node} {property : String}
    {items : List Value} :
    findList id node property = .ok items ↔ node.get? property = some (.list items) := by
  unfold findList
  cases hget : node.get? property with
  | none => simp
  | some value => cases value <;> simp [Value.asList?]

theorem create_eq_ok {doc next : Document} {id : NodeId} {concept : String} {settings : Settings} :
    doc.create id concept settings = .ok next ↔
      (∀ value ∈ settings.values, value.isFinite = true) ∧
        doc.Attachable id [] (Node.mk id concept settings).children ∧
        next = doc.put id ⟨id, concept, settings⟩ [] (Node.mk id concept settings).children := by
  have hvalues : (∀ e ∈ settings.entries, e.2.isFinite = true) ↔
      ∀ value ∈ settings.values, value.isFinite = true := by
    rw [TextMap.values, List.forall_mem_map]
  constructor
  · intro h
    obtain ⟨_, hfinite, h⟩ := bind_eq_ok.mp h
    obtain ⟨_, hcheck, h⟩ := bind_eq_ok.mp h
    exact ⟨hvalues.mp (checkAllFinite_eq_ok.mp hfinite), (checkChildren_eq_ok.mp hcheck).1,
      (Except.ok.inj h).symm⟩
  · rintro ⟨hfinite, hattach, rfl⟩
    apply bind_eq_ok.mpr ⟨(), checkAllFinite_eq_ok.mpr (hvalues.mpr hfinite), _⟩
    exact bind_eq_ok.mpr ⟨(), checkChildren_eq_ok.mpr ⟨hattach, by simp⟩, rfl⟩

theorem assign_eq_ok {doc next : Document} {id : NodeId} {property : String}
    {value : Option Value} :
    doc.assign id property value = .ok next ↔
      ∃ node, doc.get? id = some node ∧ (∀ v, value = some v → v.isFinite = true) ∧
        doc.Attachable id ((node.get? property).elim [] Value.owned) (value.elim [] Value.owned) ∧
        next = doc.put id { node with settings := withProperty node.settings property value }
          ((node.get? property).elim [] Value.owned) (value.elim [] Value.owned) := by
  constructor
  · intro h
    obtain ⟨node, hfind, h⟩ := bind_eq_ok.mp h
    obtain ⟨_, hcheck, h⟩ := bind_eq_ok.mp h
    obtain ⟨hfinite, hattach⟩ := checkValue_eq_ok.mp hcheck
    exact ⟨node, find_eq_ok.mp hfind, hfinite, hattach, (Except.ok.inj h).symm⟩
  · rintro ⟨node, hget, hfinite, hattach, rfl⟩
    apply bind_eq_ok.mpr ⟨node, find_eq_ok.mpr hget, _⟩
    exact bind_eq_ok.mpr ⟨(), checkValue_eq_ok.mpr ⟨hfinite, hattach⟩, rfl⟩

theorem assignAt_eq_ok {doc next : Document} {id : NodeId} {property : String} {index : Nat}
    {value : Option Value} :
    doc.assignAt id property index value = .ok next ↔
      ∃ node items, doc.get? id = some node ∧ node.get? property = some (.list items) ∧
        inBounds items index value = true ∧ (∀ v, value = some v → v.isFinite = true) ∧
        doc.Attachable id (items[index]?.elim [] Value.owned) (value.elim [] Value.owned) ∧
        next = doc.put id
          { node with
            settings := node.settings.insert property (.list (withElement items index value)) }
          (items[index]?.elim [] Value.owned) (value.elim [] Value.owned) := by
  constructor
  · intro h
    obtain ⟨node, hfind, h⟩ := bind_eq_ok.mp h
    obtain ⟨items, hitems, h⟩ := bind_eq_ok.mp h
    dsimp only at h
    split at h
    next =>
      obtain ⟨_, hthrow, -⟩ := bind_eq_ok.mp h
      cases hthrow
    next hbounds =>
      obtain ⟨_, hcheck, h⟩ := bind_eq_ok.mp h
      obtain ⟨hfinite, hattach⟩ := checkValue_eq_ok.mp hcheck
      exact ⟨node, items, find_eq_ok.mp hfind, findList_eq_ok.mp hitems, by simpa using hbounds,
        hfinite, hattach, (Except.ok.inj h).symm⟩
  · rintro ⟨node, items, hget, hitems, hbounds, hfinite, hattach, rfl⟩
    apply bind_eq_ok.mpr ⟨node, find_eq_ok.mpr hget, _⟩
    apply bind_eq_ok.mpr ⟨items, findList_eq_ok.mpr hitems, _⟩
    rw [hbounds]
    exact bind_eq_ok.mpr ⟨(), checkValue_eq_ok.mpr ⟨hfinite, hattach⟩, rfl⟩

theorem count_withElement {items : List Value} {index : Nat} {value : Option Value}
    (h : inBounds items index value = true) (child : NodeId) :
    ((withElement items index value).flatMap Value.owned).count child +
        (items[index]?.elim [] Value.owned).count child =
      (items.flatMap Value.owned).count child + (value.elim [] Value.owned).count child := by
  by_cases hlt : index < items.length
  · have hitems : items = items.take index ++ items[index] :: items.drop (index + 1) := by simp
    have hcount := congrArg (fun l => (l.flatMap Value.owned).count child) hitems
    simp only [List.flatMap_append, List.flatMap_cons, List.count_append] at hcount
    have hget : items[index]? = some items[index] := List.getElem?_eq_getElem hlt
    cases value with
    | none =>
      rw [withElement, List.eraseIdx_eq_take_drop_succ, hget]
      simp only [List.flatMap_append, List.count_append, Option.elim, List.count_nil]
      omega
    | some v =>
      rw [withElement, if_neg (by omega), List.set_eq_take_append_cons_drop, if_pos hlt, hget]
      simp only [List.flatMap_append, List.flatMap_cons, List.count_append, Option.elim]
      omega
  · have hget : items[index]? = none := by simpa using hlt
    cases value with
    | none => simp [inBounds, hlt] at h
    | some v =>
      have hlast : index = items.length := by simpa [inBounds, hlt] using h
      simp [withElement, hlast]

theorem mem_withElement {items : List Value} {index : Nat} {value : Option Value} {item : Value}
    (h : item ∈ withElement items index value) : item ∈ items ∨ value = some item := by
  cases value with
  | none => exact .inl (List.mem_of_mem_eraseIdx h)
  | some v =>
    rw [withElement] at h
    split at h
    · simpa [eq_comm] using h
    · exact (List.mem_or_eq_of_mem_set h).imp_right fun heq => by rw [heq]

theorem withElement_eq {items : List Value} {index : Nat} {value : Option Value}
    (h : inBounds items index value = true) :
    withElement items index value =
      items.take index ++ value.toList ++ items.drop (index + 1) := by
  cases value with
  | none => simp [withElement, List.eraseIdx_eq_take_drop_succ]
  | some v =>
    by_cases hlt : index < items.length
    · rw [withElement, if_neg (by omega), List.set_eq_take_append_cons_drop, if_pos hlt]
      simp
    · have hlast : index = items.length := by simpa [inBounds, hlt] using h
      simp [withElement, hlast]

theorem finite_withProperty {settings : Settings} {property : String} {value : Option Value}
    (hold : ∀ v ∈ settings.values, v.isFinite = true) :
    (∀ v ∈ (withProperty settings property value).values, v.isFinite = true) ↔
      ∀ v, value = some v → v.isFinite = true := by
  constructor
  · rintro h v rfl
    exact h v (TextMap.mem_values.mpr ⟨property, TextMap.get?_insert_self _ _ _⟩)
  · intro h v hv
    cases value with
    | none => exact hold v (TextMap.values_erase_subset hv)
    | some new =>
      rcases TextMap.mem_values_insert hv with rfl | hmem
      · exact h v rfl
      · exact hold v hmem

theorem finite_withElement {settings : Settings} {property : String} {items : List Value}
    {index : Nat} {value : Option Value} (hold : ∀ v ∈ settings.values, v.isFinite = true)
    (hitems : settings.get? property = some (.list items))
    (hbounds : inBounds items index value = true) :
    (∀ v ∈ (settings.insert property (.list (withElement items index value))).values,
      v.isFinite = true) ↔ ∀ v, value = some v → v.isFinite = true := by
  have hlist := hold _ (TextMap.mem_values.mpr ⟨property, hitems⟩)
  simp only [Value.isFinite, Value.allFinite_eq, List.all_eq_true] at hlist
  constructor
  · rintro h v rfl
    have hnew := h _ (TextMap.mem_values.mpr ⟨property, TextMap.get?_insert_self _ _ _⟩)
    simp only [Value.isFinite, Value.allFinite_eq, List.all_eq_true] at hnew
    apply hnew
    rw [withElement_eq hbounds]
    simp
  · intro h v hv
    rcases TextMap.mem_values_insert hv with rfl | hmem
    · simp only [Value.isFinite, Value.allFinite_eq, List.all_eq_true]
      intro item hitem
      rcases mem_withElement hitem with hmem | hnew
      · exact hlist item hmem
      · exact h item hnew
    · exact hold v hmem

/-- The children that a node in the place `id` loses and gains, against the node there before. -/
structure Exchange (doc : Document) (id : NodeId) (node : Node)
    (released attached : List NodeId) : Prop where
  count : ∀ child, node.children.count child + released.count child =
    (doc.childrenOf id).count child + attached.count child
  released_le : ∀ child, released.count child ≤ (doc.childrenOf id).count child

theorem Exchange.gained {doc : Document} {id : NodeId} {node : Node}
    {released attached : List NodeId} (h : doc.Exchange id node released attached) :
    ∀ child ∈ attached, child ∈ node.children := by
  intro child hchild
  have hcount := h.count child
  have hle := h.released_le child
  have hpos := List.count_pos_iff.mpr hchild
  apply List.count_pos_iff.mp
  omega

theorem exchange_create {doc : Document} {id : NodeId} {concept : String} {settings : Settings}
    (fresh : doc.contains id = false) :
    doc.Exchange id ⟨id, concept, settings⟩ [] (Node.mk id concept settings).children := by
  have hnone : doc.get? id = none := by
    simpa [contains, TextMap.contains, get?] using fresh
  exact ⟨fun child => by simp [childrenOf, hnone], fun child => Nat.zero_le _⟩

theorem exchange_assign {doc : Document} {id : NodeId} {node : Node} {property : String}
    {value : Option Value} (hget : doc.get? id = some node) :
    doc.Exchange id { node with settings := withProperty node.settings property value }
      ((node.get? property).elim [] Value.owned) (value.elim [] Value.owned) where
  count := by
    intro child
    rw [childrenOf, hget, Option.elim, Node.children_eq, Node.children_eq]
    cases value with
    | none => exact TextMap.count_erase Value.owned node.settings property child
    | some new => exact TextMap.count_insert Value.owned node.settings property new child
  released_le := by
    intro child
    rw [childrenOf, hget, Option.elim, Node.children_eq]
    exact TextMap.count_le_values Value.owned node.settings property child

theorem count_element_le (items : List Value) (index : Nat) (child : NodeId) :
    (items[index]?.elim [] Value.owned).count child ≤
      (items.flatMap Value.owned).count child := by
  cases hold : items[index]? with
  | none => simp
  | some old =>
    have hmem := List.mem_map_of_mem (f := Value.owned) (List.mem_of_getElem? hold)
    exact (List.sublist_flatten_of_mem hmem).count_le child

theorem exchange_assignAt {doc : Document} {id : NodeId} {node : Node} {property : String}
    {items : List Value} {index : Nat} {value : Option Value} (hget : doc.get? id = some node)
    (hitems : node.get? property = some (.list items))
    (hbounds : inBounds items index value = true) :
    doc.Exchange id
      { node with
        settings := node.settings.insert property (.list (withElement items index value)) }
      (items[index]?.elim [] Value.owned) (value.elim [] Value.owned) where
  count := by
    intro child
    have hlist := TextMap.count_insert Value.owned node.settings property
      (.list (withElement items index value)) child
    have helement := count_withElement hbounds child
    rw [show node.settings.get? property = some (.list items) from hitems] at hlist
    simp only [Option.elim, Value.owned_list] at hlist
    rw [childrenOf, hget, Option.elim, Node.children_eq, Node.children_eq]
    dsimp only
    omega
  released_le := by
    intro child
    have hlist := TextMap.count_le_values Value.owned node.settings property child
    have helement := count_element_le items index child
    rw [show node.settings.get? property = some (.list items) from hitems] at hlist
    simp only [Option.elim, Value.owned_list] at hlist
    rw [childrenOf, hget, Option.elim, Node.children_eq]
    omega

theorem replacement_create {doc : Document} {id : NodeId} {concept : String} {settings : Settings}
    (fresh : doc.contains id = false)
    (hfinite : ∀ value ∈ settings.values, value.isFinite = true)
    (hattach : doc.Attachable id [] (Node.mk id concept settings).children) :
    doc.Replacement id ⟨id, concept, settings⟩ [] (Node.mk id concept settings).children where
  node_id := rfl
  finite := hfinite
  count := (exchange_create fresh).count
  gained := (exchange_create fresh).gained
  attachable := hattach

theorem replacement_assign {doc : Document} (wf : doc.WellFormed) {id : NodeId} {node : Node}
    {property : String} {value : Option Value} (hget : doc.get? id = some node)
    (hfinite : ∀ v, value = some v → v.isFinite = true)
    (hattach : doc.Attachable id ((node.get? property).elim [] Value.owned)
      (value.elim [] Value.owned)) :
    doc.Replacement id { node with settings := withProperty node.settings property value }
      ((node.get? property).elim [] Value.owned) (value.elim [] Value.owned) where
  node_id := show node.id = id from wf.keyed hget
  finite := (finite_withProperty (wf.finite hget)).mpr hfinite
  count := (exchange_assign hget).count
  gained := (exchange_assign hget).gained
  attachable := hattach

theorem replacement_assignAt {doc : Document} (wf : doc.WellFormed) {id : NodeId} {node : Node}
    {property : String} {items : List Value} {index : Nat} {value : Option Value}
    (hget : doc.get? id = some node) (hitems : node.get? property = some (.list items))
    (hbounds : inBounds items index value = true)
    (hfinite : ∀ v, value = some v → v.isFinite = true)
    (hattach : doc.Attachable id (items[index]?.elim [] Value.owned)
      (value.elim [] Value.owned)) :
    doc.Replacement id
      { node with
        settings := node.settings.insert property (.list (withElement items index value)) }
      (items[index]?.elim [] Value.owned) (value.elim [] Value.owned) where
  node_id := show node.id = id from wf.keyed hget
  finite := (finite_withElement (wf.finite hget) hitems hbounds).mpr hfinite
  count := (exchange_assignAt hget hitems hbounds).count
  gained := (exchange_assignAt hget hitems hbounds).gained
  attachable := hattach

def FreshFor (doc : Document) : Edit → Prop
  | .create id _ _ => doc.contains id = false
  | _ => True

instance (doc : Document) : (edit : Edit) → Decidable (doc.FreshFor edit)
  | .create id _ _ => inferInstanceAs (Decidable (doc.contains id = false))
  | .assign _ _ _ | .assignAt _ _ _ _ => inferInstanceAs (Decidable True)

theorem wellFormed_apply {doc next : Document} (wf : doc.WellFormed) {edit : Edit}
    (fresh : doc.FreshFor edit) (h : doc.apply edit = .ok next) : next.WellFormed := by
  cases edit with
  | create id concept settings =>
    obtain ⟨hfinite, hattach, rfl⟩ := create_eq_ok.mp h
    exact (replacement_create fresh hfinite hattach).wellFormed_put wf
  | assign id property value =>
    obtain ⟨node, hget, hfinite, hattach, rfl⟩ := assign_eq_ok.mp h
    exact (replacement_assign wf hget hfinite hattach).wellFormed_put wf
  | assignAt id property index value =>
    obtain ⟨node, items, hget, hitems, hbounds, hfinite, hattach, rfl⟩ := assignAt_eq_ok.mp h
    exact (replacement_assignAt wf hget hitems hbounds hfinite hattach).wellFormed_put wf

end Document

end RecordForms
