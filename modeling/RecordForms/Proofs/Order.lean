import Mathlib.Data.Fintype.Card
import Mathlib.Data.List.Find
import Mathlib.Data.List.Perm.Basic
import Mathlib.Data.Set.Finite.Basic
import Mathlib.Logic.Relation
import Mathlib.Order.WellFounded
import RecordForms.Arrangement

/-! When items can be arranged. Placing one ready item after another succeeds unless some items
read each other in a circle; then exactly these are left, and the items that read them. -/
namespace RecordForms.Arrangement

variable {α : Type} {items placed left order : List α} {reads : α → List α}

def Uses (items : List α) (reads : α → List α) (x y : α) : Prop :=
  x ∈ items ∧ y ∈ items ∧ y ∈ reads x

/-- An item on a cycle, or one that reads such an item in the end. -/
def Entangled (items : List α) (reads : α → List α) (x : α) : Prop :=
  ∃ y, Relation.ReflTransGen (Uses items reads) x y ∧ Relation.TransGen (Uses items reads) y y

/-- Every item stands behind those of the items that it reads. -/
def Sequential (items : List α) (reads : α → List α) (order : List α) : Prop :=
  ∀ front x back, order = front ++ x :: back → ∀ y ∈ reads x, y ∈ items → y ∈ front

theorem sequential_nil : Sequential items reads [] := by
  intro front x back h
  simp at h

theorem sequential_concat {x : α} :
    Sequential items reads (placed ++ [x]) ↔
      Sequential items reads placed ∧ ∀ y ∈ reads x, y ∈ items → y ∈ placed := by
  constructor
  · intro h
    refine ⟨fun front z back heq => ?_, h placed x [] rfl⟩
    apply h front z (back ++ [x])
    simp [heq]
  · rintro ⟨h, hx⟩ front z back heq
    rcases List.eq_nil_or_concat back with rfl | ⟨rest, last, rfl⟩
    · obtain ⟨rfl, hz⟩ := List.append_inj' heq rfl
      cases hz
      exact hx
    · apply h front z rest
      rw [List.concat_eq_append, ← List.cons_append, ← List.append_assoc] at heq
      exact (List.append_inj' heq rfl).1

theorem entangled_next {x : α} (h : Entangled items reads x) :
    ∃ y, Uses items reads x y ∧ Entangled items reads y := by
  obtain ⟨y, hxy, hyy⟩ := h
  rcases Relation.ReflTransGen.cases_head hxy with rfl | ⟨z, hxz, hzy⟩
  · obtain ⟨z, hxz, hzx⟩ := Relation.TransGen.head'_iff.mp hyy
    exact ⟨z, hxz, x, hzx, hyy⟩
  · exact ⟨z, hxz, y, hzy, hyy⟩

theorem Sequential.not_entangled (h : Sequential items reads order) :
    ∀ x ∈ order, ¬Entangled items reads x := by
  induction order using List.reverseRecOn with
  | nil => simp
  | append_singleton front last ih =>
    obtain ⟨hfront, hlast⟩ := sequential_concat.mp h
    intro x hx hentangled
    rcases List.mem_append.mp hx with hx | hx
    · exact ih hfront x hx hentangled
    · cases List.mem_singleton.mp hx
      obtain ⟨y, ⟨-, hy, hreads⟩, hentangled⟩ := entangled_next hentangled
      exact ih hfront y (hlast y hreads hy) hentangled

theorem Sequential.acyclic (h : Sequential items reads order) (hperm : order.Perm items) (x : α) :
    ¬Relation.TransGen (Uses items reads) x x := by
  intro hcycle
  obtain ⟨y, ⟨hx, -, -⟩, -⟩ := Relation.TransGen.head'_iff.mp hcycle
  exact h.not_entangled x (hperm.mem_iff.mpr hx) ⟨x, .refl, hcycle⟩

theorem Sequential.mem_of_transGen (h : Sequential items reads order) {front back : List α}
    {x y : α} (hsplit : order = front ++ x :: back)
    (huses : Relation.TransGen (Uses items reads) x y) : y ∈ front := by
  induction huses with
  | single hxy => exact h front x back hsplit _ hxy.2.2 hxy.2.1
  | @tail z y _ hzy ih =>
    obtain ⟨before, behind, rfl⟩ := List.append_of_mem ih
    apply List.mem_append_left
    apply h before z (behind ++ x :: back) _ y hzy.2.2 hzy.2.1
    simp [hsplit]

/-- Where everything leads on within a finite list, everything leads to a cycle. -/
theorem exists_cycle {r : α → α → Prop} {l : List α} (h : ∀ x ∈ l, ∃ y ∈ l, r x y) {x : α}
    (hx : x ∈ l) : ∃ y, Relation.ReflTransGen r x y ∧ Relation.TransGen r y y := by
  by_contra hno
  -- what is reached from `x` would be ordered by being reached later, and have a last element
  let Reached := {y : α // y ∈ l ∧ Relation.ReflTransGen r x y}
  let later (a b : Reached) : Prop := Relation.TransGen r b.1 a.1
  have hfinite : Finite Reached := ((List.finite_toSet l).subset fun _ hy => hy.1).to_subtype
  have hirrefl : Std.Irrefl later := ⟨fun a ha => hno ⟨a.1, a.2.2, ha⟩⟩
  have htrans : IsTrans Reached later := ⟨fun a b c hab hbc => Relation.TransGen.trans hbc hab⟩
  obtain ⟨⟨last, hlast, hreached⟩, -, hmin⟩ :=
    (Finite.wellFounded_of_trans_of_irrefl later).has_min Set.univ ⟨⟨x, hx, .refl⟩, trivial⟩
  obtain ⟨next, hnext, hstep⟩ := h last hlast
  exact hmin ⟨next, hnext, hreached.tail hstep⟩ trivial (.single hstep)

/-- What holds while items are placed: nothing is lost, what is left keeps its order, and what is
placed stands behind what it reads. -/
structure Progress (items : List α) (reads : α → List α) (placed left : List α) : Prop where
  perm : (placed ++ left).Perm items
  sublist : left.Sublist items
  sequential : Sequential items reads placed

theorem progress_start (items : List α) (reads : α → List α) :
    Progress items reads [] items :=
  ⟨.refl _, .refl _, sequential_nil⟩

theorem eraseP_congr {p q : α → Bool} {l : List α} (h : ∀ x ∈ l, p x = q x) :
    l.eraseP p = l.eraseP q := by
  induction l with
  | nil => rfl
  | cons a l ih =>
    rw [List.forall_mem_cons] at h
    rw [List.eraseP_cons, List.eraseP_cons, h.1, ih h.2]

theorem perm_cons_eraseP {β : Type} {p : β → Bool} {l : List β} {a : β}
    (h : l.find? p = some a) : (a :: l.eraseP p).Perm l := by
  obtain ⟨ha, before, behind, rfl, hbefore⟩ := List.find?_eq_some_iff_append.mp h
  rw [List.eraseP_append_right _ (by simpa using hbefore), List.eraseP_cons_of_pos ha]
  exact List.perm_middle.symm

variable [DecidableEq α]

theorem ready_iff {x : α} :
    ready items reads placed x = true ↔ ∀ y ∈ reads x, y ∈ items → y ∈ placed := by
  simp only [ready, List.all_eq_true, Bool.or_eq_true, Bool.not_eq_true', List.contains_eq_mem,
    decide_eq_true_eq, decide_eq_false_iff_not]
  grind

theorem Progress.step (h : Progress items reads placed left) {x : α}
    (hfound : left.find? (ready items reads placed) = some x) :
    Progress items reads (placed ++ [x]) (left.eraseP (ready items reads placed)) where
  perm := by
    rw [List.append_assoc, List.singleton_append]
    exact ((perm_cons_eraseP hfound).append_left placed).trans h.perm
  sublist := List.eraseP_sublist.trans h.sublist
  sequential := sequential_concat.mpr ⟨h.sequential, ready_iff.mp (List.find?_some hfound)⟩

theorem Progress.extend (h : Progress items reads placed left) : ∃ placed' left',
    Progress items reads placed' left' ∧
      (left' = [] ∧ extend items reads placed left = .ordered placed' ∨
        left' ≠ [] ∧ (∀ x ∈ left', ready items reads placed' x = false) ∧
          extend items reads placed left = .stuck left') := by
  fun_induction Arrangement.extend items reads placed left with
  | case1 placed left x hfound ih => exact ih (h.step hfound)
  | case2 placed left hnone hempty =>
    exact ⟨placed, left, h, .inl ⟨List.isEmpty_iff.mp hempty, rfl⟩⟩
  | case3 placed left hnone hempty =>
    refine ⟨placed, left, h, .inr ⟨fun hnil => hempty (by rw [hnil]; rfl), ?_, rfl⟩⟩
    simpa using hnone

theorem Progress.entangled (h : Progress items reads placed left)
    (hstuck : ∀ x ∈ left, ready items reads placed x = false) {x : α} (hx : x ∈ left) :
    Entangled items reads x := by
  apply exists_cycle _ hx
  intro x hx
  have hready : ¬ready items reads placed x = true := by simp [hstuck x hx]
  simp only [ready_iff, not_forall] at hready
  obtain ⟨y, hreads, hy, hplaced⟩ := hready
  have hleft : y ∈ left := (List.mem_append.mp (h.perm.mem_iff.mpr hy)).resolve_left hplaced
  exact ⟨y, hleft, h.sublist.subset hx, hy, hreads⟩

theorem of_eq_ordered (h : of items reads = .ordered order) :
    order.Perm items ∧ Sequential items reads order := by
  obtain ⟨placed, left, progress, ⟨rfl, hordered⟩ | ⟨-, -, hstuck⟩⟩ :=
    (progress_start items reads).extend
  · obtain rfl := Arrangement.ordered.inj (h.symm.trans hordered)
    have hperm := progress.perm
    rw [List.append_nil] at hperm
    exact ⟨hperm, progress.sequential⟩
  · exact absurd (h.symm.trans hstuck) nofun

theorem of_eq_stuck (h : of items reads = .stuck left) :
    left ≠ [] ∧ left.Sublist items ∧ ∀ x ∈ items, x ∈ left ↔ Entangled items reads x := by
  obtain ⟨placed, left', progress, ⟨-, hordered⟩ | ⟨hne, hready, hstuck⟩⟩ :=
    (progress_start items reads).extend
  · exact absurd (h.symm.trans hordered) nofun
  · obtain rfl := Arrangement.stuck.inj (h.symm.trans hstuck)
    refine ⟨hne, progress.sublist, fun x hx => ⟨progress.entangled hready, fun hentangled => ?_⟩⟩
    rcases List.mem_append.mp (progress.perm.mem_iff.mpr hx) with hplaced | hleft
    · exact absurd hentangled (progress.sequential.not_entangled x hplaced)
    · exact hleft

theorem acyclic_of_ordered (h : of items reads = .ordered order) (x : α) :
    ¬Relation.TransGen (Uses items reads) x x :=
  (of_eq_ordered h).2.acyclic (of_eq_ordered h).1 x

theorem cycle_of_stuck (h : of items reads = .stuck left) :
    ∃ x, Relation.TransGen (Uses items reads) x x := by
  obtain ⟨hne, hsublist, hentangled⟩ := of_eq_stuck h
  obtain ⟨x, hx⟩ := List.exists_mem_of_ne_nil left hne
  obtain ⟨y, -, hcycle⟩ := (hentangled x (hsublist.subset hx)).mp hx
  exact ⟨y, hcycle⟩

section Congruence

variable {f g : α → List α}

theorem extend_congr (h : ∀ x ∈ items, f x = g x) (hleft : left ⊆ items) :
    extend items f placed left = extend items g placed left := by
  have hready (placed : List α) {left : List α} (hleft : left ⊆ items) :
      ∀ x ∈ left, ready items f placed x = ready items g placed x := by
    intro x hx
    rw [ready, ready, h x (hleft hx)]
  fun_induction extend items f placed left with
  | case1 placed left item hfound ih =>
    rw [List.find?_congr (hready placed hleft)] at hfound
    have hstep : extend items g placed left =
        extend items g (placed ++ [item]) (left.eraseP (ready items g placed)) := by
      rw [extend]
      split <;> simp_all
    rw [hstep, ← eraseP_congr (hready placed hleft)]
    exact ih fun x hx => hleft (List.mem_of_mem_eraseP hx)
  | case2 placed left hfound hempty =>
    rw [List.isEmpty_iff] at hempty
    simp [extend, hempty]
  | case3 placed left hfound hempty =>
    rw [List.find?_congr (hready placed hleft)] at hfound
    rw [extend]
    split <;> simp_all

theorem of_congr (h : ∀ x ∈ items, f x = g x) : of items f = of items g :=
  extend_congr h (List.Subset.refl items)

end Congruence

end RecordForms.Arrangement
