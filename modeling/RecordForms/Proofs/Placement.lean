import Mathlib.Data.List.FinRange
import RecordForms.Proofs.Order

/-! Which arrangement is found. Items that are given more than once are told apart by their
positions. Of all ways to place the positions, each behind copies of what its item reads, the one
found is the first in the lexicographic order; where there is none, the items that lead to a cycle
are left. -/
namespace RecordForms.Arrangement

variable {α : Type} {items placed left order : List α} {reads : α → List α}

/-- All positions of the items, each behind a copy of every item that the item there reads. -/
structure Valid (items : List α) (reads : α → List α) (positions : List (Fin items.length)) :
    Prop where
  perm : positions.Perm (List.finRange items.length)
  behind : ∀ front i back, positions = front ++ i :: back →
    ∀ y ∈ reads (items.get i), y ∈ items → ∃ j ∈ front, items.get j = y

theorem sequential_map_get {positions : List (Fin items.length)} :
    Sequential items reads (positions.map items.get) ↔
      ∀ front i back, positions = front ++ i :: back →
        ∀ y ∈ reads (items.get i), y ∈ items → ∃ j ∈ front, items.get j = y := by
  constructor
  · intro h front i back hsplit y hy hmem
    apply List.mem_map.mp
    apply h (front.map items.get) (items.get i) (back.map items.get) _ y hy hmem
    simp [hsplit]
  · intro h front x back hsplit y hy hmem
    obtain ⟨before, rest, rfl, rfl, hrest⟩ := List.map_eq_append_iff.mp hsplit
    obtain ⟨i, behind, rfl, rfl, -⟩ := List.map_eq_cons_iff.mp hrest
    exact List.mem_map.mpr (h before i behind rfl y hy hmem)

theorem Valid.sequential {positions : List (Fin items.length)} (h : Valid items reads positions) :
    Sequential items reads (positions.map items.get) :=
  sequential_map_get.mpr h.behind

theorem map_get_perm {positions : List (Fin items.length)}
    (h : positions.Perm (List.finRange items.length)) : (positions.map items.get).Perm items := by
  have hperm := h.map items.get
  rwa [List.map_get_finRange] at hperm

theorem eq_filter_of_perm {p : α → Bool} (hperm : (placed ++ left).Perm items)
    (hsublist : left.Sublist items) (hplaced : ∀ x ∈ placed, p x = false)
    (hleft : ∀ x ∈ left, p x = true) : left = items.filter p := by
  have hnone : placed.filter p = [] := by
    apply List.filter_eq_nil_iff.mpr
    intro x hx
    simp [hplaced x hx]
  have hall : left.filter p = left := List.filter_eq_self.mpr hleft
  have hlength := (hperm.filter p).length_eq
  rw [List.filter_append, hnone, hall, List.nil_append] at hlength
  have hfilter := hsublist.filter p
  rw [hall] at hfilter
  exact hfilter.eq_of_length hlength

variable [DecidableEq α]

theorem ready_of_sequential {back : List α} {x : α}
    (h : Sequential items reads (placed ++ x :: back)) : ready items reads placed x = true :=
  ready_iff.mpr (h placed x back rfl)

theorem le_of_find?_ready {left : List (Fin items.length)} (increasing : left.Pairwise (· < ·))
    {i j : Fin items.length} (hfound : left.find? (ready items reads placed ∘ items.get) = some i)
    (hj : j ∈ left) (hready : ready items reads placed (items.get j) = true) : i ≤ j := by
  obtain ⟨-, before, behind, rfl, hbefore⟩ := List.find?_eq_some_iff_append.mp hfound
  rcases List.mem_append.mp hj with hj | hj
  · have hnot := hbefore j hj
    rw [Function.comp_apply, hready] at hnot
    cases hnot
  · rcases List.mem_cons.mp hj with rfl | hj
    · exact Nat.le_refl _
    · have htail := (List.pairwise_append.mp increasing).2.1
      exact Nat.le_of_lt ((List.pairwise_cons.mp htail).1 j hj)

theorem extend_least {front left : List (Fin items.length)} (increasing : left.Pairwise (· < ·))
    (h : extend items reads (front.map items.get) (left.map items.get) = .ordered order) :
    ∃ rest, rest.Perm left ∧ order = (front ++ rest).map items.get ∧
      ∀ other, other.Perm left → Sequential items reads ((front ++ other).map items.get) →
        rest = other ∨ List.Lex (· < ·) rest other := by
  generalize hplaced : front.map items.get = placed at h
  generalize hremaining : left.map items.get = remaining at h
  fun_induction extend items reads placed remaining generalizing front left with
  | case1 placed remaining x hfound ih =>
    subst hplaced hremaining
    rw [List.find?_map] at hfound
    obtain ⟨i, hi, rfl⟩ := Option.map_eq_some_iff.mp hfound
    obtain ⟨rest, hrest, horder, hleast⟩ := @ih (front ++ [i]) _
      (increasing.sublist List.eraseP_sublist) List.map_append List.eraseP_map.symm h
    rw [List.append_assoc, List.singleton_append] at horder
    refine ⟨i :: rest, (hrest.cons i).trans (perm_cons_eraseP hi), horder, ?_⟩
    intro other hother hsequential
    cases other with
    | nil => exact absurd (hother.symm.subset (List.mem_of_find?_eq_some hi)) List.not_mem_nil
    | cons j other =>
      have hready : ready items reads (front.map items.get) (items.get j) = true := by
        rw [List.map_append, List.map_cons] at hsequential
        exact ready_of_sequential hsequential
      have hj : i ≤ j := le_of_find?_ready increasing hi (hother.subset List.mem_cons_self) hready
      rcases Nat.eq_or_lt_of_le hj with heq | hlt
      · -- the same position comes first, so the rests are compared
        obtain rfl := Fin.ext heq
        have htail := (hother.trans (perm_cons_eraseP hi).symm).cons_inv
        rcases hleast other htail (by simpa using hsequential) with rfl | hlex
        · exact .inl rfl
        · exact .inr (.cons hlex)
      · exact .inr (.rel hlt)
  | case2 placed remaining hnone hempty =>
    subst hplaced hremaining
    obtain rfl : left = [] := by simpa using hempty
    refine ⟨[], .refl _, ?_, fun other hother _ => .inl (List.perm_nil.mp hother).symm⟩
    rw [List.append_nil]
    exact (Arrangement.ordered.inj h).symm
  | case3 => cases h

theorem exists_least_of_ordered (h : of items reads = .ordered order) :
    ∃ positions, Valid items reads positions ∧ order = positions.map items.get ∧
      ∀ other, Valid items reads other → positions = other ∨ List.Lex (· < ·) positions other := by
  have hrun : extend items reads (([] : List (Fin items.length)).map items.get)
      ((List.finRange items.length).map items.get) = .ordered order := by
    rwa [List.map_get_finRange]
  obtain ⟨positions, hperm, rfl, hleast⟩ := extend_least (List.pairwise_lt_finRange _) hrun
  have hsequential := (of_eq_ordered h).2
  refine ⟨positions, ⟨hperm, sequential_map_get.mp hsequential⟩, rfl, fun other hother => ?_⟩
  exact hleast other hother.perm hother.sequential

theorem extend_of_sequential (h : Sequential items reads (placed ++ left)) :
    extend items reads placed left = .ordered (placed ++ left) := by
  induction left generalizing placed with
  | nil => simp [extend]
  | cons x left ih =>
    have hready := ready_of_sequential h
    have hnext := @ih (placed ++ [x]) (by simpa using h)
    rw [extend]
    split
    next item hfound =>
      rw [List.find?_cons_of_pos hready] at hfound
      cases hfound
      rw [List.eraseP_cons_of_pos hready, hnext]
      simp
    next hnone =>
      rw [List.find?_cons_of_pos hready] at hnone
      cases hnone

/-- An order is found exactly if there is a valid placement, and then it is that of the first one;
so nothing is lost, every item stands behind all that it reads in the end, and a valid order is
kept. -/
theorem of_ordered_least (items : List α) (reads : α → List α) :
    ((∃ order, of items reads = .ordered order) ↔ ∃ positions, Valid items reads positions) ∧
      (∀ order, of items reads = .ordered order →
        (∃ positions, Valid items reads positions ∧ order = positions.map items.get ∧
          ∀ other, Valid items reads other →
            positions = other ∨ List.Lex (· < ·) positions other) ∧
        order.Perm items ∧
        ∀ front x back, order = front ++ x :: back →
          ∀ y, Relation.TransGen (Uses items reads) x y → y ∈ front) ∧
      (Valid items reads (List.finRange items.length) → of items reads = .ordered items) := by
  refine ⟨⟨?_, ?_⟩, fun order h => ⟨exists_least_of_ordered h, (of_eq_ordered h).1, ?_⟩, ?_⟩
  · rintro ⟨order, h⟩
    obtain ⟨positions, hvalid, -⟩ := exists_least_of_ordered h
    exact ⟨positions, hvalid⟩
  · rintro ⟨positions, hvalid⟩
    cases h : of items reads with
    | ordered order => exact ⟨order, rfl⟩
    | stuck left =>
      obtain ⟨x, hcycle⟩ := cycle_of_stuck h
      exact absurd hcycle (hvalid.sequential.acyclic (map_get_perm hvalid.perm) x)
  · intro front x back hsplit y huses
    exact (of_eq_ordered h).2.mem_of_transGen hsplit huses
  · intro hvalid
    have hsequential := hvalid.sequential
    rw [List.map_get_finRange] at hsequential
    exact extend_of_sequential hsequential

theorem of_ordered_least_copies :
    let items := ["total", "price", "tax", "price"]
    let reads := fun item => if item = "total" then ["tax", "rate", "price"]
      else if item = "tax" then ["price"] else []
    of items reads = .ordered ["price", "tax", "total", "price"] ∧
      (∃ positions, Valid items reads positions ∧
        positions.map items.get = ["price", "tax", "total", "price"]) ∧
      of ["price", "tax"] reads = .ordered ["price", "tax"] := by
  intro items reads
  have hfound : of items reads = .ordered ["price", "tax", "total", "price"] := by cbv
  obtain ⟨⟨positions, hvalid, horder, -⟩, -⟩ := (of_ordered_least items reads).2.1 _ hfound
  have hgiven : Sequential ["price", "tax"] reads ["price", "tax"] := by
    refine sequential_concat.mpr ⟨sequential_concat.mpr ⟨sequential_nil, ?_⟩, ?_⟩ <;> simp [reads]
  have hkept := (of_ordered_least ["price", "tax"] reads).2.2
    ⟨.refl _, sequential_map_get.mp hgiven⟩
  exact ⟨hfound, ⟨positions, hvalid, horder.symm⟩, hkept⟩

theorem stuck_eq_filter [DecidablePred (Entangled items reads)]
    (h : of items reads = .stuck left) : left = items.filter (Entangled items reads ·) := by
  obtain ⟨placed, left', progress, ⟨-, hordered⟩ | ⟨-, hready, hstuck⟩⟩ :=
    (progress_start items reads).extend
  · exact absurd (h.symm.trans hordered) nofun
  · obtain rfl := Arrangement.stuck.inj (h.symm.trans hstuck)
    apply eq_filter_of_perm progress.perm progress.sublist
    · intro x hx
      exact decide_eq_false (progress.sequential.not_entangled x hx)
    · intro x hx
      exact decide_eq_true (progress.entangled hready hx)

open Classical in
/-- Items are left exactly if some of them read each other in a circle, and then these are left
with all that read them in the end, as they were given. -/
theorem of_stuck_iff (items : List α) (reads : α → List α) :
    ((∃ left, of items reads = .stuck left) ↔
        ∃ x, Relation.TransGen (Uses items reads) x x) ∧
      ∀ left, of items reads = .stuck left → left = items.filter (Entangled items reads ·) := by
  refine ⟨⟨?_, ?_⟩, fun left h => stuck_eq_filter h⟩
  · rintro ⟨left, h⟩
    exact cycle_of_stuck h
  · rintro ⟨x, hcycle⟩
    cases h : of items reads with
    | ordered order => exact absurd hcycle (acyclic_of_ordered h x)
    | stuck left => exact ⟨left, rfl⟩

open Classical in
theorem of_stuck_iff_copies :
    let items := ["net", "gross", "rate", "total", "net"]
    let reads := fun item => if item = "net" then ["gross"] else if item = "gross" then ["net"]
      else if item = "total" then ["rate", "gross"] else []
    of items reads = .stuck ["net", "gross", "total", "net"] ∧
      (∃ x, Relation.TransGen (Uses items reads) x x) ∧
      items.filter (Entangled items reads ·) = ["net", "gross", "total", "net"] := by
  intro items reads
  have hstuck : of items reads = .stuck ["net", "gross", "total", "net"] := by cbv
  exact ⟨hstuck, (of_stuck_iff items reads).1.mp ⟨_, hstuck⟩,
    ((of_stuck_iff items reads).2 _ hstuck).symm⟩

end RecordForms.Arrangement
