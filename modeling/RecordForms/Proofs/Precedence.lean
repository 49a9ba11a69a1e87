import Mathlib.Data.List.Infix
import RecordForms.Expression.Operators

/-! Infix order by precedence. The ranks of a table and the sides to which its operators group are a
grammar: they say how loosely an operation may bind that stands bare as an operand of another one.
If operators of one rank group to one side, no tokens are derived for two trees. -/
namespace RecordForms.Precedence

inductive OperatorTree (α : Type) where
  | leaf (label : α)
  | operation (operator : String) (left right : OperatorTree α)

inductive Token (α : Type) where
  | leaf (label : α)
  | operator (name : String)
  | opening
  | closing
deriving DecidableEq

variable {α : Type} {table : OperatorTable}

def rankOf (table : OperatorTable) (operator : String) : Nat := (table.precedence? operator).getD 0

/-- The lowest rank that stands bare as an operand on one side of an operator. -/
def operandRank (table : OperatorTable) (operator : String) (side : Associativity) : Nat :=
  if table.associativityOf operator = side then rankOf table operator
  else rankOf table operator + 1

def grouped (tokens : List (Token α)) : List (Token α) := .opening :: (tokens ++ [.closing])

def OperatorTree.leaves : OperatorTree α → List α
  | .leaf label => [label]
  | .operation _ left right => left.leaves ++ right.leaves

def OperatorTree.Known (table : OperatorTable) : OperatorTree α → Prop
  | .leaf _ => True
  | .operation operator left right =>
    (table.precedence? operator).isSome = true ∧ left.Known table ∧ right.Known table

def OperatorTree.tokens (table : OperatorTable) (lowest : Nat) : OperatorTree α → List (Token α)
  | .leaf label => [.leaf label]
  | .operation operator left right =>
    let bare := left.tokens table (operandRank table operator .left) ++
      .operator operator :: right.tokens table (operandRank table operator .right)
    if rankOf table operator < lowest then grouped bare else bare

/-- The trees that tokens stand for by the rules of a table, at rank `lowest` or above. -/
inductive Derives (table : OperatorTable) : Nat → List (Token α) → OperatorTree α → Prop where
  | leaf {lowest : Nat} (label : α) : Derives table lowest [.leaf label] (.leaf label)
  | group {lowest : Nat} {tokens : List (Token α)} {tree : OperatorTree α}
      (h : Derives table 0 tokens tree) : Derives table lowest (grouped tokens) tree
  | operation {lowest : Nat} {operator : String} {front back : List (Token α)}
      {left right : OperatorTree α} (hknown : (table.precedence? operator).isSome = true)
      (hrank : lowest ≤ rankOf table operator)
      (hleft : Derives table (operandRank table operator .left) front left)
      (hright : Derives table (operandRank table operator .right) back right) :
      Derives table lowest (front ++ .operator operator :: back) (.operation operator left right)

theorem derives_tokens {tree : OperatorTree α} (h : tree.Known table) (lowest : Nat) :
    Derives table lowest (tree.tokens table lowest) tree := by
  induction tree generalizing lowest with
  | leaf label => exact .leaf label
  | operation operator left right ihl ihr =>
    obtain ⟨hknown, hleft, hright⟩ := h
    rw [OperatorTree.tokens]
    split
    next => exact .group (.operation hknown (Nat.zero_le _) (ihl hleft _) (ihr hright _))
    next hrank => exact .operation hknown (Nat.le_of_not_lt hrank) (ihl hleft _) (ihr hright _)

/-- A sum on the right of a difference is not what the tokens without parentheses stand for. -/
example :
    (OperatorTree.operation "-" (.leaf 1) (.operation "+" (.leaf 2) (.leaf 3))).tokens .standard 0 =
      [.leaf 1, .operator "-", .opening, .leaf 2, .operator "+", .leaf 3, .closing] := by
  decide +kernel

section Height

variable {tokens front back : List (Token α)}

def height : List (Token α) → Int
  | [] => 0
  | .opening :: tokens => height tokens + 1
  | .closing :: tokens => height tokens - 1
  | .leaf _ :: tokens | .operator _ :: tokens => height tokens

@[simp] theorem height_append (front back : List (Token α)) :
    height (front ++ back) = height front + height back := by
  induction front with
  | nil => simp [height]
  | cons token front ih =>
    cases token <;> simp only [List.cons_append, height, ih] <;> omega

def Balanced (tokens : List (Token α)) : Prop :=
  height tokens = 0 ∧ ∀ front back, tokens = front ++ back → 0 ≤ height front

theorem Balanced.append (hfront : Balanced front) (hback : Balanced back) :
    Balanced (front ++ back) := by
  refine ⟨by rw [height_append, hfront.1, hback.1]; rfl, fun start rest hsplit => ?_⟩
  rcases List.append_eq_append_iff.mp hsplit with ⟨more, rfl, hmore⟩ | ⟨more, rfl, hmore⟩
  · have hnonneg := hback.2 more rest hmore
    rw [height_append, hfront.1]
    omega
  · exact hfront.2 start more rfl

theorem height_pos_of_grouped (h : Balanced tokens) {first : Token α} {rest : List (Token α)}
    (hne : front ≠ []) (hsplit : grouped tokens = front ++ first :: rest) : 0 < height front := by
  obtain ⟨token, front, rfl⟩ := List.exists_cons_of_ne_nil hne
  obtain ⟨rfl, hinside⟩ := List.cons.inj hsplit
  have hinner : 0 ≤ height front := by
    rcases List.append_eq_append_iff.mp hinside with ⟨more, rfl, hmore⟩ | ⟨more, rfl, -⟩
    · cases more with
      | nil =>
        rw [List.append_nil]
        exact Int.le_of_eq h.1.symm
      | cons token more => simp at hmore
    · exact h.2 front more rfl
  rw [height]
  omega

theorem balanced_grouped (h : Balanced tokens) : Balanced (grouped tokens) := by
  have hheight : height (grouped tokens) = 0 := by
    simp [grouped, height, h.1]
  refine ⟨hheight, fun front back hsplit => ?_⟩
  cases back with
  | nil =>
    rw [List.append_nil] at hsplit
    rw [← hsplit]
    exact Int.le_of_eq hheight.symm
  | cons first rest =>
    by_cases hne : front = []
    · rw [hne]
      exact Int.le_refl 0
    · exact Int.le_of_lt (height_pos_of_grouped h hne hsplit)

theorem Derives.balanced {lowest : Nat} {tree : OperatorTree α}
    (h : Derives table lowest tokens tree) : Balanced tokens := by
  have hsingle {token : Token α} (htoken : height [token] = 0) : Balanced [token] := by
    refine ⟨htoken, fun front back hsplit => ?_⟩
    rcases List.append_eq_singleton_iff.mp hsplit.symm with ⟨rfl, -⟩ | ⟨rfl, -⟩
    · exact Int.le_refl 0
    · exact Int.le_of_eq htoken.symm
  induction h with
  | leaf label => exact hsingle rfl
  | group _ ih => exact balanced_grouped ih
  | operation _ _ _ _ ihl ihr => exact ihl.append ((hsingle rfl).append ihr)

end Height

section Unambiguous

variable {tokens front back : List (Token α)} {operator : String} {lowest : Nat}

theorem grouped_ne (h : Balanced tokens) (hfront : height front = 0) :
    grouped tokens ≠ front ++ .operator operator :: back := by
  intro hsplit
  have hne : front ≠ [] := by
    rintro rfl
    cases hsplit
  have hpos := height_pos_of_grouped h hne hsplit
  omega

theorem rankOf_le_operandRank (table : OperatorTable) (operator : String) (side : Associativity) :
    rankOf table operator ≤ operandRank table operator side := by
  unfold operandRank
  split <;> omega

theorem split_cases {β : Type} {x y : β} {front back front' back' : List β}
    (h : front ++ x :: back = front' ++ y :: back') :
    (front = front' ∧ x = y ∧ back = back') ∨
      (∃ more, front' = front ++ x :: more ∧ back = more ++ y :: back') ∨
      ∃ more, front = front' ++ y :: more ∧ back' = more ++ x :: back := by
  rcases List.append_eq_append_iff.mp h with ⟨more, rfl, hmore⟩ | ⟨more, rfl, hmore⟩
  · cases more with
    | nil => simp_all
    | cons token more =>
      obtain ⟨rfl, hback⟩ := List.cons.inj hmore
      exact .inr (.inl ⟨more, rfl, hback⟩)
  · cases more with
    | nil => simp_all
    | cons token more =>
      obtain ⟨rfl, hback⟩ := List.cons.inj hmore
      exact .inr (.inr ⟨more, rfl, hback⟩)

theorem Derives.lowest_le_rankOf {tree : OperatorTree α} (h : Derives table lowest tokens tree)
    (hsplit : tokens = front ++ .operator operator :: back) (hfront : height front = 0) :
    lowest ≤ rankOf table operator := by
  induction h generalizing front back with
  | leaf label => cases front <;> simp at hsplit
  | group h => exact absurd hsplit (grouped_ne h.balanced hfront)
  | @operation lowest outer first last left right _ hrank hleft hright ihl ihr =>
    have hle := rankOf_le_operandRank table outer
    rcases split_cases hsplit with ⟨-, hsame, -⟩ | ⟨more, rfl, hlast⟩ | ⟨more, hfirst, -⟩
    · cases hsame
      exact hrank
    · rw [height_append, hleft.balanced.1, height, Int.zero_add] at hfront
      exact (hrank.trans (hle .right)).trans (ihr hlast hfront)
    · exact (hrank.trans (hle .left)).trans (ihl hfirst hfront)

def Uniform (table : OperatorTable) : Prop :=
  ∀ a b rank, table.precedence? a = some rank → table.precedence? b = some rank →
    table.associativityOf a = table.associativityOf b

theorem not_uniform {a b : String} (ha : (table.precedence? a).isSome = true)
    (hb : (table.precedence? b).isSome = true) (hab : operandRank table a .right ≤ rankOf table b)
    (hba : operandRank table b .left ≤ rankOf table a) : ¬Uniform table := by
  intro uniform
  obtain ⟨rank, hrank⟩ := Option.isSome_iff_exists.mp ha
  obtain ⟨rank', hrank'⟩ := Option.isSome_iff_exists.mp hb
  simp only [operandRank, rankOf, hrank, hrank', Option.getD_some] at hab hba
  split at hab <;> split at hba <;> try omega
  next hright hleft =>
    obtain rfl : rank = rank' := by omega
    have hsame := uniform a b rank hrank hrank'
    rw [hright, hleft] at hsame
    contradiction

/-- Tokens are not split at two operators with the one in the right operand of the other and the
other in its left operand. -/
theorem not_split_twice (uniform : Uniform table) {a b : String}
    {front more back : List (Token α)} {left right : OperatorTree α}
    (ha : (table.precedence? a).isSome = true) (hb : (table.precedence? b).isSome = true)
    (hfront : Balanced front)
    (hleft : Derives table (operandRank table b .left) (front ++ .operator a :: more) left)
    (hright : Derives table (operandRank table a .right) (more ++ .operator b :: back) right) :
    False := by
  have hmore : height more = 0 := by
    have h := hleft.balanced.1
    rwa [height_append, hfront.1, height, Int.zero_add] at h
  exact not_uniform ha hb (hright.lowest_le_rankOf rfl hmore)
    (hleft.lowest_le_rankOf rfl hfront.1) uniform

theorem Derives.unique (uniform : Uniform table) {lowest' : Nat} {s t : OperatorTree α}
    (hs : Derives table lowest tokens s) (ht : Derives table lowest' tokens t) : s = t := by
  induction hs generalizing lowest' t with
  | leaf label =>
    generalize htokens : [Token.leaf label] = tokens at ht
    cases ht with
    | leaf label' =>
      cases htokens
      rfl
    | group h => cases htokens
    | @operation _ _ front _ _ _ _ _ _ _ => cases front <;> simp at htokens
  | @group _ inner _ h ih =>
    generalize htokens : grouped inner = tokens at ht
    cases ht with
    | leaf label' => cases htokens
    | group h' =>
      obtain ⟨-, htokens⟩ := List.cons.inj htokens
      obtain ⟨rfl, -⟩ := List.append_inj' htokens rfl
      exact ih h'
    | operation _ _ hleft _ => exact absurd htokens (grouped_ne h.balanced hleft.balanced.1)
  | @operation _ a front back left right ha _ hleft hright ihl ihr =>
    generalize htokens : front ++ Token.operator a :: back = tokens at ht
    cases ht with
    | leaf label' => cases front <;> simp at htokens
    | group h' => exact absurd htokens.symm (grouped_ne h'.balanced hleft.balanced.1)
    | @operation _ b front' back' left' right' hb _ hleft' hright' =>
      -- both trees are split at one operator, or one of them at an operator further in front
      rcases split_cases htokens with ⟨rfl, hsame, rfl⟩ | ⟨more, rfl, rfl⟩ | ⟨more, rfl, rfl⟩
      · cases hsame
        rw [ihl hleft', ihr hright']
      · exact (not_split_twice uniform ha hb hleft.balanced hleft' hright).elim
      · exact (not_split_twice uniform hb ha hleft'.balanced hleft hright').elim

theorem tokens_injective (uniform : Uniform table) {s t : OperatorTree α} (hs : s.Known table)
    (ht : t.Known table) (h : s.tokens table 0 = t.tokens table 0) : s = t :=
  (derives_tokens hs 0).unique uniform (h ▸ derives_tokens ht 0)

theorem tokens_eq_of_mixed {a b : String} {rank : Nat} (ha : table.precedence? a = some rank)
    (hb : table.precedence? b = some rank) (hleft : table.associativityOf a = .left)
    (hright : table.associativityOf b = .right) (x y z : OperatorTree α) :
    (OperatorTree.operation a (.operation b x y) z).tokens table 0 =
      (OperatorTree.operation b x (.operation a y z)).tokens table 0 := by
  simp [OperatorTree.tokens, operandRank, rankOf, ha, hb, hleft, hright]

end Unambiguous

end RecordForms.Precedence
