import Mathlib.Data.List.TakeWhile

/-! The grammar of generated formulas, and that no text has two readings in it. Sums and products
group to the left and powers to the right; the base of a power has no sign of its own. -/
namespace RecordForms.Code

inductive Operation where
  | add
  | subtract
  | multiply
  | divide
  | power
deriving DecidableEq

inductive Formula where
  | literal (digits : List Char)
  | field (name : List Char)
  | negated (body : Formula)
  | binary (operation : Operation) (left right : Formula)
deriving DecidableEq

inductive Token where
  | literal (digits : List Char)
  | field (name : List Char)
  | sign (operation : Operation)
  | openParen
  | closeParen
deriving DecidableEq

inductive Level where
  | sum
  | product
  | power
  | unary
  | primary
deriving DecidableEq

def Level.rank : Level → Nat
  | .sum => 0
  | .product => 1
  | .power => 2
  | .unary => 3
  | .primary => 4

def Level.next : Level → Level
  | .sum => .product
  | .product => .power
  | .power => .unary
  | .unary => .primary
  | .primary => .primary

def Operation.level : Operation → Level
  | .add | .subtract => .sum
  | .multiply | .divide => .product
  | .power => .power

/-- The tokens of a formula of some kind. -/
inductive Derives : Level → List Token → Formula → Prop where
  | literal (digits : List Char) : Derives .primary [.literal digits] (.literal digits)
  | field (name : List Char) : Derives .primary [.field name] (.field name)
  | parenthesized {ts : List Token} {f : Formula} (inner : Derives .sum ts f) :
      Derives .primary (.openParen :: (ts ++ [.closeParen])) f
  | negated {ts : List Token} {f : Formula} (body : Derives .unary ts f) :
      Derives .unary (.sign .subtract :: ts) (.negated f)
  | power {ls rs : List Token} {l r : Formula} (left : Derives .primary ls l)
      (right : Derives .power rs r) :
      Derives .power (ls ++ .sign .power :: rs) (.binary .power l r)
  | product {op : Operation} {ls rs : List Token} {l r : Formula} (hop : op.level = .product)
      (left : Derives .product ls l) (right : Derives .power rs r) :
      Derives .product (ls ++ .sign op :: rs) (.binary op l r)
  | sum {op : Operation} {ls rs : List Token} {l r : Formula} (hop : op.level = .sum)
      (left : Derives .sum ls l) (right : Derives .product rs r) :
      Derives .sum (ls ++ .sign op :: rs) (.binary op l r)
  | next {level : Level} {ts : List Token} {f : Formula} (tighter : Derives level.next ts f) :
      Derives level ts f

/-- What waits for its operand to be complete. -/
inductive Frame where
  | group
  | negation
  | operand (operation : Operation) (left : Formula)

def Frame.complete (f : Formula) : Frame → Formula
  | .group => f
  | .negation => .negated f
  | .operand op left => .binary op left f

def Frame.isGroup : Frame → Bool
  | .group => true
  | _ => false

def Frame.isNegation : Frame → Bool
  | .negation => true
  | _ => false

/-- Whether the operand of the frame is complete when an operation follows it. -/
def Frame.yieldsTo (op : Operation) : Frame → Bool
  | .group => false
  | .negation => true
  | .operand outer _ => op != .power && op.level.rank ≤ outer.level.rank

def settle (ready : Frame → Bool) : Formula → List Frame → Formula × List Frame
  | f, [] => (f, [])
  | f, frame :: stack =>
    if ready frame then settle ready (frame.complete f) stack else (f, frame :: stack)

mutual

def readOperand (stack : List Frame) : List Token → Option Formula
  | .literal digits :: ts => readOperator (.literal digits) stack ts
  | .field name :: ts => readOperator (.field name) stack ts
  | .openParen :: ts => readOperand (.group :: stack) ts
  | .sign .subtract :: ts => readOperand (.negation :: stack) ts
  | _ => none

def readOperator (f : Formula) (stack : List Frame) : List Token → Option Formula
  | [] =>
    match settle (!·.isGroup) f stack with
    | (whole, []) => some whole
    | _ => none
  | .closeParen :: ts =>
    match settle (!·.isGroup) f stack with
    | (inner, _ :: outer) => readOperator inner outer ts
    | _ => none
  | .sign op :: ts =>
    if op = .power && stack.head?.any Frame.isNegation then none
    else
      readOperand (.operand op (settle (·.yieldsTo op) f stack).1 ::
        (settle (·.yieldsTo op) f stack).2) ts
  | _ => none

end

def Frame.admits (level : Level) : Frame → Bool
  | .group => true
  | .negation => 3 ≤ level.rank
  | .operand op _ => op.level.rank < level.rank || op = .power && level = .power

def Admits (stack : List Frame) (level : Level) : Prop :=
  ∀ frame ∈ stack.head?, frame.admits level = true

/-- What does not go on with a formula of some kind. -/
def Follows (level : Level) (rest : List Token) : Prop :=
  ∀ op, rest.head? = some (.sign op) →
    level = .primary ∨ op ≠ .power ∧ op.level.rank ≤ level.rank

theorem Admits.next {stack : List Frame} {level : Level} (h : Admits stack level) :
    Admits stack level.next := by
  intro frame hframe
  have hadmits := h frame hframe
  cases frame with
  | group => rfl
  | negation => cases level <;> simp_all [Frame.admits, Level.rank, Level.next]
  | operand op left =>
    cases level <;> cases op <;>
      simp_all [Frame.admits, Level.rank, Level.next, Operation.level]

theorem Follows.next {level : Level} {rest : List Token} (h : Follows level rest) :
    Follows level.next rest := by
  intro op hop
  rcases h op hop with rfl | ⟨hpower, hrank⟩
  · exact .inl rfl
  · refine .inr ⟨hpower, Nat.le_trans hrank ?_⟩
    cases level <;> decide

theorem follows_sign {op : Operation} (hpower : op ≠ .power) (rest : List Token) :
    Follows op.level (.sign op :: rest) := by
  intro following hfollowing
  obtain rfl : op = following := by simpa using hfollowing
  exact .inr ⟨hpower, Nat.le_refl _⟩

theorem follows_of_head {level : Level} {rest : List Token} (h : ∀ op, rest.head? ≠ some (.sign op)) :
    Follows level rest :=
  fun op hop => absurd hop (h op)

theorem settle_eq {stack : List Frame} {op : Operation} (h : Admits stack op.level) (f : Formula) :
    settle (·.yieldsTo op) f stack = (f, stack) := by
  cases stack with
  | nil => rfl
  | cons frame stack =>
    have hadmits := h frame rfl
    have hwaits : frame.yieldsTo op = false := by
      cases frame with
      | group => rfl
      | negation => cases op <;> simp [Frame.admits, Operation.level, Level.rank] at hadmits
      | operand outer left =>
        cases op <;> cases outer <;>
          simp_all [Frame.admits, Frame.yieldsTo, Operation.level, Level.rank]
    rw [settle, hwaits]
    rfl

theorem readOperator_sign {stack : List Frame} {op : Operation} (h : Admits stack op.level)
    (f : Formula) (ts : List Token) :
    readOperator f stack (.sign op :: ts) = readOperand (.operand op f :: stack) ts := by
  have hbase : ¬(op = .power && stack.head?.any Frame.isNegation) = true := by
    intro hbase
    rw [Bool.and_eq_true, decide_eq_true_iff, Option.any_eq_true] at hbase
    obtain ⟨rfl, frame, hframe, hnegation⟩ := hbase
    have hadmits := h frame hframe
    cases frame <;> simp_all [Frame.isNegation, Frame.admits, Operation.level, Level.rank]
  rw [readOperator, if_neg hbase, settle_eq h]

theorem readOperator_complete {frame : Frame} (hgroup : frame.isGroup = false) {rest : List Token}
    (hrest : ∀ op, rest.head? = some (.sign op) → op ≠ .power ∧ frame.yieldsTo op = true)
    (f : Formula) (stack : List Frame) :
    readOperator f (frame :: stack) rest = readOperator (frame.complete f) stack rest := by
  have hsettle : settle (!·.isGroup) f (frame :: stack) =
      settle (!·.isGroup) (frame.complete f) stack := by
    rw [settle, hgroup]
    rfl
  rcases rest with _ | ⟨token, ts⟩
  · rw [readOperator, readOperator, hsettle]
  · cases token with
    | sign op =>
      obtain ⟨hpower, hyields⟩ := hrest op rfl
      have hsettle : settle (·.yieldsTo op) f (frame :: stack) =
          settle (·.yieldsTo op) (frame.complete f) stack := by
        rw [settle, hyields]
        rfl
      simp only [readOperator, hpower, hsettle, decide_false, Bool.false_and]
    | closeParen => rw [readOperator, readOperator, hsettle]
    | _ => simp only [readOperator]

theorem readOperand_binary (op : Operation) {stack : List Frame} (hstack : Admits stack op.level)
    {rest : List Token} (hrest : Follows op.level rest) {ls rs : List Token} {l r : Formula}
    (hleft : readOperand stack (ls ++ .sign op :: (rs ++ rest)) =
      readOperator l stack (.sign op :: (rs ++ rest)))
    (hright : readOperand (.operand op l :: stack) (rs ++ rest) =
      readOperator r (.operand op l :: stack) rest) :
    readOperand stack ((ls ++ .sign op :: rs) ++ rest) =
      readOperator (.binary op l r) stack rest := by
  rw [List.append_assoc, List.cons_append, hleft, readOperator_sign hstack, hright]
  apply readOperator_complete rfl
  intro following hfollowing
  have hop := (hrest following hfollowing).resolve_left (by cases op <;> decide)
  exact ⟨hop.1, by simpa [Frame.yieldsTo] using hop⟩

/-- The tokens are read as the formula wherever one of its kind may stand. -/
def ReadAs (level : Level) (ts : List Token) (f : Formula) : Prop :=
  ∀ stack rest, Admits stack level → Follows level rest →
    readOperand stack (ts ++ rest) = readOperator f stack rest

theorem readOperand_grouped {op : Operation} (hpower : op ≠ .power) {stack : List Frame}
    (hstack : Admits stack op.level) {rest : List Token} (hrest : Follows op.level rest)
    {ls rs : List Token} {l r : Formula} (hleft : ReadAs op.level ls l)
    (hright : ReadAs op.level.next rs r) :
    readOperand stack ((ls ++ .sign op :: rs) ++ rest) =
      readOperator (.binary op l r) stack rest := by
  apply readOperand_binary op hstack hrest
  · exact hleft stack _ hstack (follows_sign hpower _)
  · refine hright _ rest ?_ hrest.next
    intro frame hframe
    obtain rfl : Frame.operand op l = frame := Option.some.inj hframe
    cases op <;> rfl

/-- The tokens of a formula are read as it. -/
theorem readOperand_of_derives {level : Level} {ts : List Token} {f : Formula}
    (h : Derives level ts f) : ReadAs level ts f := by
  -- along the derivation: what stands inside is of a kind that its frame admits and cannot go on
  induction h with intro stack rest hstack hrest
  | literal digits => rfl
  | field name => rfl
  | @parenthesized ts f _ ih =>
    have hinner := ih (.group :: stack) (.closeParen :: rest) (by simp [Admits, Frame.admits])
      (follows_of_head (by simp))
    rw [List.cons_append, List.append_assoc, readOperand, List.singleton_append, hinner]
    rfl
  | @negated ts f _ ih =>
    rw [List.cons_append, readOperand,
      ih (.negation :: stack) rest (by simp [Admits, Frame.admits, Level.rank]) hrest]
    apply readOperator_complete rfl
    intro op hop
    exact ⟨((hrest op hop).resolve_left (by decide)).1, rfl⟩
  | @power ls rs l r _ _ ihl ihr =>
    apply readOperand_binary .power hstack hrest
    · exact ihl stack _ hstack.next.next fun _ _ => .inl rfl
    · exact ihr _ rest (by simp [Admits, Frame.admits]) hrest
  | @product op ls rs l r hop _ _ ihl ihr =>
    rw [← hop] at ihl hstack hrest
    exact readOperand_grouped (by rintro rfl; contradiction) hstack hrest ihl (hop ▸ ihr)
  | @sum op ls rs l r hop _ _ ihl ihr =>
    rw [← hop] at ihl hstack hrest
    exact readOperand_grouped (by rintro rfl; contradiction) hstack hrest ihl (hop ▸ ihr)
  | next _ ih => exact ih stack rest hstack.next hrest.next

theorem Derives.unique {level : Level} {ts : List Token} {f g : Formula} (hf : Derives level ts f)
    (hg : Derives level ts g) : f = g := by
  have hread {h : Formula} (hh : Derives level ts h) : readOperand [] ts = some h := by
    have := readOperand_of_derives hh [] [] (by simp [Admits]) (follows_of_head (by simp))
    rw [List.append_nil] at this
    exact this
  exact Option.some.inj ((hread hf).symm.trans (hread hg))

def isDelimiter (c : Char) : Bool := [' ', '(', ')', '+', '-', '*', '/'].contains c

def isLiteral (cs : List Char) : Bool :=
  match cs.dropWhile Char.isDigit with
  | [] => !cs.isEmpty
  | c :: fraction =>
    cs.head?.any Char.isDigit && c == '.' && !fraction.isEmpty && fraction.all Char.isDigit

def word? (cs : List Char) : Option Token :=
  if isLiteral cs then some (.literal cs)
  else
    match cs with
    | 't' :: 'h' :: 'i' :: 's' :: '.' :: name => some (.field name)
    | _ => none

def symbol? : Char → Option Token
  | '(' => some .openParen
  | ')' => some .closeParen
  | '+' => some (.sign .add)
  | '-' => some (.sign .subtract)
  | '/' => some (.sign .divide)
  | _ => none

/-- Signs that are not read apart: increments, decrements and the beginnings of comments. -/
def fuses (c : Char) (cs : List Char) : Bool :=
  cs.head?.any fun d => [('+', '+'), ('-', '-'), ('/', '/'), ('/', '*')].contains (c, d)

def lex : List Char → Option (List Token)
  | [] => some []
  | ' ' :: cs => lex cs
  | '*' :: '*' :: cs => (lex cs).map (.sign .power :: ·)
  | '*' :: cs => (lex cs).map (.sign .multiply :: ·)
  | c :: cs =>
    match symbol? c with
    | some token => if fuses c cs then none else (lex cs).map (token :: ·)
    | none =>
      match word? (c :: cs.takeWhile (!isDelimiter ·)) with
      | some token => (lex (cs.dropWhile (!isDelimiter ·))).map (token :: ·)
      | none => none
termination_by cs => cs.length
decreasing_by
  all_goals simp only [List.length_cons]
  any_goals omega
  exact Nat.lt_succ_of_le (List.dropWhile_sublist _).length_le

/-- Behind a text, a blank or a closing parenthesis ends whatever it ends with. -/
def Stops (rest : List Char) : Prop := ∀ c ∈ rest.head?, c = ' ' ∨ c = ')'

theorem stops_blank (rest : List Char) : Stops (' ' :: rest) := by simp [Stops]

theorem stops_close (rest : List Char) : Stops (')' :: rest) := by simp [Stops]

theorem takeWhile_word {rest : List Char} (h : Stops rest) (cs : List Char) :
    (cs ++ rest).takeWhile (!isDelimiter ·) = cs.takeWhile (!isDelimiter ·) := by
  induction cs with
  | nil =>
    cases rest with
    | nil => rfl
    | cons c rest => rcases h c rfl with rfl | rfl <;> rfl
  | cons c cs ih => rw [List.cons_append, List.takeWhile_cons, List.takeWhile_cons, ih]

theorem dropWhile_word {rest : List Char} (h : Stops rest) (cs : List Char) :
    (cs ++ rest).dropWhile (!isDelimiter ·) = cs.dropWhile (!isDelimiter ·) ++ rest := by
  induction cs with
  | nil =>
    cases rest with
    | nil => rfl
    | cons c rest => rcases h c rfl with rfl | rfl <;> rfl
  | cons c cs ih =>
    rw [List.cons_append, List.dropWhile_cons, List.dropWhile_cons, ih]
    split <;> rfl

theorem fuses_append {rest : List Char} (h : Stops rest) (c : Char) (cs : List Char) :
    fuses c (cs ++ rest) = fuses c cs := by
  cases cs with
  | nil =>
    cases rest with
    | nil => rfl
    | cons d rest => rcases h d rfl with rfl | rfl <;> simp [fuses]
  | cons d cs => rfl

theorem map_lex_append {token : Token} {cs rest : List Char} {ts : List Token}
    (h : ∀ {us : List Token}, lex cs = some us → lex (cs ++ rest) = (lex rest).map (us ++ ·))
    (hts : (lex cs).map (token :: ·) = some ts) :
    (lex (cs ++ rest)).map (token :: ·) = (lex rest).map (ts ++ ·) := by
  obtain ⟨us, hus, rfl⟩ := Option.map_eq_some_iff.mp hts
  rw [h hus, Option.map_map]
  rfl

theorem lex_append {cs rest : List Char} (h : Stops rest) {ts : List Token}
    (hts : lex cs = some ts) : lex (cs ++ rest) = (lex rest).map (ts ++ ·) := by
  fun_induction lex cs generalizing ts with
  | case1 =>
    rw [← Option.some.inj hts]
    simp
  | case2 cs ih => rw [List.cons_append, lex, ih hts]
  | case3 cs ih =>
    rw [List.cons_append, List.cons_append, lex]
    exact map_lex_append ih hts
  | case4 cs hstar ih =>
    -- the sign is not continued: what follows the text is no sign
    have hsingle : ∀ tail, cs ++ rest = '*' :: tail → False := by
      intro tail heq
      cases cs with
      | nil =>
        rw [List.nil_append] at heq
        rcases h '*' (by rw [heq]; rfl) with hc | hc <;> contradiction
      | cons c cs => exact hstar cs (by rw [(List.cons.inj heq).1])
    rw [List.cons_append, lex.eq_4 _ hsingle]
    exact map_lex_append ih hts
  | case5 => contradiction
  | case6 c cs hblank hpower hstar token hsymbol hfuses ih =>
    rw [List.cons_append, lex.eq_5 _ _ hblank (fun _ hc _ => hstar hc) hstar, hsymbol]
    dsimp only
    rw [fuses_append h, if_neg hfuses]
    exact map_lex_append ih hts
  | case7 c cs hblank hpower hstar hsymbol token hword ih =>
    rw [List.cons_append, lex.eq_5 _ _ hblank (fun _ hc _ => hstar hc) hstar, hsymbol]
    dsimp only
    rw [takeWhile_word h, dropWhile_word h, hword]
    exact map_lex_append ih hts
  | case8 => contradiction

/-- A text that writes a formula of some kind. -/
def Reads (level : Level) (text : List Char) (f : Formula) : Prop :=
  ∃ ts, lex text = some ts ∧ Derives level ts f

theorem Reads.unique {level : Level} {text : List Char} {f g : Formula} (hf : Reads level text f)
    (hg : Reads level text g) : f = g := by
  obtain ⟨ts, hts, hf⟩ := hf
  obtain ⟨us, hus, hg⟩ := hg
  obtain rfl : ts = us := Option.some.inj (hts.symm.trans hus)
  exact hf.unique hg

theorem Derives.loosen {tight loose : Level} {ts : List Token} {f : Formula}
    (h : Derives tight ts f) (hrank : loose.rank ≤ tight.rank) : Derives loose ts f := by
  cases tight <;> cases loose <;>
    first
    | exact h
    | exact .next h
    | exact .next (.next h)
    | exact .next (.next (.next h))
    | exact .next (.next (.next (.next h)))
    | exact absurd hrank (by decide)

theorem Reads.loosen {tight loose : Level} {text : List Char} {f : Formula}
    (h : Reads tight text f) (hrank : loose.rank ≤ tight.rank) : Reads loose text f := by
  obtain ⟨ts, hts, h⟩ := h
  exact ⟨ts, hts, h.loosen hrank⟩

theorem Reads.negated {text : List Char} {f : Formula} (h : Reads .unary text f)
    (hsign : text.head? ≠ some '-') : Reads .unary ('-' :: text) (.negated f) := by
  obtain ⟨ts, hts, h⟩ := h
  have hfuses : fuses '-' text = false := by
    cases text with
    | nil => rfl
    | cons d cs => simpa [fuses] using hsign
  refine ⟨.sign .subtract :: ts, ?_, .negated h⟩
  simp [lex, symbol?, hfuses, hts]

theorem Reads.parenthesized {text : List Char} {f : Formula} (h : Reads .sum text f) :
    Reads .primary ('(' :: (text ++ [')'])) f := by
  obtain ⟨ts, hts, h⟩ := h
  refine ⟨.openParen :: (ts ++ [.closeParen]), ?_, .parenthesized h⟩
  simp [lex, symbol?, fuses, lex_append (stops_close []) hts]

def Operation.text : Operation → List Char
  | .add => ['+']
  | .subtract => ['-']
  | .multiply => ['*']
  | .divide => ['/']
  | .power => ['*', '*']

def Operation.leftLevel : Operation → Level
  | .add | .subtract => .sum
  | .multiply | .divide => .product
  | .power => .primary

def Operation.rightLevel : Operation → Level
  | .add | .subtract => .product
  | .multiply | .divide | .power => .power

theorem Derives.binary (op : Operation) {ls rs : List Token} {l r : Formula}
    (hl : Derives op.leftLevel ls l) (hr : Derives op.rightLevel rs r) :
    Derives op.level (ls ++ .sign op :: rs) (.binary op l r) := by
  cases op with
  | add | subtract => exact .sum rfl hl hr
  | multiply | divide => exact .product rfl hl hr
  | power => exact .power hl hr

theorem Reads.binary (op : Operation) {left right : List Char} {l r : Formula}
    (hl : Reads op.leftLevel left l) (hr : Reads op.rightLevel right r) :
    Reads op.level (left ++ ' ' :: (op.text ++ ' ' :: right)) (.binary op l r) := by
  obtain ⟨ls, hls, hl⟩ := hl
  obtain ⟨rs, hrs, hr⟩ := hr
  refine ⟨ls ++ .sign op :: rs, ?_, .binary op hl hr⟩
  rw [lex_append (stops_blank _) hls]
  cases op <;> simp [Operation.text, lex, symbol?, fuses, hrs]

theorem lex_word {c : Char} {cs : List Char} (hword : ∀ d ∈ c :: cs, isDelimiter d = false)
    {token : Token} (h : word? (c :: cs) = some token) : lex (c :: cs) = some [token] := by
  have hc : isDelimiter c = false := hword c List.mem_cons_self
  have hcs : ∀ d ∈ cs, (!isDelimiter d) = true := by
    intro d hd
    rw [hword d (List.mem_cons_of_mem c hd)]
    rfl
  have hstar : c = '*' → False := by rintro rfl; contradiction
  have hblank : c = ' ' → False := by rintro rfl; contradiction
  have hsymbol : symbol? c = none := by
    unfold symbol?
    split <;> first | rfl | contradiction
  rw [lex.eq_5 _ _ hblank (fun _ hc _ => hstar hc) hstar, hsymbol]
  dsimp only
  rw [List.takeWhile_eq_self_iff.mpr hcs, List.dropWhile_eq_nil_iff.mpr hcs, h, lex]
  rfl

theorem reads_literal {cs : List Char} (hword : ∀ d ∈ cs, isDelimiter d = false)
    (h : isLiteral cs = true) : Reads .primary cs (.literal cs) := by
  cases cs with
  | nil => simp [isLiteral] at h
  | cons c cs =>
    refine ⟨[.literal (c :: cs)], lex_word hword ?_, .literal _⟩
    unfold word?
    rw [if_pos h]

theorem reads_field {name : List Char} (hname : ∀ d ∈ name, isDelimiter d = false) :
    Reads .primary ('t' :: 'h' :: 'i' :: 's' :: '.' :: name) (.field name) := by
  refine ⟨[.field name], lex_word ?_ ?_, .field name⟩
  · simpa [isDelimiter] using hname
  · rfl

end RecordForms.Code
