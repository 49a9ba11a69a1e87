import RecordForms.Json.Reader
import RecordForms.Proofs.Tokens

/-! What is read from a printed value. Both printers differ in blanks only, which reading skips, so
they are read alike: every number is replaced by the one its text is read as, and more open
containers than the reader allows are refused. -/
namespace RecordForms.Json

structure Layout where
  /-- Before an item, a member or the end of a container at a depth. -/
  line : Nat → List Char
  /-- Behind a colon. -/
  gap : List Char
  line_blank : ∀ depth, ∀ c ∈ line depth, isSpace c = true
  gap_blank : ∀ c ∈ gap, isSpace c = true

def Layout.dense : Layout := ⟨fun _ => [], [], by simp, by simp⟩

def Layout.indented : Layout where
  line := newLine
  gap := [' ']
  line_blank := by
    intro depth c hc
    rcases List.mem_cons.mp hc with rfl | hc
    · rfl
    · rw [List.eq_of_mem_replicate hc]
      rfl
  gap_blank := by
    intro c hc
    rw [List.mem_singleton.mp hc]
    rfl

mutual

def write (layout : Layout) (depth : Nat) : Json → List Char
  | .null => ['n', 'u', 'l', 'l']
  | .bool b => boolText b
  | .number n => numeralText n
  | .string text => stringText text
  | .list [] => ['[', ']']
  | .list (item :: items) =>
    '[' :: layout.line (depth + 1) ++ write layout (depth + 1) item
      ++ writeItems layout (depth + 1) items ++ layout.line depth ++ [']']
  | .object [] => ['\x7b', '\x7d']
  | .object ((key, value) :: members) =>
    '\x7b' :: layout.line (depth + 1) ++ stringText key ++ ':' :: layout.gap
      ++ write layout (depth + 1) value ++ writeMembers layout (depth + 1) members
      ++ layout.line depth ++ ['\x7d']

def writeItems (layout : Layout) (depth : Nat) : List Json → List Char
  | [] => []
  | item :: items =>
    ',' :: layout.line depth ++ write layout depth item ++ writeItems layout depth items

def writeMembers (layout : Layout) (depth : Nat) : List (String × Json) → List Char
  | [] => []
  | (key, value) :: members =>
    ',' :: layout.line depth ++ stringText key ++ ':' :: layout.gap ++ write layout depth value
      ++ writeMembers layout depth members

end

mutual

theorem compact_eq (depth : Nat) : ∀ json : Json, json.compact = write .dense depth json
  | .null => rfl
  | .bool _ => rfl
  | .number _ => rfl
  | .string _ => rfl
  | .list [] => rfl
  | .list (item :: items) => by
    simp [compact, write, Layout.dense, compact_eq (depth + 1) item,
      compactItems_eq (depth + 1) items]
  | .object [] => rfl
  | .object ((key, value) :: members) => by
    simp [compact, write, Layout.dense, compact_eq (depth + 1) value,
      compactMembers_eq (depth + 1) members]

theorem compactItems_eq (depth : Nat) :
    ∀ items : List Json, compactItems items = writeItems .dense depth items
  | [] => rfl
  | item :: items => by
    simp [compactItems, writeItems, Layout.dense, compact_eq depth item,
      compactItems_eq depth items]

theorem compactMembers_eq (depth : Nat) :
    ∀ members : List (String × Json), compactMembers members = writeMembers .dense depth members
  | [] => rfl
  | (key, value) :: members => by
    simp [compactMembers, writeMembers, Layout.dense, compact_eq depth value,
      compactMembers_eq depth members]

end

mutual

theorem pretty_eq (depth : Nat) : ∀ json : Json, json.pretty depth = write .indented depth json
  | .null => rfl
  | .bool _ => rfl
  | .number _ => rfl
  | .string _ => rfl
  | .list [] => rfl
  | .list (item :: items) => by
    simp [pretty, write, Layout.indented, pretty_eq (depth + 1) item,
      prettyItems_eq (depth + 1) items]
  | .object [] => rfl
  | .object ((key, value) :: members) => by
    simp [pretty, write, Layout.indented, pretty_eq (depth + 1) value,
      prettyMembers_eq (depth + 1) members]

theorem prettyItems_eq (depth : Nat) :
    ∀ items : List Json, prettyItems depth items = writeItems .indented depth items
  | [] => rfl
  | item :: items => by
    simp [prettyItems, writeItems, Layout.indented, pretty_eq depth item, prettyItems_eq depth items]

theorem prettyMembers_eq (depth : Nat) :
    ∀ members : List (String × Json),
      prettyMembers depth members = writeMembers .indented depth members
  | [] => rfl
  | (key, value) :: members => by
    simp [prettyMembers, writeMembers, Layout.indented, pretty_eq depth value,
      prettyMembers_eq depth members]

end

def outcome (state : State) (cs : List Char) : Option (Json × List Lexeme) :=
  (run state (lexemes cs)).toOption

theorem outcome_blanks {blanks : List Char} (h : ∀ c ∈ blanks, isSpace c = true) (state : State)
    (cs : List Char) : outcome state (blanks ++ cs) = outcome state cs := by
  induction blanks with
  | nil => rfl
  | cons c blanks ih =>
    have hc := h c List.mem_cons_self
    rw [List.cons_append, outcome, lexemes, if_pos hc]
    exact ih fun d hd => h d (List.mem_cons_of_mem c hd)

theorem outcome_cons {state : State} (hopen : ∀ value, state ≠ .done value []) {c : Char}
    (hc : isSpace c = false) (cs : List Char) :
    outcome state (c :: cs) =
      (step state ⟨(scanToken c cs).1, c :: cs⟩).toOption.bind fun next =>
        outcome next (scanToken c cs).2 := by
  rw [outcome, lexemes, if_neg (by simp [hc]), run.eq_3 _ _ _ hopen]
  cases step state ⟨(scanToken c cs).1, c :: cs⟩ <;> rfl

section Punctuation

variable (value : Json) (stack outer : List Frame) (items : List Json)
  (members : List (String × Json)) (key : String) (first : Bool) (cs : List Char)

@[simp] theorem outcome_openList : outcome (.value stack) ('[' :: cs) =
    if stack.length < depthLimit then outcome (.item true [] stack) cs else none := by
  rw [outcome_cons (by simp) rfl]
  simp only [step, startValue, scanToken]
  split <;> rfl

@[simp] theorem outcome_openObject : outcome (.value stack) ('\x7b' :: cs) =
    if stack.length < depthLimit then outcome (.key true [] stack) cs else none := by
  rw [outcome_cons (by simp) rfl]
  simp only [step, startValue, scanToken]
  split <;> rfl

@[simp] theorem outcome_closeEmptyList :
    outcome (.item true items outer) (']' :: cs) = outcome (.done (.list []) outer) cs :=
  outcome_cons (by simp) rfl cs

@[simp] theorem outcome_closeEmptyObject :
    outcome (.key true members outer) ('\x7d' :: cs) = outcome (.done (.object []) outer) cs :=
  outcome_cons (by simp) rfl cs

@[simp] theorem outcome_nextItem : outcome (.done value (.list items :: outer)) (',' :: cs) =
    outcome (.item false (value :: items) outer) cs :=
  outcome_cons (by simp) rfl cs

@[simp] theorem outcome_closeList : outcome (.done value (.list items :: outer)) (']' :: cs) =
    outcome (.done (.list (value :: items).reverse) outer) cs :=
  outcome_cons (by simp) rfl cs

@[simp] theorem outcome_nextMember : outcome (.done value (.object members key :: outer)) (',' :: cs) =
    outcome (.key false ((key, value) :: members) outer) cs :=
  outcome_cons (by simp) rfl cs

@[simp] theorem outcome_closeObject : outcome (.done value (.object members key :: outer)) ('\x7d' :: cs) =
    outcome (.done (.object ((key, value) :: members).reverse) outer) cs :=
  outcome_cons (by simp) rfl cs

@[simp] theorem outcome_colon : outcome (.colon members key outer) (':' :: cs) =
    outcome (.value (.object members key :: outer)) cs :=
  outcome_cons (by simp) rfl cs

theorem stringText_append (text : String) :
    stringText text ++ cs = '"' :: (text.toList.flatMap escapeChar ++ '"' :: cs) := by
  simp [stringText]

@[simp] theorem outcome_key : outcome (.key first members outer) (stringText key ++ cs) =
    outcome (.colon members key outer) cs := by
  rw [stringText_append, outcome_cons (by simp) rfl, scanToken_stringText]
  rfl

@[simp] theorem outcome_string (text : String) : outcome (.value stack) (stringText text ++ cs) =
    outcome (.done (.string text) stack) cs := by
  rw [stringText_append, outcome_cons (by simp) rfl, scanToken_stringText]
  rfl

theorem outcome_null : outcome (.value stack) (['n', 'u', 'l', 'l'] ++ cs) =
    outcome (.done .null stack) cs :=
  outcome_cons (by simp) rfl _

@[simp] theorem outcome_bool (b : Bool) : outcome (.value stack) (boolText b ++ cs) =
    outcome (.done (.bool b) stack) cs := by
  cases b <;> exact outcome_cons (by simp) rfl _

end Punctuation

theorem scanToken_digit {c : Char} (h : c.isDigit = true) (cs : List Char) :
    scanToken c cs = tokenOf (fun n => .scalar (.number n)) (scanNumber false (c :: cs)) := by
  unfold scanToken
  split <;> first | simp at h | rw [if_pos h]

theorem scanToken_number {c : Char} (h : c = '-' ∨ c.isDigit = true) (cs : List Char) :
    scanToken c cs = tokenOf (fun n => .scalar (.number n)) (scanSigned (c :: cs)) := by
  rcases h with rfl | h
  · rfl
  · have hminus : c ≠ '-' := by rintro rfl; simp at h
    rw [scanToken_digit h, scanSigned.eq_2 _ fun _ heq => hminus (List.cons.inj heq).1]

theorem numeralText_cons (n : Numeral) :
    ∃ c cs, numeralText n = c :: cs ∧ (c = '-' ∨ c.isDigit = true) := by
  obtain ⟨negative, cs, -, heq, hdigit, -⟩ := numeralText_eq n
  cases negative with
  | true => exact ⟨'-', cs, heq, .inl rfl⟩
  | false =>
    cases cs with
    | nil => simp at hdigit
    | cons c cs => exact ⟨c, cs, heq, .inr hdigit⟩

theorem not_space_of_number {c : Char} (h : c = '-' ∨ c.isDigit = true) : isSpace c = false := by
  rcases h with rfl | h
  · rfl
  · cases hspace : isSpace c with
    | false => rfl
    | true =>
      simp only [isSpace, Bool.or_eq_true, beq_iff_eq] at hspace
      rcases hspace with ((rfl | rfl) | rfl) | rfl <;> simp at h

theorem outcome_number (n : Numeral) (stack : List Frame) {rest : List Char} (hrest : Ends rest) :
    outcome (.value stack) (numeralText n ++ rest) =
      (reread? n).bind fun m => outcome (.done (.number m) stack) rest := by
  obtain ⟨c, cs, heq, hc⟩ := numeralText_cons n
  have hscan := toOption_scanSigned_numeralText n hrest
  rw [heq, List.cons_append] at hscan ⊢
  rw [outcome_cons (by simp) (not_space_of_number hc), scanToken_number hc]
  cases hnumber : scanSigned (c :: (cs ++ rest)) with
  | error fault =>
    rw [hnumber] at hscan
    rw [Option.map_eq_none_iff.mp hscan.symm]
    rfl
  | ok found =>
    rw [hnumber] at hscan
    obtain ⟨m, hm, rfl⟩ := Option.map_eq_some_iff.mp hscan.symm
    rw [hm]
    rfl

/-- What a value begins with: no blank and no bracket that closes a list. -/
def Begins (cs : List Char) : Prop := ∃ c tail, cs = c :: tail ∧ isSpace c = false ∧ c ≠ ']'

theorem begins_write (layout : Layout) (depth : Nat) (json : Json) (rest : List Char) :
    Begins (write layout depth json ++ rest) := by
  cases json with
  | null => exact ⟨'n', _, rfl, rfl, by decide⟩
  | bool b => cases b <;> exact ⟨_, _, rfl, rfl, by decide⟩
  | number n =>
    obtain ⟨c, cs, heq, hc⟩ := numeralText_cons n
    refine ⟨c, cs ++ rest, by rw [write, heq, List.cons_append], not_space_of_number hc, ?_⟩
    rintro rfl
    simp at hc
  | string text => exact ⟨'"', _, rfl, rfl, by decide⟩
  | list items => cases items <;> exact ⟨'[', _, rfl, rfl, by decide⟩
  | object members =>
    cases members with
    | nil => exact ⟨'\x7b', _, rfl, rfl, by decide⟩
    | cons member members => exact ⟨'\x7b', _, rfl, rfl, by decide⟩

theorem scanToken_ne_closeList {c : Char} (h : c ≠ ']') (cs : List Char) :
    (scanToken c cs).1 ≠ .closeList ∧ (scanToken c cs).1 ≠ .endOfText := by
  have hscan {α : Type} (make : α → Token) (hmake : ∀ a, make a ≠ .closeList ∧ make a ≠ .endOfText)
      (scan : Scan α) :
      (tokenOf make scan).1 ≠ .closeList ∧ (tokenOf make scan).1 ≠ .endOfText := by
    cases scan with
    | ok found => exact hmake found.1
    | error fault => simp [tokenOf]
  have hword (value : Json) (scan : Except Fault (List Char)) :
      (wordToken value scan).1 ≠ .closeList ∧ (wordToken value scan).1 ≠ .endOfText := by
    cases scan <;> simp [wordToken]
  unfold scanToken
  split
  case h_2 => exact absurd rfl h
  case h_12 =>
    split
    · exact hscan _ (by simp) _
    · simp
  all_goals first | exact hword _ _ | exact hscan _ (by simp) _ | simp

theorem outcome_item {cs : List Char} (h : Begins cs) (first : Bool) (items : List Json)
    (outer : List Frame) :
    outcome (.item first items outer) cs = outcome (.value (.list items :: outer)) cs := by
  obtain ⟨c, tail, rfl, hspace, hbracket⟩ := h
  obtain ⟨hclose, hend⟩ := scanToken_ne_closeList hbracket tail
  rw [outcome_cons (by simp) hspace, outcome_cons (by simp) hspace]
  -- of the tokens only those two are not passed on to the value
  simp only [step]

mutual

/-- The value that the text of a value is read as, with room for more open containers. -/
def rereadWithin? : Nat → Json → Option Json
  | _, .null => some .null
  | _, .bool b => some (.bool b)
  | _, .number n => (reread? n).map .number
  | _, .string text => some (.string text)
  | 0, .list _ => none
  | room + 1, .list items => (rereadItems? room items).map .list
  | 0, .object _ => none
  | room + 1, .object members => (rereadMembers? room members).map .object

def rereadItems? (room : Nat) : List Json → Option (List Json)
  | [] => some []
  | item :: items => do return (← rereadWithin? room item) :: (← rereadItems? room items)

def rereadMembers? (room : Nat) : List (String × Json) → Option (List (String × Json))
  | [] => some []
  | (key, value) :: members => do
    return (key, ← rereadWithin? room value) :: (← rereadMembers? room members)

end

theorem ends_blanks {blanks : List Char} (h : ∀ c ∈ blanks, isSpace c = true) {rest : List Char}
    (hrest : Ends rest) : Ends (blanks ++ rest) := by
  cases blanks with
  | nil => exact hrest
  | cons c blanks =>
    have hc := h c List.mem_cons_self
    simp only [isSpace, Bool.or_eq_true, beq_iff_eq] at hc
    apply ends_cons
    rcases hc with ((rfl | rfl) | rfl) | rfl <;> decide

theorem ends_writeItems (layout : Layout) (depth : Nat) (items : List Json) {rest : List Char}
    (hrest : Ends rest) : Ends (writeItems layout depth items ++ rest) := by
  cases items with
  | nil => exact hrest
  | cons item items => exact ends_cons (by decide) _

theorem ends_writeMembers (layout : Layout) (depth : Nat) (members : List (String × Json))
    {rest : List Char} (hrest : Ends rest) : Ends (writeMembers layout depth members ++ rest) := by
  cases members with
  | nil => exact hrest
  | cons member members => exact ends_cons (by decide) _

mutual

theorem outcome_write (layout : Layout) (depth : Nat) : ∀ (json : Json) (room : Nat)
    (stack : List Frame) (rest : List Char), stack.length + room = depthLimit → Ends rest →
      outcome (.value stack) (write layout depth json ++ rest) =
        (rereadWithin? room json).bind fun read => outcome (.done read stack) rest
  | .null, _, stack, rest, _, _ => outcome_null stack rest
  | .bool b, _, stack, rest, _, _ => outcome_bool stack rest b
  | .number n, _, stack, rest, _, hrest => by
    rw [write, outcome_number n stack hrest, rereadWithin?, Option.bind_map]
    rfl
  | .string text, _, stack, rest, _, _ => outcome_string stack rest text
  | .list items, 0, stack, rest, hroom, _ => by
    -- without room the bracket is refused, whatever stands behind it
    have hopen : ∃ tail, write layout depth (.list items) ++ rest = '[' :: tail := by
      cases items <;> exact ⟨_, rfl⟩
    obtain ⟨tail, htail⟩ := hopen
    rw [htail, outcome_openList, if_neg (by omega), rereadWithin?, Option.bind_none]
  | .list [], room + 1, stack, rest, hroom, _ => by
    rw [write, List.cons_append, outcome_openList, if_pos (by omega)]
    exact outcome_closeEmptyList stack [] rest
  | .list (item :: items), room + 1, stack, rest, hroom, _ => by
    have hinside : stack.length + 1 + room = depthLimit := by omega
    simp only [write, List.cons_append, List.append_assoc, List.nil_append]
    rw [outcome_openList, if_pos (by omega), outcome_blanks (layout.line_blank _),
      outcome_item (begins_write layout _ item _),
      outcome_write layout (depth + 1) item room (.list [] :: stack) _ hinside
        (ends_writeItems layout _ items (ends_blanks (layout.line_blank _) (ends_cons (by decide) _)))]
    simp only [outcome_writeItems layout (depth + 1) items room _ [] stack depth rest hinside]
    simp only [rereadWithin?, rereadItems?, Option.bind_eq_bind, Option.pure_def, Option.bind_map,
      Option.bind_assoc, Option.bind_some]
    rfl
  | .object members, 0, stack, rest, hroom, _ => by
    have hopen : ∃ tail, write layout depth (.object members) ++ rest = '\x7b' :: tail := by
      rcases members with _ | ⟨⟨key, value⟩, members⟩ <;> exact ⟨_, rfl⟩
    obtain ⟨tail, htail⟩ := hopen
    rw [htail, outcome_openObject, if_neg (by omega), rereadWithin?, Option.bind_none]
  | .object [], room + 1, stack, rest, hroom, _ => by
    rw [write, List.cons_append, outcome_openObject, if_pos (by omega)]
    exact outcome_closeEmptyObject stack [] rest
  | .object ((key, value) :: members), room + 1, stack, rest, hroom, _ => by
    have hinside : stack.length + 1 + room = depthLimit := by omega
    simp only [write, List.cons_append, List.append_assoc, List.nil_append]
    rw [outcome_openObject, if_pos (by omega), outcome_blanks (layout.line_blank _), outcome_key,
      outcome_colon, outcome_blanks layout.gap_blank,
      outcome_write layout (depth + 1) value room (.object [] key :: stack) _ hinside
        (ends_writeMembers layout _ members
          (ends_blanks (layout.line_blank _) (ends_cons (by decide) _)))]
    simp only [outcome_writeMembers layout (depth + 1) members room _ key [] stack depth rest hinside]
    simp only [rereadWithin?, rereadMembers?, Option.bind_eq_bind, Option.pure_def, Option.bind_map,
      Option.bind_assoc, Option.bind_some]
    rfl

theorem outcome_writeItems (layout : Layout) (depth : Nat) : ∀ (items : List Json) (room : Nat)
    (value : Json) (before : List Json) (outer : List Frame) (closing : Nat) (rest : List Char),
      outer.length + 1 + room = depthLimit →
      outcome (.done value (.list before :: outer))
          (writeItems layout depth items ++ (layout.line closing ++ ']' :: rest)) =
        (rereadItems? room items).bind fun read =>
          outcome (.done (.list (before.reverse ++ value :: read)) outer) rest
  | [], _, value, before, outer, closing, rest, _ => by
    rw [writeItems, List.nil_append, outcome_blanks (layout.line_blank _), outcome_closeList,
      List.reverse_cons]
    rfl
  | item :: items, room, value, before, outer, closing, rest, hinside => by
    simp only [writeItems, List.cons_append, List.append_assoc]
    rw [outcome_nextItem, outcome_blanks (layout.line_blank _),
      outcome_item (begins_write layout _ item _),
      outcome_write layout depth item room (.list (value :: before) :: outer) _ hinside
        (ends_writeItems layout _ items (ends_blanks (layout.line_blank _) (ends_cons (by decide) _)))]
    simp only [outcome_writeItems layout depth items room _ (value :: before) outer closing rest
      hinside]
    simp only [rereadItems?, Option.bind_eq_bind, Option.pure_def, Option.bind_assoc,
      Option.bind_some, List.reverse_cons, List.append_assoc, List.singleton_append]

theorem outcome_writeMembers (layout : Layout) (depth : Nat) :
    ∀ (members : List (String × Json)) (room : Nat) (value : Json) (key : String)
      (before : List (String × Json)) (outer : List Frame) (closing : Nat) (rest : List Char),
      outer.length + 1 + room = depthLimit →
      outcome (.done value (.object before key :: outer))
          (writeMembers layout depth members ++ (layout.line closing ++ '\x7d' :: rest)) =
        (rereadMembers? room members).bind fun read =>
          outcome (.done (.object (before.reverse ++ (key, value) :: read)) outer) rest
  | [], _, value, key, before, outer, closing, rest, _ => by
    rw [writeMembers, List.nil_append, outcome_blanks (layout.line_blank _), outcome_closeObject,
      List.reverse_cons]
    rfl
  | (name, item) :: members, room, value, key, before, outer, closing, rest, hinside => by
    simp only [writeMembers, List.cons_append, List.append_assoc]
    rw [outcome_nextMember, outcome_blanks (layout.line_blank _), outcome_key, outcome_colon,
      outcome_blanks layout.gap_blank,
      outcome_write layout depth item room (.object ((key, value) :: before) name :: outer) _
        hinside
        (ends_writeMembers layout _ members
          (ends_blanks (layout.line_blank _) (ends_cons (by decide) _)))]
    simp only [outcome_writeMembers layout depth members room _ name ((key, value) :: before) outer
      closing rest hinside]
    simp only [rereadMembers?, Option.bind_eq_bind, Option.pure_def, Option.bind_assoc,
      Option.bind_some, List.reverse_cons, List.append_assoc, List.singleton_append]

end

theorem beginning_write (layout : Layout) (json : Json) :
    (beginning (String.ofList (write layout 0 json))).toOption =
      (rereadWithin? depthLimit json).map fun read => ⟨read, none⟩ := by
  have houtcome := outcome_write layout 0 json depthLimit [] [] rfl ends_nil
  rw [List.append_nil, outcome] at houtcome
  rw [beginning, String.toList_ofList]
  cases hrun : run (.value []) (lexemes (write layout 0 json)) with
  | error fault =>
    rw [hrun] at houtcome
    cases hread : rereadWithin? depthLimit json with
    | none => rfl
    | some read => rw [hread] at houtcome; simp [outcome, run, Except.toOption] at houtcome
  | ok found =>
    rw [hrun] at houtcome
    cases hread : rereadWithin? depthLimit json with
    | none => rw [hread] at houtcome; simp [Except.toOption] at houtcome
    | some read =>
      rw [hread] at houtcome
      obtain rfl : found = (read, lexemes []) := by
        simpa [outcome, run, Except.toOption] using houtcome
      rw [lexemes]
      rfl

end RecordForms.Json
