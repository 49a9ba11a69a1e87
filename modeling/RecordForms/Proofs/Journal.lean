import RecordForms.Model.Session
import RecordForms.Proofs.Reachable

/-! What is left of a call. A call makes all its checks before its first change, and what it looks
up again behind that change is still there; so a refused call leaves nothing behind, and an
accepted one does what the edit does as a whole and is noted once. Where the ids that are drawn for
nodes are new, the documents of a session are among those that come about by edits. -/
namespace RecordForms

namespace SessionM

variable {α β : Type} {session next : Session}

theorem bind_of_ok {x : SessionM α} {f : α → SessionM β} {a : α} (h : x session = .ok a next) :
    (x >>= f) session = f a next := by
  simp only [bind, EStateM.bind, h]

theorem bind_of_error {x : SessionM α} {f : α → SessionM β} {refusal : Refusal}
    (h : x session = .error refusal next) : (x >>= f) session = .error refusal next := by
  simp only [bind, EStateM.bind, h]

theorem look_of_ok {f : Document → Except Refusal α} {a : α} (h : f session.doc = .ok a) :
    look f session = .ok a session := by
  rw [look, h]

theorem look_of_error {f : Document → Except Refusal α} {refusal : Refusal}
    (h : f session.doc = .error refusal) : look f session = .error refusal session := by
  rw [look, h]

def whole (session : Session) : Except Refusal Document → EStateM.Result Refusal Session Unit
  | .ok doc => .ok () { session with doc }
  | .error refusal => .error refusal session

theorem look_bind_eq_whole {f : Document → Except Refusal α} {rest : α → SessionM Unit}
    {edit : α → Except Refusal Document}
    (h : ∀ a, f session.doc = .ok a → rest a session = whole session (edit a)) :
    (look f >>= rest) session = whole session (f session.doc >>= edit) := by
  cases hf : f session.doc with
  | ok a => exact (bind_of_ok (look_of_ok hf)).trans (h a hf)
  | error refusal => exact bind_of_error (look_of_error hf)

/-- The session when the children are exchanged and the node is not yet written. -/
def exchanged (session : Session) (id : NodeId) (old value : Option Value) : Session :=
  { session with
    doc := { session.doc with
      parents := Document.adopt id (value.elim [] Value.owned)
        (Document.release (old.elim [] Value.owned) session.doc.parents) } }

theorem write_exchanged (id : NodeId) (old value : Option Value) (node : Node)
    (session : Session) :
    write id node (exchanged session id old value) =
      whole session (.ok (session.doc.put id node (old.elim [] Value.owned)
        (value.elim [] Value.owned))) :=
  rfl

theorem createNode_eq (id : NodeId) (concept : String) (settings : Settings) (session : Session) :
    createNode id concept settings session =
      whole session (session.doc.create id concept settings) := by
  refine look_bind_eq_whole fun _ _ => look_bind_eq_whole fun _ _ => ?_
  rfl

theorem assign_eq (id : NodeId) (property : String) (value : Option Value) (session : Session) :
    assign id property value session =
      whole session (session.doc.assign id property value) := by
  refine look_bind_eq_whole fun node hnode => look_bind_eq_whole fun _ _ => ?_
  -- the exchange of the children leaves the nodes, so the node is found again
  let between := exchanged session id (node.get? property) value
  have hagain : look (fun doc => doc.find id) between = .ok node between := look_of_ok hnode
  exact (bind_of_ok rfl).trans ((bind_of_ok hagain).trans (write_exchanged ..))

theorem assignAt_eq (id : NodeId) (property : String) (index : Nat) (value : Option Value)
    (session : Session) :
    assignAt id property index value session =
      whole session (session.doc.assignAt id property index value) := by
  refine look_bind_eq_whole fun node hnode => look_bind_eq_whole fun items hitems => ?_
  cases Document.inBounds items index value with
  | false => rfl
  | true =>
    refine look_bind_eq_whole fun _ _ => ?_
    let between := exchanged session id items[index]? value
    have hagain : look (fun doc => doc.find id) between = .ok node between := look_of_ok hnode
    have hlist : look (fun _ => Document.findList id node property) between =
        .ok items between := look_of_ok hitems
    exact (bind_of_ok rfl).trans ((bind_of_ok hagain).trans
      ((bind_of_ok hlist).trans (write_exchanged ..)))

def noted (session : Session) (e : Edit) (doc : Document) : Session :=
  { session with doc, journal := session.journal.map fun changes => changes ++ [e.change] }

def settled (session : Session) (e : Edit) :
    Except Refusal Document → EStateM.Result Refusal Session Unit
  | .ok doc => .ok () (noted session e doc)
  | .error refusal => .error refusal session

theorem bind_note_eq {x : SessionM Unit} {result : Except Refusal Document} (e : Edit)
    (h : x session = whole session result) :
    (x >>= fun _ => note e.change) session = settled session e result := by
  cases result with
  | ok doc => exact bind_of_ok h
  | error refusal => exact bind_of_error h

/-- What an edit does step by step is what it does as a whole. -/
theorem edit_eq (e : Edit) (session : Session) :
    edit e session = settled session e (session.doc.apply e) := by
  cases e with
  | create id concept settings => exact bind_note_eq _ (createNode_eq id concept settings session)
  | assign id property value => exact bind_note_eq _ (assign_eq id property value session)
  | assignAt id property index value =>
    exact bind_note_eq _ (assignAt_eq id property index value session)

theorem edit_cases (e : Edit) (session : Session) :
    (∃ refusal, edit e session = .error refusal session ∧ session.doc.after e = session.doc) ∨
      edit e session = .ok () (noted session e (session.doc.after e)) := by
  rw [edit_eq, Document.after]
  cases session.doc.apply e with
  | error refusal => exact .inl ⟨refusal, rfl, rfl⟩
  | ok doc => exact .inr rfl

theorem create_cases (id : NodeId) (concept : String) (settings : Settings) (session : Session) :
    let e := Edit.create id concept settings
    (∃ refusal, create id concept settings session = .error refusal session ∧
        session.doc.after e = session.doc) ∨
      create id concept settings session = .ok id (noted session e (session.doc.after e)) := by
  intro e
  rcases edit_cases e session with ⟨refusal, h, hsame⟩ | h
  · exact .inl ⟨refusal, bind_of_error h, hsame⟩
  · exact .inr (bind_of_ok h)

end SessionM

/-- What can be asked of a session. The id of a new node is one that was drawn for it. -/
inductive Call where
  | create (id : NodeId) (concept : String) (settings : Settings)
  | assign (node : NodeId) (property : String) (value : Option Value)
  | assignAt (node : NodeId) (property : String) (index : Nat) (value : Option Value)
  | prune

namespace Call

def Answer : Call → Type
  | .create .. => NodeId
  | .prune => Nat
  | _ => Unit

def perform : (call : Call) → SessionM call.Answer
  | .create id concept settings => SessionM.create id concept settings
  | .assign node property value => SessionM.edit (.assign node property value)
  | .assignAt node property index value => SessionM.edit (.assignAt node property index value)
  | .prune => SessionM.prune

/-- What is to be told of an accepted call. -/
def told : (call : Call) → call.Answer → List Change
  | .create _ concept _, id => [.created id concept]
  | .assign node property (some _), _ => [.propertySet node property]
  | .assign node property none, _ => [.propertyRemoved node property]
  | .assignAt node property index (some _), _ => [.elementReplaced node property index]
  | .assignAt node property index none, _ => [.elementRemoved node property index]
  | .prune, _ => []

def effect (doc : Document) : Call → Document
  | .create id concept settings => doc.after (.create id concept settings)
  | .assign node property value => doc.after (.assign node property value)
  | .assignAt node property index value => doc.after (.assignAt node property index value)
  | .prune => doc.prune

theorem perform_cases (call : Call) (session : Session) :
    (∃ refusal, call.perform session = .error refusal session ∧
        call.effect session.doc = session.doc) ∨
      ∃ answer, call.perform session = .ok answer
        ⟨call.effect session.doc,
          session.journal.map fun changes => changes ++ call.told answer⟩ := by
  cases call with
  | create id concept settings =>
    exact (SessionM.create_cases id concept settings session).imp_right fun h => ⟨id, h⟩
  | assign node property value =>
    refine (SessionM.edit_cases (.assign node property value) session).imp_right fun h => ⟨(), ?_⟩
    cases value <;> exact h
  | assignAt node property index value =>
    refine (SessionM.edit_cases (.assignAt node property index value) session).imp_right
      fun h => ⟨(), ?_⟩
    cases value <;> exact h
  | prune =>
    refine .inr ⟨session.doc.size - session.doc.prune.size, ?_⟩
    simp only [perform, SessionM.prune, told, effect, List.append_nil, Option.map_id']
    rfl

theorem unchanged_of_refused {call : Call} {session next : Session} {refusal : Refusal}
    (h : call.perform session = .error refusal next) : next = session := by
  rcases call.perform_cases session with ⟨_, hrefused, -⟩ | ⟨_, haccepted⟩
  · exact (EStateM.Result.error.inj (h.symm.trans hrefused)).2
  · cases h.symm.trans haccepted

structure Outcome where
  call : Call
  result : Except Refusal call.Answer

def Outcome.told : Outcome → List Change
  | ⟨call, .ok answer⟩ => call.told answer
  | ⟨_, .error _⟩ => []

end Call

namespace Session

/-- Tries a call. Work goes on with what it leaves, also if it is refused. -/
def attempt (session : Session) (call : Call) : Call.Outcome × Session :=
  match call.perform session with
  | .ok answer next => (⟨call, .ok answer⟩, next)
  | .error refusal next => (⟨call, .error refusal⟩, next)

def run (session : Session) : List Call → List Call.Outcome × Session
  | [] => ([], session)
  | call :: calls =>
    let first := session.attempt call
    let rest := first.2.run calls
    (first.1 :: rest.1, rest.2)

theorem attempt_eq (session : Session) (call : Call) :
    (session.attempt call).2 = ⟨call.effect session.doc,
      session.journal.map fun changes => changes ++ (session.attempt call).1.told⟩ := by
  rcases call.perform_cases session with ⟨refusal, h, hsame⟩ | ⟨answer, h⟩
  · simp only [attempt, h, hsame, Call.Outcome.told, List.append_nil, Option.map_id']
  · simp only [attempt, h, Call.Outcome.told]

@[simp] theorem call_attempt (session : Session) (call : Call) : (session.attempt call).1.call = call := by
  rw [attempt]
  split <;> rfl

theorem journal_run (session : Session) (calls : List Call) :
    (session.run calls).2.journal = session.journal.map fun changes =>
      changes ++ (session.run calls).1.flatMap Call.Outcome.told := by
  induction calls generalizing session with
  | nil => simp [run]
  | cons call calls ih =>
    rw [run, ih, attempt_eq, Option.map_map]
    simp only [List.flatMap_cons, ← List.append_assoc]
    rfl

@[simp] theorem calls_run (session : Session) (calls : List Call) :
    (session.run calls).1.map Call.Outcome.call = calls := by
  induction calls generalizing session with
  | nil => rfl
  | cons call calls ih => rw [run, List.map_cons, call_attempt, ih]

/-- A refused call leaves the document as it was and is not told. Over any run, whoever follows is
told the accepted edits, each once and in order, and nothing else. -/
theorem refused_unchanged_accepted_told :
    (∀ (session : Session) (call : Call) (refusal : Refusal) (next : Session),
        call.perform session = .error refusal next →
          next.doc.root = session.doc.root ∧ next.doc.nodes = session.doc.nodes ∧
          next.doc.parents = session.doc.parents ∧ next.journal = session.journal) ∧
      ∀ (session : Session) (calls : List Call) (seen : List Change), session.journal = some seen →
        (session.run calls).1.map Call.Outcome.call = calls ∧
        (session.run calls).2.journal =
          some (seen ++ (session.run calls).1.flatMap Call.Outcome.told) := by
  refine ⟨fun session call refusal next h => ?_, fun session calls seen hseen => ?_⟩
  · rw [Call.unchanged_of_refused h]
    exact ⟨rfl, rfl, rfl, rfl⟩
  · rw [journal_run, hseen]
    exact ⟨calls_run session calls, rfl⟩

theorem refused_unchanged_accepted_told_twice :
    let session := ((ofDocument (.new "r" "Record Type")).follow.run
      [.create "n" "Number" .empty]).2
    let twice := Call.assign "r" "parts" (some (.list [.node "n", .node "n"]))
    let calls := [twice, .assign "r" "parts" (some (.list [.node "n"])),
      .assignAt "r" "parts" 0 none, .prune]
    (∃ next, twice.perform session = .error (.alreadyOwned "n" "r") next ∧
        next.doc.parents = session.doc.parents ∧ next.journal = session.journal) ∧
      session.journal = some [.created "n" "Number"] ∧
      (session.run calls).2.journal = some ([.created "n" "Number"] ++
        (session.run calls).1.flatMap Call.Outcome.told) ∧
      (session.run calls).1.flatMap Call.Outcome.told =
        [.propertySet "r" "parts", .elementRemoved "r" "parts" 0] := by
  intro session twice calls
  have hjournal : session.journal = some [.created "n" "Number"] := by decide +kernel
  have hrefused : twice.perform session = .error (.alreadyOwned "n" "r") session := by rfl
  have hunchanged := refused_unchanged_accepted_told.1 session twice _ _ hrefused
  refine ⟨⟨session, hrefused, hunchanged.2.2⟩, hjournal, ?_, by decide +kernel⟩
  exact (refused_unchanged_accepted_told.2 session calls _ hjournal).2

end Session

def Call.Fresh (doc : Document) : Call → Prop
  | .create id _ _ => doc.contains id = false
  | _ => True

theorem Call.reachable_effect {doc : Document} (h : doc.Reachable) {call : Call}
    (fresh : call.Fresh doc) : (call.effect doc).Reachable := by
  cases call with
  | create id concept settings => exact .edited _ h fresh
  | assign node property value => exact .edited _ h trivial
  | assignAt node property index value => exact .edited _ h trivial
  | prune => exact .pruned h

namespace Session

def FreshFor (session : Session) : List Call → Prop
  | [] => True
  | call :: calls => call.Fresh session.doc ∧ (session.attempt call).2.FreshFor calls

/-- Whatever is asked of a session, step by step, its document is one of those that come about by
whole edits, if it began with such a document and all ids drawn are fresh. -/
theorem reachable_run {session : Session} (h : session.doc.Reachable) {calls : List Call}
    (fresh : session.FreshFor calls) : (session.run calls).2.doc.Reachable := by
  induction calls generalizing session with
  | nil => exact h
  | cons call calls ih =>
    refine ih ?_ fresh.2
    rw [attempt_eq]
    exact call.reachable_effect h fresh.1

end Session

end RecordForms
