import Mathlib.Data.List.Forall2
import RecordForms.Proofs.Printed
import RecordForms.Proofs.Saving

/-! What a JSON value can stand for does not change when it is printed and read, though the numbers
in it may. -/
namespace RecordForms

namespace Stored

namespace Roles

@[simp] theorem isSome_values? (items : List Roles) :
    (values? items).isSome = items.all fun item => item.value.isSome := by
  induction items with
  | nil => rfl
  | cons item items ih =>
    rw [values?, List.all_cons, ← ih]
    cases item.value <;> cases values? items <;> rfl

@[simp] theorem isSome_properties? (members : List (String × Roles)) :
    (properties? members).isSome = members.all fun member => member.2.value.isSome := by
  induction members with
  | nil => rfl
  | cons member members ih =>
    rw [properties?, List.all_cons, ← ih]
    cases member.2.value <;> cases properties? members <;> rfl

@[simp] theorem isSome_node? (id concept : Roles) (settings : Option Roles) :
    (node? id concept settings).isSome =
      (settings.all (·.settings.isSome) && id.name.isSome && concept.name.isSome) := by
  rcases settings with _ | ⟨_, _, _ | _, _⟩ <;> rcases id with ⟨_ | _, _, _, _⟩ <;>
    rcases concept with ⟨_ | _, _, _, _⟩ <;> rfl

/-- Two values that can stand for the same, as far as it can be seen from outside. -/
structure Alike (a b : Roles) : Prop where
  name : a.name = b.name
  target : a.target = b.target
  settings : a.settings.isSome = b.settings.isSome
  value : a.value.isSome = b.value.isSome

theorem alike_rfl (a : Roles) : a.Alike a := ⟨rfl, rfl, rfl, rfl⟩

theorem isSome_nodeOfItems?_congr {items items' : List Roles} (h : List.Forall₂ Alike items items') :
    (nodeOfItems? items).isSome = (nodeOfItems? items').isSome := by
  rcases h with _ | ⟨h₁, _ | ⟨h₂, _ | ⟨h₃, _ | ⟨_, _⟩⟩⟩⟩
  any_goals rfl
  · simp only [nodeOfItems?, isSome_node?, h₁.name, h₂.name, Option.all_none]
  · simp only [nodeOfItems?, isSome_node?, h₁.name, h₂.name, h₃.settings, Option.all_some]

theorem isSome_referenceOfItems?_congr {items items' : List Roles}
    (h : List.Forall₂ Alike items items') :
    (referenceOfItems? items).isSome = (referenceOfItems? items').isSome := by
  rcases h with _ | ⟨h₁, _ | ⟨_, _⟩⟩
  any_goals rfl
  simp only [referenceOfItems?, h₁.target]

theorem alike_ofItems {items items' : List Roles} (h : List.Forall₂ Alike items items') :
    (ofItems items).Alike (ofItems items') := by
  have hvalues : (values? items).isSome = (values? items').isSome := by
    rw [isSome_values?, isSome_values?]
    induction h with
    | nil => rfl
    | cons h₁ _ ih => rw [List.all_cons, List.all_cons, h₁.value, ih]
  refine ⟨rfl, rfl, rfl, ?_⟩
  simp only [ofItems, only, Option.isSome_or, Option.isSome_map, hvalues,
    isSome_nodeOfItems?_congr h, isSome_referenceOfItems?_congr h]

abbrev AlikeMembers (members members' : List (String × Roles)) : Prop :=
  List.Forall₂ (fun m m' => m.1 = m'.1 ∧ m.2.Alike m'.2) members members'

theorem AlikeMembers.names {members members' : List (String × Roles)}
    (h : AlikeMembers members members') : members.map (·.1) = members'.map (·.1) := by
  induction h with
  | nil => rfl
  | cons h₁ _ ih => rw [List.map_cons, List.map_cons, h₁.1, ih]

theorem AlikeMembers.lookup {members members' : List (String × Roles)}
    (h : AlikeMembers members members') {α : Type} {f : Roles → α}
    (hf : ∀ a b : Roles, a.Alike b → f a = f b) (name : String) :
    (members.lookup name).map f = (members'.lookup name).map f := by
  induction h with
  | nil => rfl
  | @cons m m' _ _ h₁ _ ih =>
    rw [List.lookup_cons, List.lookup_cons, h₁.1]
    split
    · exact congrArg some (hf _ _ h₁.2)
    · exact ih

@[simp] theorem isSome_nodeOfMembers? (members : List (String × Roles)) :
    (nodeOfMembers? members).isSome =
      (fieldsAmong ["id", "concept", "settings"] members &&
        ((members.lookup "settings").map (·.settings.isSome)).getD true &&
        ((members.lookup "id").map (·.name.isSome)).getD false &&
        ((members.lookup "concept").map (·.name.isSome)).getD false) := by
  unfold nodeOfMembers?
  cases fieldsAmong ["id", "concept", "settings"] members with
  | false => rfl
  | true =>
    cases members.lookup "id" with
    | none => simp
    | some id =>
      cases members.lookup "concept" with
      | none => simp
      | some concept =>
        refine (isSome_node? id concept _).trans ?_
        cases members.lookup "settings" <;> simp

@[simp] theorem isSome_referenceOfMembers? (members : List (String × Roles)) :
    (referenceOfMembers? members).isSome =
      (fieldsAmong ["refId"] members &&
        ((members.lookup "refId").map (·.target.isSome)).getD true) := by
  unfold referenceOfMembers?
  cases fieldsAmong ["refId"] members with
  | false => rfl
  | true => rcases members.lookup "refId" with _ | ⟨_, _ | _, _, _⟩ <;> rfl

theorem alike_ofMembers {members members' : List (String × Roles)}
    (h : AlikeMembers members members') : (ofMembers members).Alike (ofMembers members') := by
  have hproperties : (properties? members).isSome = (properties? members').isSome := by
    rw [isSome_properties?, isSome_properties?]
    induction h with
    | nil => rfl
    | cons h₁ _ ih => rw [List.all_cons, List.all_cons, h₁.2.value, ih]
  have hfields (names : List String) : fieldsAmong names members = fieldsAmong names members' := by
    rw [fieldsAmong, fieldsAmong, h.names]
  have hname := h.lookup (f := (·.name.isSome)) fun _ _ halike => by rw [halike.name]
  have hsettings := h.lookup (f := (·.settings.isSome)) fun _ _ halike => halike.settings
  have htarget := h.lookup (f := (·.target.isSome)) fun _ _ halike => by rw [halike.target]
  refine ⟨rfl, rfl, ?_, ?_⟩
  · simp only [ofMembers, Option.isSome_map, hproperties]
  · simp only [ofMembers, Option.isSome_or, isSome_nodeOfMembers?, isSome_referenceOfMembers?,
      hfields, hname, hsettings, htarget]

end Roles

theorem alike_rolesOf_number (m n : Numeral) :
    (rolesOf (.number m)).Alike (rolesOf (.number n)) := by
  have hvalue (n : Numeral) : ∃ x, rolesOf (.number n) = .only (some x) := by
    cases n with
    | whole n =>
      rw [rolesOf, Roles.ofNumeral]
      split
      · exact ⟨_, rfl⟩
      · exact ⟨_, rfl⟩
    | real x => exact ⟨_, rfl⟩
  obtain ⟨x, hx⟩ := hvalue m
  obtain ⟨y, hy⟩ := hvalue n
  rw [hx, hy]
  exact ⟨rfl, rfl, rfl, rfl⟩

mutual

/-- A value can stand for the same after it is printed and read. -/
theorem alike_rereadWithin? : ∀ (json : Json) {room : Nat} {read : Json},
    json.rereadWithin? room = some read → (rolesOf json).Alike (rolesOf read)
  | .null, _, _, h => by
    rw [Json.rereadWithin?] at h
    rw [← Option.some.inj h]
    exact Roles.alike_rfl _
  | .bool b, _, _, h => by
    rw [Json.rereadWithin?] at h
    rw [← Option.some.inj h]
    exact Roles.alike_rfl _
  | .number n, _, _, h => by
    rw [Json.rereadWithin?] at h
    obtain ⟨m, -, rfl⟩ := Option.map_eq_some_iff.mp h
    exact alike_rolesOf_number n m
  | .string s, _, _, h => by
    rw [Json.rereadWithin?] at h
    rw [← Option.some.inj h]
    exact Roles.alike_rfl _
  | .list items, 0, _, h => by
    rw [Json.rereadWithin?] at h
    contradiction
  | .list items, room + 1, _, h => by
    rw [Json.rereadWithin?] at h
    obtain ⟨read, hread, rfl⟩ := Option.map_eq_some_iff.mp h
    exact Roles.alike_ofItems (alike_rereadItems? items hread)
  | .object members, 0, _, h => by
    rw [Json.rereadWithin?] at h
    contradiction
  | .object members, room + 1, _, h => by
    rw [Json.rereadWithin?] at h
    obtain ⟨read, hread, rfl⟩ := Option.map_eq_some_iff.mp h
    exact Roles.alike_ofMembers (alike_rereadMembers? members hread)

theorem alike_rereadItems? : ∀ (items : List Json) {room : Nat} {read : List Json},
    Json.rereadItems? room items = some read →
      List.Forall₂ Roles.Alike (rolesOfItems items) (rolesOfItems read)
  | [], _, _, h => by
    rw [← Option.some.inj h]
    exact .nil
  | item :: items, room, _, h => by
    obtain ⟨first, hfirst, h⟩ := Option.bind_eq_some_iff.mp h
    obtain ⟨others, hothers, h⟩ := Option.bind_eq_some_iff.mp h
    rw [← Option.some.inj h]
    exact .cons (alike_rereadWithin? item hfirst) (alike_rereadItems? items hothers)

theorem alike_rereadMembers? : ∀ (members : List (String × Json)) {room : Nat}
    {read : List (String × Json)}, Json.rereadMembers? room members = some read →
      Roles.AlikeMembers (rolesOfMembers members) (rolesOfMembers read)
  | [], _, _, h => by
    rw [← Option.some.inj h]
    exact .nil
  | (key, value) :: members, room, _, h => by
    obtain ⟨first, hfirst, h⟩ := Option.bind_eq_some_iff.mp h
    obtain ⟨others, hothers, h⟩ := Option.bind_eq_some_iff.mp h
    rw [← Option.some.inj h]
    exact .cons ⟨rfl, alike_rereadWithin? value hfirst⟩ (alike_rereadMembers? members hothers)

end

@[simp] theorem Roles.value_ofMembers_node (id concept settings : Roles) :
    (ofMembers [("id", id), ("concept", concept), ("settings", settings)]).value =
      node? id concept (some settings) := by
  have hfields (names : List String) :
      fieldsAmong names [("id", id), ("concept", concept), ("settings", settings)] =
        (["id", "concept", "settings"].all names.contains && ["id", "concept", "settings"].Nodup) :=
    rfl
  have hnode : nodeOfMembers? [("id", id), ("concept", concept), ("settings", settings)] =
      node? id concept (some settings) := by
    rw [nodeOfMembers?, hfields, show (["id", "concept", "settings"].all
      ["id", "concept", "settings"].contains && ["id", "concept", "settings"].Nodup) = true by decide]
    rfl
  have hreference : referenceOfMembers? [("id", id), ("concept", concept), ("settings", settings)] =
      none := by
    rw [referenceOfMembers?, hfields, show (["id", "concept", "settings"].all
      ["refId"].contains && ["id", "concept", "settings"].Nodup) = false by decide]
    rfl
  rw [ofMembers, hnode, hreference, Option.or_none]

theorem ofJson?_node (id concept : String) (members : List (String × Json)) :
    ofJson? (.object [("id", .string id), ("concept", .string concept),
        ("settings", .object members)]) =
      (Roles.properties? (rolesOfMembers members)).map fun entries =>
        .node id concept (TextMap.ofList entries).entries := by
  refine (Roles.value_ofMembers_node _ _ _).trans ?_
  cases h : Roles.properties? (rolesOfMembers members) <;>
    simp [rolesOf, Roles.node?, Roles.ofText, Roles.ofMembers, h]

@[simp] theorem rolesOfMembers_eq (members : List (String × Json)) :
    rolesOfMembers members = members.map fun m => (m.1, rolesOf m.2) := by
  induction members with
  | nil => rfl
  | cons member members ih => rw [rolesOfMembers, ih, List.map_cons]

theorem isSome_settings_iff {json : Json} :
    (rolesOf json).settings.isSome = true ↔
      ∃ members, json = .object members ∧ ∀ m ∈ members, (ofJson? m.2).isSome = true := by
  cases json with
  | number n =>
    cases n with
    | whole n => rw [rolesOf, Roles.ofNumeral]; split <;> simp [Roles.only]
    | real x => simp [rolesOf, Roles.ofNumeral, Roles.only]
  | object members =>
    rw [rolesOf, Roles.ofMembers, Option.isSome_map, Roles.isSome_properties?, rolesOfMembers_eq,
      List.all_map, List.all_eq_true]
    simp [ofJson?]
  | _ => simp [rolesOf, Roles.ofNull, Roles.only, Roles.ofText, Roles.ofItems]

theorem Roles.node?_ne_list {id concept : Roles} {settings : Option Roles} {items : List Stored} :
    node? id concept settings ≠ some (.list items) := by
  rcases settings with _ | ⟨_, _, _ | _, _⟩ <;> rcases id with ⟨_ | _, _, _, _⟩ <;>
    rcases concept with ⟨_ | _, _, _, _⟩ <;> simp [node?]

theorem Roles.value_ofItems_eq_list {roles : List Roles} {items : List Stored} :
    (ofItems roles).value = some (.list items) ↔
      nodeOfItems? roles = none ∧ referenceOfItems? roles = none ∧ values? roles = some items := by
  have hnode : nodeOfItems? roles ≠ some (.list items) := by
    unfold nodeOfItems?
    split
    · exact node?_ne_list
    · exact node?_ne_list
    · simp
  have hreference : referenceOfItems? roles ≠ some (.list items) := by
    unfold referenceOfItems?
    split <;> simp
  rw [ofItems, only]
  cases hn : nodeOfItems? roles with
  | some value => simpa using fun heq => hnode (hn.trans (congrArg some heq))
  | none =>
    cases hr : referenceOfItems? roles with
    | some value => simpa using fun heq => hreference (hr.trans (congrArg some heq))
    | none => simp

def SortedEntries (entries : List (String × Stored)) : Prop :=
  (entries.Pairwise fun a b => a.1 < b.1) ∧ ∀ e ∈ entries, e.2.Sorted

structure Roles.Ordered (roles : Roles) : Prop where
  settings : ∀ entries, roles.settings = some entries → SortedEntries entries
  value : ∀ stored, roles.value = some stored → stored.Sorted

theorem Roles.sorted_of_node? {id concept : Roles} {settings : Option Roles}
    (h : ∀ roles, settings = some roles → roles.Ordered) {stored : Stored}
    (hnode : node? id concept settings = some stored) : stored.Sorted := by
  have hentries (entries : List (String × Stored)) (hsorted : SortedEntries entries)
      (hnode : (do return node (← id.name) (← concept.name) entries) = some stored) :
      stored.Sorted := by
    obtain ⟨name, -, hnode⟩ := Option.bind_eq_some_iff.mp hnode
    obtain ⟨kind, -, hnode⟩ := Option.bind_eq_some_iff.mp hnode
    rw [← Option.some.inj hnode, sorted_node_iff]
    exact hsorted
  cases settings with
  | none => exact hentries [] ⟨.nil, by simp⟩ hnode
  | some roles =>
    obtain ⟨entries, hsettings, hnode⟩ := Option.bind_eq_some_iff.mp hnode
    exact hentries entries ((h roles rfl).settings entries hsettings) hnode

theorem Roles.sorted_of_values? {items : List Roles} (h : ∀ item ∈ items, item.Ordered)
    {values : List Stored} (hvalues : values? items = some values) :
    ∀ value ∈ values, value.Sorted := by
  induction items generalizing values with
  | nil => simp [← Option.some.inj hvalues]
  | cons item items ih =>
    rw [List.forall_mem_cons] at h
    obtain ⟨first, hfirst, hvalues⟩ := Option.bind_eq_some_iff.mp hvalues
    obtain ⟨others, hothers, hvalues⟩ := Option.bind_eq_some_iff.mp hvalues
    rw [← Option.some.inj hvalues, List.forall_mem_cons]
    exact ⟨h.1.value first hfirst, ih h.2 hothers⟩

theorem Roles.sorted_of_properties? {members : List (String × Roles)}
    (h : ∀ m ∈ members, m.2.Ordered) {entries : List (String × Stored)}
    (hentries : properties? members = some entries) : ∀ e ∈ entries, e.2.Sorted := by
  induction members generalizing entries with
  | nil => simp [← Option.some.inj hentries]
  | cons member members ih =>
    rw [List.forall_mem_cons] at h
    obtain ⟨first, hfirst, hentries⟩ := Option.bind_eq_some_iff.mp hentries
    obtain ⟨others, hothers, hentries⟩ := Option.bind_eq_some_iff.mp hentries
    rw [← Option.some.inj hentries, List.forall_mem_cons]
    exact ⟨h.1.value first hfirst, ih h.2 hothers⟩

theorem Roles.ordered_ofItems {items : List Roles} (h : ∀ item ∈ items, item.Ordered) :
    (ofItems items).Ordered := by
  refine ⟨by simp [ofItems, only], fun stored hstored => ?_⟩
  rcases Option.or_eq_some_iff.mp hstored with hnode | ⟨-, hstored⟩
  · unfold nodeOfItems? at hnode
    split at hnode
    · exact sorted_of_node? (by simp) hnode
    · refine sorted_of_node? (fun roles hroles => ?_) hnode
      exact h roles (by simp [Option.some.inj hroles])
    · contradiction
  · rcases Option.or_eq_some_iff.mp hstored with hreference | ⟨-, hvalues⟩
    · unfold referenceOfItems? at hreference
      split at hreference
      · rw [← Option.some.inj hreference]; trivial
      · obtain ⟨target, -, rfl⟩ := Option.map_eq_some_iff.mp hreference
        trivial
      · contradiction
    · obtain ⟨values, heq, rfl⟩ := Option.map_eq_some_iff.mp hvalues
      rw [sorted_list_iff]
      exact sorted_of_values? h heq

theorem Roles.ordered_ofMembers {members : List (String × Roles)}
    (h : ∀ m ∈ members, m.2.Ordered) : (ofMembers members).Ordered := by
  refine ⟨fun entries hentries => ?_, fun stored hstored => ?_⟩
  · obtain ⟨given, hgiven, rfl⟩ := Option.map_eq_some_iff.mp hentries
    refine ⟨(TextMap.ofList given).increasing, fun e he => ?_⟩
    obtain ⟨first, hfirst, heq⟩ :=
      List.mem_map.mp (TextMap.mem_values_ofList (List.mem_map_of_mem he))
    rw [← heq]
    exact sorted_of_properties? h hgiven first hfirst
  · rcases Option.or_eq_some_iff.mp hstored with hnode | ⟨-, hreference⟩
    · obtain ⟨-, -, hnode⟩ := Option.bind_eq_some_iff.mp hnode
      obtain ⟨id, -, hnode⟩ := Option.bind_eq_some_iff.mp hnode
      obtain ⟨concept, -, hnode⟩ := Option.bind_eq_some_iff.mp hnode
      refine sorted_of_node? (fun roles hroles => ?_) hnode
      exact h ("settings", roles) (TextMap.mem_of_lookup hroles)
    · obtain ⟨-, -, hreference⟩ := Option.bind_eq_some_iff.mp hreference
      split at hreference
      · rw [← Option.some.inj hreference]; trivial
      · obtain ⟨target, -, rfl⟩ := Option.map_eq_some_iff.mp hreference
        trivial

mutual

theorem ordered_rolesOf : ∀ json : Json, (rolesOf json).Ordered
  | .null => ⟨by simp [rolesOf, Roles.ofNull], by simp [rolesOf, Roles.ofNull]⟩
  | .bool b => ⟨by simp [rolesOf, Roles.only], by simp [rolesOf, Roles.only, Sorted]⟩
  | .number (.whole n) => by
    rw [rolesOf, Roles.ofNumeral]
    split <;> exact ⟨by simp [Roles.only], by simp [Roles.only, Sorted]⟩
  | .number (.real x) => ⟨by simp [rolesOf, Roles.ofNumeral, Roles.only],
      by simp [rolesOf, Roles.ofNumeral, Roles.only, Sorted]⟩
  | .string s => ⟨by simp [rolesOf, Roles.ofText], by simp [rolesOf, Roles.ofText, Sorted]⟩
  | .list items => Roles.ordered_ofItems (ordered_rolesOfItems items)
  | .object members => Roles.ordered_ofMembers (ordered_rolesOfMembers members)

theorem ordered_rolesOfItems : ∀ items : List Json, ∀ roles ∈ rolesOfItems items, roles.Ordered
  | [] => by simp [rolesOfItems]
  | item :: items =>
    List.forall_mem_cons.mpr ⟨ordered_rolesOf item, ordered_rolesOfItems items⟩

theorem ordered_rolesOfMembers : ∀ members : List (String × Json),
    ∀ m ∈ rolesOfMembers members, m.2.Ordered
  | [] => by simp [rolesOfMembers]
  | (_, value) :: members =>
    List.forall_mem_cons.mpr ⟨ordered_rolesOf value, ordered_rolesOfMembers members⟩

end

theorem sorted_of_read {text : String} {stored : Stored} (h : read text = .ok stored) :
    stored.Sorted := by
  unfold read at h
  split at h
  · contradiction
  next start _ =>
    split at h
    · contradiction
    · contradiction
    next value hvalue _ =>
      rw [← Except.ok.inj h]
      exact (ordered_rolesOf start.value).value value hvalue

end Stored

end RecordForms
