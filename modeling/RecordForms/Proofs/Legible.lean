import RecordForms.Proofs.Roles
import RecordForms.Proofs.Saving

/-! Which stored values are read back from their texts. A list that can be taken for a node or a
reference is lost, and so is a number whose digits are read as another number, and a value that
is nested too deeply for the reader; nothing else is. -/
namespace RecordForms

namespace Json

mutual

/-- The number of containers that are open at once in the text of a value. -/
def depth : Json → Nat
  | .list items => depthOfItems items + 1
  | .object members => depthOfMembers members + 1
  | _ => 0

def depthOfItems : List Json → Nat
  | [] => 0
  | item :: items => max item.depth (depthOfItems items)

def depthOfMembers : List (String × Json) → Nat
  | [] => 0
  | (_, value) :: members => max value.depth (depthOfMembers members)

end

@[simp] theorem depthOfItems_le {items : List Json} {n : Nat} :
    depthOfItems items ≤ n ↔ ∀ item ∈ items, item.depth ≤ n := by
  induction items with
  | nil => simp [depthOfItems]
  | cons item items ih => rw [depthOfItems, Nat.max_le, ih, List.forall_mem_cons]

@[simp] theorem depthOfMembers_le {members : List (String × Json)} {n : Nat} :
    depthOfMembers members ≤ n ↔ ∀ member ∈ members, member.2.depth ≤ n := by
  induction members with
  | nil => simp [depthOfMembers]
  | cons member members ih => rw [depthOfMembers, Nat.max_le, ih, List.forall_mem_cons]

end Json

namespace Stored

theorem itemsJson_eq (items : List Stored) : itemsJson items = items.map toJson := by
  induction items with
  | nil => rfl
  | cons item items ih => rw [itemsJson, ih, List.map_cons]

theorem settingsJson_eq (settings : List (String × Stored)) :
    settingsJson settings = settings.map fun e => (e.1, e.2.toJson) := by
  induction settings with
  | nil => rfl
  | cons e settings ih => rw [settingsJson, ih, List.map_cons]

/-- The value that is read from the text of a value, with room for more open containers. -/
def recover? (room : Nat) (stored : Stored) : Option Stored :=
  (stored.toJson.rereadWithin? room).bind ofJson?

theorem toOption_read (layout : Json.Layout) (stored : Stored) :
    (read (String.ofList (Json.write layout 0 stored.toJson))).toOption =
      stored.recover? Json.depthLimit := by
  have hbeginning := Json.beginning_write layout stored.toJson
  rw [read, recover?]
  cases hread : stored.toJson.rereadWithin? Json.depthLimit with
  | none =>
    rw [hread] at hbeginning
    cases hstart : Json.beginning (String.ofList (Json.write layout 0 stored.toJson)) with
    | error fault => rfl
    | ok start => rw [hstart] at hbeginning; simp [Except.toOption] at hbeginning
  | some json =>
    rw [hread] at hbeginning
    cases hstart : Json.beginning (String.ofList (Json.write layout 0 stored.toJson)) with
    | error fault => rw [hstart] at hbeginning; simp [Except.toOption] at hbeginning
    | ok start =>
      rw [hstart] at hbeginning
      obtain rfl : start = ⟨json, none⟩ := Option.some.inj hbeginning
      dsimp only [Option.bind_some]
      cases ofJson? json <;> rfl

theorem recoverItems_eq_some {room : Nat} {items : List Stored} :
    ((Json.rereadItems? room (itemsJson items)).bind fun read =>
        Roles.values? (rolesOfItems read)) = some items ↔
      ∀ item ∈ items, item.recover? room = some item := by
  induction items with
  | nil => simp [itemsJson, Json.rereadItems?, rolesOfItems, Roles.values?]
  | cons item items ih =>
    rw [List.forall_mem_cons, ← ih, recover?]
    simp only [itemsJson, Json.rereadItems?, Option.bind_eq_bind, Option.pure_def]
    cases item.toJson.rereadWithin? room with
    | none => simp
    | some first =>
      cases Json.rereadItems? room (itemsJson items) with
      | none => simp
      | some others =>
        simp only [Option.bind_some, rolesOfItems, Roles.values?, ofJson?]
        cases (rolesOf first).value <;> cases Roles.values? (rolesOfItems others) <;> simp

theorem recoverSettings_eq_some {room : Nat} {settings : List (String × Stored)} :
    ((Json.rereadMembers? room (settingsJson settings)).bind fun read =>
        Roles.properties? (rolesOfMembers read)) = some settings ↔
      ∀ e ∈ settings, e.2.recover? room = some e.2 := by
  induction settings with
  | nil => simp [settingsJson, Json.rereadMembers?, Roles.properties?]
  | cons e settings ih =>
    rw [List.forall_mem_cons, ← ih, recover?]
    simp only [settingsJson, Json.rereadMembers?, Option.bind_eq_bind, Option.pure_def]
    cases e.2.toJson.rereadWithin? room with
    | none => simp
    | some first =>
      cases Json.rereadMembers? room (settingsJson settings) with
      | none => simp
      | some others =>
        simp only [Option.bind_some, rolesOfMembers, Roles.properties?, ofJson?]
        cases (rolesOf first).value <;>
          cases Roles.properties? (rolesOfMembers others) <;> simp [Prod.ext_iff]

theorem keys_of_recoverSettings {room : Nat} {settings entries : List (String × Stored)}
    (h : ((Json.rereadMembers? room (settingsJson settings)).bind fun read =>
      Roles.properties? (rolesOfMembers read)) = some entries) :
    entries.map (·.1) = settings.map (·.1) := by
  induction settings generalizing entries with
  | nil =>
    rw [← Option.some.inj (h : some [] = some entries), List.map_nil]
  | cons e settings ih =>
    simp only [settingsJson, Json.rereadMembers?, Option.bind_eq_bind, Option.pure_def] at h
    cases hfirst : e.2.toJson.rereadWithin? room with
    | none => simp [hfirst] at h
    | some first =>
      cases hothers : Json.rereadMembers? room (settingsJson settings) with
      | none => simp [hfirst, hothers] at h
      | some others =>
        simp only [hfirst, hothers, Option.bind_some, rolesOfMembers, Roles.properties?] at h
        obtain ⟨value, -, h⟩ := Option.bind_eq_some_iff.mp h
        obtain ⟨rest, hrest, h⟩ := Option.bind_eq_some_iff.mp h
        rw [← Option.some.inj h, List.map_cons, List.map_cons, ih (by rw [hothers]; exact hrest)]

theorem recover?_node {room : Nat} {id concept : String} {settings : List (String × Stored)}
    (sorted : settings.Pairwise fun a b => a.1 < b.1) :
    (node id concept settings).recover? room = some (node id concept settings) ↔
      2 ≤ room ∧ ∀ e ∈ settings, e.2.recover? (room - 2) = some e.2 := by
  match room with
  | 0 => simp [recover?, toJson, Json.rereadWithin?]
  | 1 => simp [recover?, toJson, Json.rereadWithin?, Json.rereadMembers?]
  | room + 2 =>
    have hread : (node id concept settings).toJson.rereadWithin? (room + 2) =
        (Json.rereadMembers? room (settingsJson settings)).map fun members =>
          .object [("id", .string id), ("concept", .string concept),
            ("settings", .object members)] := by
      rw [toJson]
      simp only [Json.rereadWithin?, Json.rereadMembers?]
      cases Json.rereadMembers? room (settingsJson settings) <;> rfl
    have hrecover : (node id concept settings).recover? (room + 2) =
        ((Json.rereadMembers? room (settingsJson settings)).bind fun members =>
          Roles.properties? (rolesOfMembers members)).map fun entries =>
            .node id concept (TextMap.ofList entries).entries := by
      rw [recover?, hread]
      cases Json.rereadMembers? room (settingsJson settings) with
      | none => rfl
      | some members => exact ofJson?_node id concept members
    rw [hrecover, ← recoverSettings_eq_some, Nat.add_sub_cancel, Option.map_eq_some_iff]
    constructor
    · rintro ⟨entries, hentries, heq⟩
      -- the properties are in order already, so making a map of them changes nothing
      have hkeys : (entries.map (·.1)).Pairwise (· < ·) := by
        rw [keys_of_recoverSettings hentries]
        exact List.pairwise_map.mpr sorted
      injection heq with _ _ hsettings
      rw [TextMap.entries_ofList (List.pairwise_map.mp hkeys)] at hsettings
      exact ⟨Nat.le_add_left 2 room, hentries.trans (congrArg some hsettings)⟩
    · rintro ⟨-, hentries⟩
      exact ⟨settings, hentries, by rw [TextMap.entries_ofList sorted]⟩

def Ambiguous : List Stored → Prop
  | [] => True
  | [.text _] => True
  | [.text _, .text _] => True
  | [.text _, .text _, third] =>
    ∃ members, third.toJson = .object members ∧ ∀ m ∈ members, (ofJson? m.2).isSome = true
  | _ => False

theorem name_rolesOf (stored : Stored) :
    (rolesOf stored.toJson).name = match stored with | .text s => some s | _ => none := by
  cases stored with
  | reference target => cases target <;> rfl
  | int n =>
    rw [toJson, rolesOf, Roles.ofNumeral]
    split <;> rfl
  | float x =>
    rw [toJson, floatJson]
    split <;> rfl
  | _ => rfl

theorem target_rolesOf {stored : Stored} (h : ∀ x ∈ stored.floats, x.isFinite = true) :
    (rolesOf stored.toJson).target = match stored with | .text s => some (some s) | _ => none := by
  cases stored with
  | reference target => cases target <;> rfl
  | int n =>
    rw [toJson, rolesOf, Roles.ofNumeral]
    split <;> rfl
  | float x =>
    rw [toJson, floatJson, if_pos (h x (by simp [floats]))]
    rfl
  | _ => rfl

theorem ambiguous_iff {items : List Stored}
    (finite : ∀ item ∈ items, ∀ x ∈ item.floats, x.isFinite = true) :
    Ambiguous items ↔ (Roles.nodeOfItems? (rolesOfItems (itemsJson items))).isSome = true ∨
      (Roles.referenceOfItems? (rolesOfItems (itemsJson items))).isSome = true := by
  match items with
  | [] => simp [Ambiguous, itemsJson, rolesOfItems, Roles.referenceOfItems?]
  | [first] =>
    have htarget := target_rolesOf (finite first List.mem_cons_self)
    simp only [itemsJson, rolesOfItems, Roles.nodeOfItems?, Roles.referenceOfItems?, htarget]
    cases first <;> simp [Ambiguous]
  | [first, second] =>
    simp only [itemsJson, rolesOfItems, Roles.nodeOfItems?, Roles.referenceOfItems?,
      Roles.isSome_node?, name_rolesOf]
    cases first <;> cases second <;> simp [Ambiguous]
  | [first, second, third] =>
    simp only [itemsJson, rolesOfItems, Roles.nodeOfItems?, Roles.referenceOfItems?,
      Roles.isSome_node?, name_rolesOf, Option.all_some]
    cases first <;> cases second <;> simp [Ambiguous, isSome_settings_iff]
  | _ :: _ :: _ :: _ :: _ =>
    simp [Ambiguous, itemsJson, rolesOfItems, Roles.nodeOfItems?, Roles.referenceOfItems?]

theorem recover?_list {room : Nat} {items : List Stored}
    (finite : ∀ item ∈ items, ∀ x ∈ item.floats, x.isFinite = true) :
    (list items).recover? room = some (list items) ↔
      1 ≤ room ∧ (∀ item ∈ items, item.recover? (room - 1) = some item) ∧ ¬Ambiguous items := by
  match room with
  | 0 => simp [recover?, toJson, Json.rereadWithin?]
  | room + 1 =>
    rw [recover?, toJson, Json.rereadWithin?, Nat.add_sub_cancel, ← recoverItems_eq_some,
      ambiguous_iff finite]
    cases hread : Json.rereadItems? room (itemsJson items) with
    | none => simp
    | some read =>
      -- what the items can stand for is the same before and after reading
      have halike := alike_rereadItems? _ hread
      rw [Roles.isSome_nodeOfItems?_congr halike, Roles.isSome_referenceOfItems?_congr halike]
      refine Roles.value_ofItems_eq_list.trans ?_
      simp only [Option.bind_some, Option.isSome_iff_ne_none]
      grind

@[simp] theorem recover?_reference {room : Nat} {target : Option String} :
    (reference target).recover? room = some (reference target) ↔ 1 ≤ room := by
  match room, target with
  | 0, none => simp [recover?, toJson, Json.rereadWithin?]
  | 0, some target => simp [recover?, toJson, Json.rereadWithin?]
  | room + 1, none => exact iff_of_true rfl (Nat.le_add_left 1 room)
  | room + 1, some target => exact iff_of_true rfl (Nat.le_add_left 1 room)

@[simp] theorem recover?_int (room : Nat) (n : Int64) : (int n).recover? room = some (int n) := by
  have hlow : -twoTo 63 ≤ n.toInt := n.le_toInt
  have hhigh : n.toInt < twoTo 63 := n.toInt_lt
  have hread : (int n).toJson.rereadWithin? room = some (.number (.whole n.toInt)) := by
    rw [toJson, Json.rereadWithin?, Json.reread?_whole hlow hhigh]
    rfl
  have hvalue : ofJson? (.number (.whole n.toInt)) = some (.int n) := by
    simp [ofJson?, rolesOf, Roles.ofNumeral, Roles.only, hlow, hhigh]
  rw [recover?, hread]
  exact hvalue

theorem recover?_float {x : Binary64} (h : x.isFinite = true) (room : Nat) :
    (float x).recover? room =
      (Json.reread? (.real x)).bind fun n => ofJson? (.number n) := by
  rw [recover?, toJson, floatJson, if_pos h, Json.rereadWithin?, Option.bind_map]
  rfl

mutual

def lists : Stored → List (List Stored)
  | .node _ _ settings => listsOfSettings settings
  | .list items => items :: listsOfItems items
  | _ => []

def listsOfItems : List Stored → List (List Stored)
  | [] => []
  | item :: items => item.lists ++ listsOfItems items

def listsOfSettings : List (String × Stored) → List (List Stored)
  | [] => []
  | (_, item) :: settings => item.lists ++ listsOfSettings settings

end

@[simp] theorem listsOfItems_eq (items : List Stored) :
    listsOfItems items = items.flatMap lists := by
  induction items with
  | nil => rfl
  | cons item items ih => rw [listsOfItems, ih, List.flatMap_cons]

@[simp] theorem listsOfSettings_eq (settings : List (String × Stored)) :
    listsOfSettings settings = settings.flatMap fun e => e.2.lists := by
  induction settings with
  | nil => rfl
  | cons e settings ih => rw [listsOfSettings, ih, List.flatMap_cons]

theorem depth_node_le {id concept : String} {settings : List (String × Stored)} {room : Nat} :
    (node id concept settings).toJson.depth ≤ room ↔
      2 ≤ room ∧ ∀ e ∈ settings, e.2.toJson.depth ≤ room - 2 := by
  have hdepth : (node id concept settings).toJson.depth =
      Json.depthOfMembers (settingsJson settings) + 2 := by
    simp [toJson, Json.depth, Json.depthOfMembers]
  have hsettings : Json.depthOfMembers (settingsJson settings) ≤ room - 2 ↔
      ∀ e ∈ settings, e.2.toJson.depth ≤ room - 2 := by
    rw [Json.depthOfMembers_le, settingsJson_eq, List.forall_mem_map]
  rw [hdepth, ← hsettings]
  omega

theorem depth_list_le {items : List Stored} {room : Nat} :
    (list items).toJson.depth ≤ room ↔
      1 ≤ room ∧ ∀ item ∈ items, item.toJson.depth ≤ room - 1 := by
  have hitems : Json.depthOfItems (itemsJson items) ≤ room - 1 ↔
      ∀ item ∈ items, item.toJson.depth ≤ room - 1 := by
    rw [Json.depthOfItems_le, itemsJson_eq, List.forall_mem_map]
  rw [toJson, Json.depth, ← hitems]
  omega

theorem forall_parts {α : Type} {parts : List α} {shallow : α → Prop} {numbers : α → List Binary64}
    {lists : α → List (List Stored)} {P : Binary64 → Prop} {Q : List Stored → Prop} :
    (∀ e ∈ parts, shallow e ∧ (∀ x ∈ numbers e, P x) ∧ ∀ items ∈ lists e, Q items) ↔
      (∀ e ∈ parts, shallow e) ∧ (∀ x ∈ parts.flatMap numbers, P x) ∧
        ∀ items ∈ parts.flatMap lists, Q items := by
  simp only [List.forall_mem_flatMap, forall₂_and]

/-- A stored value is recovered if there is room for it, all its numbers are, and none of its
lists is ambiguous. -/
theorem recover?_eq_some {stored : Stored} (sorted : stored.Sorted)
    (finite : ∀ x ∈ stored.floats, x.isFinite = true) (room : Nat) :
    stored.recover? room = some stored ↔
      stored.toJson.depth ≤ room ∧
        (∀ x ∈ stored.floats,
          ((Json.reread? (.real x)).bind fun n => ofJson? (.number n)) = some (float x)) ∧
        ∀ items ∈ stored.lists, ¬Ambiguous items := by
  induction stored using Stored.induction generalizing room with
  | node id concept settings ih =>
    rw [sorted_node_iff] at sorted
    rw [floats_node, List.flatMap_map] at finite ⊢
    have hfinite := List.forall_mem_flatMap.mp finite
    have hparts := forall₂_congr fun e he => ih e he (sorted.2 e he) (hfinite e he) (room - 2)
    rw [recover?_node sorted.1, hparts, forall_parts, depth_node_le, lists, listsOfSettings_eq,
      and_assoc]
  | list items ih =>
    rw [sorted_list_iff] at sorted
    rw [floats_list] at finite ⊢
    have hfinite := List.forall_mem_flatMap.mp finite
    have hparts := forall₂_congr fun item hitem =>
      ih item hitem (sorted item hitem) (hfinite item hitem) (room - 1)
    -- the list itself is one of the lists that must not be ambiguous
    rw [recover?_list hfinite, hparts, forall_parts, depth_list_le, lists, listsOfItems_eq,
      List.forall_mem_cons]
    tauto
  | reference target =>
    rw [recover?_reference]
    cases target <;> simp [toJson, Json.depth, Json.depthOfMembers, floats, lists]
  | bool b => simp [recover?, toJson, Json.rereadWithin?, ofJson?, rolesOf, Roles.only, Json.depth,
      floats, lists]
  | int n => simp [toJson, Json.depth, floats, lists]
  | float x =>
    have hfinite : x.isFinite = true := finite x (by simp [floats])
    rw [recover?_float hfinite]
    simp [toJson, floatJson, hfinite, Json.depth, floats, lists]
  | text s => simp [recover?, toJson, Json.rereadWithin?, ofJson?, rolesOf, Roles.ofText, Json.depth,
      floats, lists]

structure Legible (stored : Stored) : Prop where
  shallow : stored.toJson.depth ≤ Json.depthLimit
  numbers : ∀ x ∈ stored.floats, read (float x).compactText = .ok (float x)
  lists : ∀ items ∈ stored.lists, ¬Ambiguous items

theorem read_eq_ok {layout : Json.Layout} {stored found : Stored} :
    read (String.ofList (Json.write layout 0 stored.toJson)) = .ok found ↔
      stored.recover? Json.depthLimit = some found := by
  rw [← toOption_read layout]
  cases read (String.ofList (Json.write layout 0 stored.toJson)) <;> simp [Except.toOption]

theorem compactText_eq (stored : Stored) :
    stored.compactText = String.ofList (Json.write .dense 0 stored.toJson) := by
  rw [compactText, Json.compact_eq 0]

theorem prettyText_eq (stored : Stored) :
    stored.prettyText = String.ofList (Json.write .indented 0 stored.toJson) := by
  rw [prettyText, Json.pretty_eq]

theorem read_float {x : Binary64} (h : x.isFinite = true) :
    read (float x).compactText = .ok (float x) ↔
      ((Json.reread? (.real x)).bind fun n => ofJson? (.number n)) = some (float x) := by
  rw [compactText_eq, read_eq_ok, recover?_float h]

theorem read_write_iff {stored : Stored} (sorted : stored.Sorted)
    (finite : ∀ x ∈ stored.floats, x.isFinite = true) (layout : Json.Layout) :
    read (String.ofList (Json.write layout 0 stored.toJson)) = .ok stored ↔ stored.Legible := by
  rw [read_eq_ok, recover?_eq_some sorted finite]
  constructor
  · rintro ⟨hdepth, hnumbers, hlists⟩
    exact ⟨hdepth, fun x hx => (read_float (finite x hx)).mpr (hnumbers x hx), hlists⟩
  · rintro ⟨hdepth, hnumbers, hlists⟩
    exact ⟨hdepth, fun x hx => (read_float (finite x hx)).mp (hnumbers x hx), hlists⟩

end Stored

theorem Value.finite_saveWith {child : NodeId → Stored}
    (hchild : ∀ id, ∀ x ∈ (child id).floats, x.isFinite = true) {value : Value}
    (h : value.isFinite = true) : ∀ x ∈ (value.saveWith child).floats, x.isFinite = true := by
  induction value using Value.induction with
  | node id => exact hchild id
  | float y =>
    rw [saveWith, Stored.floats, List.forall_mem_singleton]
    exact h
  | list items ih =>
    rw [saveWith, saveAllWith_eq, Stored.floats_list, List.flatMap_map]
    rw [isFinite, allFinite_eq, List.all_eq_true] at h
    intro x hx
    obtain ⟨item, hitem, hx⟩ := List.mem_flatMap.mp hx
    exact ih item hitem (h item hitem) x hx
  | _ => simp [saveWith, Stored.floats]

namespace Document

variable {doc : Document}

theorem finite_saveIdWithin (wf : doc.WellFormed) (depth : Nat) (id : NodeId) :
    ∀ x ∈ (doc.saveIdWithin depth id).floats, x.isFinite = true := by
  induction depth generalizing id with
  | zero => simp [saveIdWithin, Stored.floats]
  | succ depth ih =>
    rw [saveIdWithin]
    split
    next node hget =>
      rw [Stored.floats_node, List.map_map, List.flatMap_map]
      intro x hx
      obtain ⟨e, he, hx⟩ := List.mem_flatMap.mp hx
      exact Value.finite_saveWith ih (wf.finite hget e.2 (List.mem_map_of_mem he)) x hx
    next => simp [Stored.floats]

theorem ofText_eq_ok {text : String} {stored : Stored} {loaded : Document} (sorted : stored.Sorted)
    (hload : load stored = .ok loaded) :
    ofText text = .ok loaded ↔ Stored.read text = .ok stored := by
  constructor
  · intro h
    unfold ofText at h
    split at h
    next found hread =>
      rw [hread, ← save_load h (Stored.sorted_of_read hread), save_load hload sorted]
    next => contradiction
  · intro hread
    rw [ofText, hread]
    exact hload

theorem ofText_write_iff (wf : doc.WellFormed) (layout : Json.Layout) :
    ofText (String.ofList (Json.write layout 0 doc.save.toJson)) = load doc.save ↔
      doc.save.Legible := by
  have hsorted : doc.save.Sorted := sorted_saveIdWithin _ _
  rw [load_save wf.toForest, ofText_eq_ok hsorted (load_save wf.toForest)]
  exact Stored.read_write_iff hsorted (finite_saveIdWithin wf _ _) layout

/-- Loading a document from one of its texts succeeds and gives what loading its stored form gives
exactly if that form is legible. -/
theorem ofText_save_iff (h : doc.Reachable) :
    ∃ loaded, load doc.save = .ok loaded ∧
      (ofText doc.save.compactText = .ok loaded ↔ doc.save.Legible) ∧
      (ofText doc.save.prettyText = .ok loaded ↔ doc.save.Legible) := by
  have hload := load_save h.wellFormed.toForest
  refine ⟨doc.prune, hload, ?_, ?_⟩
  · rw [Stored.compactText_eq, ← hload, ofText_write_iff h.wellFormed]
  · rw [Stored.prettyText_eq, ← hload, ofText_write_iff h.wellFormed]

theorem ofText_save_iff_nested :
    let doc := ((Document.new "r" "Record Type").after
      (.create "a" "Number" (.ofList [("value", .float ⟨0x3fe0000000000000⟩)]))).after
      (.assign "r" "parts" (some (.list [.node "a", .list [.int 7], .text "x", .reference none])))
    doc.Reachable ∧ ∃ loaded, load doc.save = .ok loaded ∧
      ofText doc.save.compactText = .ok loaded ∧ ofText doc.save.prettyText = .ok loaded := by
  intro doc
  have hdoc : doc.Reachable :=
    .edited _ (.edited _ (.new "r" "Record Type") (by decide +kernel)) trivial
  have hsave : doc.save = .node "r" "Record Type" [("parts", .list [
      .node "a" "Number" [("value", .float ⟨0x3fe0000000000000⟩)], .list [.int 7], .text "x",
      .reference none])] := rfl
  -- one half is written as `0.5`, which is read exactly
  have hhalf : Json.reread? (.real ⟨0x3fe0000000000000⟩) = some (.real ⟨0x3fe0000000000000⟩) := by
    decide +kernel
  have hlegible : doc.save.Legible := by
    rw [hsave]
    refine ⟨by decide, ?_, ?_⟩
    · simp only [Stored.floats, Stored.floatsOfSettings, Stored.floatsOfItems, List.append_nil,
        List.forall_mem_singleton]
      exact (Stored.read_float (by decide)).mpr (by rw [hhalf]; rfl)
    · simp [Stored.lists, Stored.listsOfSettings, Stored.listsOfItems, Stored.Ambiguous]
  obtain ⟨loaded, hload, hcompact, hpretty⟩ := ofText_save_iff hdoc
  exact ⟨hdoc, loaded, hload, hcompact.mpr hlegible, hpretty.mpr hlegible⟩

/-- The empty list, the number `1e-23` and lists nested 126 deep in a setting of the root. -/
theorem ofText_save_ne_load :
    let lone := fun value =>
      (Document.new "r" "Record Type").after (.assign "r" "xs" (some value))
    ∀ value ∈ [Value.list [], .float ⟨4262707295203537489⟩,
        Nat.repeat (fun inner => Value.list [inner]) 126 (.int 0)],
      (lone value).Reachable ∧
        ofText (lone value).save.compactText ≠ load (lone value).save ∧
        ofText (lone value).save.prettyText ≠ load (lone value).save := by
  intro lone
  have hlone (value : Value) : (lone value).Reachable := .edited _ (.new "r" "Record Type") trivial
  have hillegible (value : Value) (h : ¬(lone value).save.Legible) : (lone value).Reachable ∧
      ofText (lone value).save.compactText ≠ load (lone value).save ∧
      ofText (lone value).save.prettyText ≠ load (lone value).save := by
    refine ⟨hlone value, fun heq => h ?_, fun heq => h ?_⟩
    · rw [Stored.compactText_eq] at heq
      exact (ofText_write_iff (hlone value).wellFormed .dense).mp heq
    · rw [Stored.prettyText_eq] at heq
      exact (ofText_write_iff (hlone value).wellFormed .indented).mp heq
  simp only [List.forall_mem_cons]
  refine ⟨hillegible _ fun h => ?_, hillegible _ fun h => ?_, hillegible _ fun h => ?_, by simp⟩
  · have hsave : (lone (.list [])).save = .node "r" "Record Type" [("xs", .list [])] := rfl
    rw [hsave] at h
    exact h.lists [] (by simp [Stored.lists, Stored.listsOfSettings, Stored.listsOfItems]) trivial
  · have hsave : (lone (.float ⟨4262707295203537489⟩)).save =
        .node "r" "Record Type" [("xs", .float ⟨4262707295203537489⟩)] := rfl
    have hnext : Json.reread? (.real ⟨4262707295203537489⟩) =
        some (.real ⟨4262707295203537490⟩) := by decide +kernel
    rw [hsave] at h
    have hread := (Stored.read_float (by decide)).mp
      (h.numbers ⟨4262707295203537489⟩ (by simp [Stored.floats, Stored.floatsOfSettings]))
    rw [hnext] at hread
    injection hread with hread
    injection hread with hread
    exact absurd hread (by decide)
  · exact absurd h.shallow (by decide +kernel)

end Document

end RecordForms
