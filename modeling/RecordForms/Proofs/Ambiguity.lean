import RecordForms.Proofs.Legible

/-! Which lists make a text ambiguous. A list whose items could be the fields of a node or of a
reference is read as one, and whether a third item could be settings can be told from its shape. -/
namespace RecordForms.Stored

/-- Whether a value is written as an object whose members are all values, so that it can be taken
for the settings of a node. The settings below it are those of a node or of a reference in turn. -/
def isSettingsLike : Stored → Bool
  | .reference target => target.isSome
  | .node _ _ [] => true
  | .node _ _ [("refId", .text _)] => true
  | .node _ _ [("concept", .text _), ("id", .text _)] => true
  | .node _ _ [("concept", .text _), ("id", .text _), ("settings", inner)] => inner.isSettingsLike
  | _ => false

/-- Whether the items of a list can be taken for the fields of a node or of a reference. -/
def isAmbiguous : List Stored → Bool
  | [] => true
  | [.text _] => true
  | [.text _, .text _] => true
  | [.text _, .text _, third] => third.isSettingsLike
  | _ => false

variable {settings : List (String × Stored)}

@[simp] theorem lookup_rolesOfMembers (settings : List (String × Stored)) (name : String) :
    (rolesOfMembers (settingsJson settings)).lookup name =
      (settings.lookup name).map fun value => rolesOf value.toJson := by
  induction settings with
  | nil => rfl
  | cons e settings ih =>
    obtain ⟨property, value⟩ := e
    rw [settingsJson, rolesOfMembers, List.lookup_cons, List.lookup_cons, ih]
    cases name == property <;> rfl

theorem fieldsAmong_iff (sorted : settings.Pairwise fun a b => a.1 < b.1) (names : List String) :
    Roles.fieldsAmong names (rolesOfMembers (settingsJson settings)) = true ↔
      ∀ e ∈ settings, e.1 ∈ names := by
  have hkeys : (rolesOfMembers (settingsJson settings)).map (·.1) = settings.map (·.1) := by
    rw [settingsJson_eq, rolesOfMembers_eq, List.map_map, List.map_map]
    rfl
  have hnodup : (settings.map (·.1)).Nodup := by
    apply (List.pairwise_map.mpr sorted).imp
    rintro a b hlt rfl
    exact String.lt_irrefl a hlt
  simp only [Roles.fieldsAmong, hkeys, hnodup, decide_true, Bool.and_true, List.all_eq_true,
    List.contains_iff_mem, List.forall_mem_map]

theorem text_of_name {value : Stored} (h : (rolesOf value.toJson).name.isSome = true) :
    ∃ s, value = .text s := by
  rw [name_rolesOf] at h
  cases value with
  | text s => exact ⟨s, rfl⟩
  | _ => contradiction

theorem text_of_target {value : Stored} (whole : value.floats = [])
    (h : (rolesOf value.toJson).target.isSome = true) : ∃ s, value = .text s := by
  rw [target_rolesOf (by simp [whole])] at h
  cases value with
  | text s => exact ⟨s, rfl⟩
  | _ => contradiction

theorem exists_text {name : String}
    (h : (((settings.lookup name).map fun value => rolesOf value.toJson).map
      (·.name.isSome)).getD false = true) :
    ∃ s, settings.lookup name = some (.text s) := by
  cases hvalue : settings.lookup name with
  | none => simp [hvalue] at h
  | some value =>
    rw [hvalue] at h
    obtain ⟨s, rfl⟩ := text_of_name h
    exact ⟨s, rfl⟩

theorem settings_eq (sorted : settings.Pairwise fun a b => a.1 < b.1)
    {entries : List (String × Stored)} (hkeys : (entries.map (·.1)).Pairwise (· < ·))
    (hfields : ∀ e ∈ settings, e.1 ∈ entries.map (·.1))
    (hvalues : ∀ e ∈ entries, settings.lookup e.1 = some e.2) : settings = entries := by
  apply TextMap.entries_eq sorted (List.pairwise_map.mp hkeys)
  intro e
  constructor
  · intro he
    obtain ⟨entry, hentry, hkey⟩ := List.mem_map.mp (hfields e he)
    have hlookup := TextMap.lookup_of_mem sorted he
    rw [← hkey, hvalues entry hentry] at hlookup
    rwa [show e = entry from Prod.ext hkey.symm (Option.some.inj hlookup).symm]
  · intro he
    exact TextMap.mem_of_lookup (hvalues e he)

theorem isSome_nodeOfMembers?_iff (sorted : settings.Pairwise fun a b => a.1 < b.1) :
    (Roles.nodeOfMembers? (rolesOfMembers (settingsJson settings))).isSome = true ↔
      ∃ concept id, settings = [("concept", .text concept), ("id", .text id)] ∨
        ∃ inner, settings = [("concept", .text concept), ("id", .text id), ("settings", inner)] ∧
          (rolesOf inner.toJson).settings.isSome = true := by
  rw [Roles.isSome_nodeOfMembers?]
  simp only [Bool.and_eq_true, fieldsAmong_iff sorted, lookup_rolesOfMembers]
  constructor
  · rintro ⟨⟨⟨hfields, hinner⟩, hid⟩, hconcept⟩
    obtain ⟨id, hid⟩ := exists_text hid
    obtain ⟨concept, hconcept⟩ := exists_text hconcept
    refine ⟨concept, id, ?_⟩
    cases hsettings : settings.lookup "settings" with
    | none =>
      left
      have hkeys : ["concept", "id"].Pairwise (· < ·) := by decide
      refine settings_eq sorted hkeys ?_ ?_
      · intro e he
        have hlookup := TextMap.lookup_of_mem sorted he
        have hfield := hfields e he
        simp only [List.mem_cons, List.not_mem_nil, or_false] at hfield
        rcases hfield with hkey | hkey | hkey
        · simp [hkey]
        · simp [hkey]
        · simp [hkey, hsettings] at hlookup
      · simp [hid, hconcept]
    | some inner =>
      right
      have hkeys : ["concept", "id", "settings"].Pairwise (· < ·) := by decide
      refine ⟨inner, settings_eq sorted hkeys ?_ ?_, by simpa [hsettings] using hinner⟩
      · intro e he
        have hfield := hfields e he
        simp only [List.mem_cons, List.not_mem_nil, or_false] at hfield
        simp only [List.map_cons, List.map_nil, List.mem_cons, List.not_mem_nil, or_false]
        tauto
      · simp [hid, hconcept, hsettings]
  · rintro ⟨concept, id, rfl | ⟨inner, rfl, hinner⟩⟩
    · simp [rolesOf, Roles.ofText, toJson, List.lookup_cons]
    · simp [rolesOf, Roles.ofText, toJson, List.lookup_cons, hinner]

theorem isSome_referenceOfMembers?_iff (sorted : settings.Pairwise fun a b => a.1 < b.1)
    (whole : ∀ e ∈ settings, e.2.floats = []) :
    (Roles.referenceOfMembers? (rolesOfMembers (settingsJson settings))).isSome = true ↔
      settings = [] ∨ ∃ target, settings = [("refId", .text target)] := by
  rw [Roles.isSome_referenceOfMembers?, Bool.and_eq_true, fieldsAmong_iff sorted,
    lookup_rolesOfMembers]
  constructor
  · rintro ⟨hfields, htarget⟩
    cases hvalue : settings.lookup "refId" with
    | none =>
      left
      apply List.eq_nil_iff_forall_not_mem.mpr
      intro e he
      have hlookup := TextMap.lookup_of_mem sorted he
      rw [List.mem_singleton.mp (hfields e he), hvalue] at hlookup
      contradiction
    | some value =>
      have hmem := TextMap.mem_of_lookup hvalue
      rw [hvalue] at htarget
      obtain ⟨target, rfl⟩ := text_of_target (whole _ hmem) htarget
      exact .inr ⟨target, settings_eq sorted (List.pairwise_singleton _ _) hfields
        (by simpa using hvalue)⟩
  · rintro (rfl | ⟨target, rfl⟩)
    · simp
    · simp [rolesOf, Roles.ofText, toJson]

theorem isSettingsLike_node {id concept : String} :
    (node id concept settings).isSettingsLike = true ↔
      (∃ concept id, settings = [("concept", .text concept), ("id", .text id)] ∨
        ∃ inner, settings = [("concept", .text concept), ("id", .text id), ("settings", inner)] ∧
          inner.isSettingsLike = true) ∨
      settings = [] ∨ ∃ target, settings = [("refId", .text target)] := by
  constructor
  · intro h
    unfold isSettingsLike at h
    split at h
    next heq => cases heq
    next heq => cases heq; simp
    next heq => cases heq; simp
    next heq => cases heq; simp
    next heq => cases heq; simpa using h
    next => contradiction
  · rintro (⟨concept, id, rfl | ⟨inner, rfl, hinner⟩⟩ | rfl | ⟨target, rfl⟩)
    · rfl
    · rw [isSettingsLike, hinner]
    · rfl
    · rfl

@[simp] theorem isSome_settings_object (members : List (String × Json)) :
    (rolesOf (.object members)).settings.isSome =
      members.all fun member => (ofJson? member.2).isSome := by
  rw [rolesOf, Roles.ofMembers, Option.isSome_map, Roles.isSome_properties?, rolesOfMembers_eq,
    List.all_map]
  rfl

theorem isSome_settings_rolesOf {stored : Stored} (sorted : stored.Sorted)
    (whole : stored.floats = []) :
    (rolesOf stored.toJson).settings.isSome = true ↔ stored.isSettingsLike = true := by
  induction stored using Stored.induction with
  | node id concept settings ih =>
    rw [sorted_node_iff] at sorted
    rw [floats_node, List.flatMap_map, List.flatMap_eq_nil_iff] at whole
    -- the id and the concept are texts, so all depends on the settings
    have hmembers : (rolesOf (node id concept settings).toJson).settings.isSome =
        (ofJson? (.object (settingsJson settings))).isSome := by
      rw [toJson, isSome_settings_object]
      exact Bool.and_true _
    rw [hmembers, ofJson?, rolesOf, Roles.ofMembers, Option.isSome_or, Bool.or_eq_true,
      isSome_nodeOfMembers?_iff sorted.1, isSome_referenceOfMembers?_iff sorted.1 whole,
      isSettingsLike_node]
    refine or_congr_left (exists₂_congr fun concept id => or_congr_right (exists_congr fun inner =>
      and_congr_right fun hsettings => ?_))
    have hmem : ("settings", inner) ∈ settings := by simp [hsettings]
    exact ih _ hmem (sorted.2 _ hmem) (whole _ hmem)
  | reference target =>
    cases target with
    | none => exact iff_of_false (by decide) (by decide)
    | some target => exact iff_of_true rfl rfl
  | int n =>
    rw [toJson, rolesOf, Roles.ofNumeral]
    split <;> simp [Roles.only, isSettingsLike]
  | float x => contradiction
  | list items => simp [toJson, rolesOf, Roles.ofItems, Roles.only, isSettingsLike]
  | bool b => simp [toJson, rolesOf, Roles.only, isSettingsLike]
  | text s => simp [toJson, rolesOf, Roles.ofText, isSettingsLike]

theorem isAmbiguous_iff {items : List Stored} (sorted : ∀ item ∈ items, item.Sorted)
    (whole : ∀ item ∈ items, item.floats = []) : isAmbiguous items = true ↔ Ambiguous items := by
  unfold isAmbiguous
  split
  next => simp [Ambiguous]
  next => simp [Ambiguous]
  next => simp [Ambiguous]
  next third =>
    rw [Ambiguous, ← isSome_settings_iff]
    exact (isSome_settings_rolesOf (sorted third (by simp)) (whole third (by simp))).symm
  next h₁ h₂ h₃ h₄ => rw [Ambiguous.eq_5 items h₁ h₂ h₃ h₄]; simp

theorem plain_of_mem_lists {stored : Stored} (sorted : stored.Sorted) (whole : stored.floats = []) :
    ∀ items ∈ stored.lists, ∀ item ∈ items, item.Sorted ∧ item.floats = [] := by
  induction stored using Stored.induction with
  | node id concept settings ih =>
    rw [sorted_node_iff] at sorted
    rw [floats_node, List.flatMap_map, List.flatMap_eq_nil_iff] at whole
    rw [lists, listsOfSettings_eq, List.forall_mem_flatMap]
    exact fun e he => ih e he (sorted.2 e he) (whole e he)
  | list items ih =>
    rw [sorted_list_iff] at sorted
    rw [floats_list, List.flatMap_eq_nil_iff] at whole
    rw [lists, listsOfItems_eq, List.forall_mem_cons, List.forall_mem_flatMap]
    exact ⟨fun item hitem => ⟨sorted item hitem, whole item hitem⟩,
      fun item hitem => ih item hitem (sorted item hitem) (whole item hitem)⟩
  | _ => simp [lists]

/-- A value without numbers with a point that is not nested too deeply is read back from each of
its texts exactly if none of its lists is ambiguous, and the shape of a list tells whether it is. -/
theorem read_texts_iff_unambiguous {stored : Stored} (sorted : stored.Sorted)
    (whole : stored.floats = []) (shallow : stored.toJson.depth ≤ Json.depthLimit) :
    (read stored.compactText = .ok stored ↔ ∀ items ∈ stored.lists, ¬Ambiguous items) ∧
      (read stored.prettyText = .ok stored ↔ ∀ items ∈ stored.lists, ¬Ambiguous items) ∧
      ∀ items ∈ stored.lists, (Ambiguous items ↔ isAmbiguous items = true) := by
  have hlegible : stored.Legible ↔ ∀ items ∈ stored.lists, ¬Ambiguous items :=
    ⟨Legible.lists, fun hlists => ⟨shallow, by simp [whole], hlists⟩⟩
  have hread (layout : Json.Layout) :=
    (read_write_iff sorted (by simp [whole]) layout).trans hlegible
  refine ⟨?_, ?_, fun items hitems => ?_⟩
  · rw [compactText_eq]
    exact hread .dense
  · rw [prettyText_eq]
    exact hread .indented
  · have hplain := plain_of_mem_lists sorted whole items hitems
    exact (isAmbiguous_iff (fun item hitem => (hplain item hitem).1)
      fun item hitem => (hplain item hitem).2).symm

/-- A third item that is a node with a number under `refId` keeps a list a list; with a text there
the list is read as a node. -/
theorem read_texts_iff_unambiguous_third :
    let triple := fun inner : Stored =>
      list [.text "a", .text "b", .node "n" "Number" [("refId", inner)]]
    ((triple (.int 7)).Sorted ∧ (triple (.int 7)).floats = [] ∧
      (triple (.int 7)).toJson.depth ≤ Json.depthLimit ∧
      read (triple (.int 7)).compactText = .ok (triple (.int 7)) ∧
      read (triple (.int 7)).prettyText = .ok (triple (.int 7))) ∧
    ((triple (.text "x")).Sorted ∧ (triple (.text "x")).floats = [] ∧
      (triple (.text "x")).toJson.depth ≤ Json.depthLimit ∧
      read (triple (.text "x")).compactText ≠ .ok (triple (.text "x")) ∧
      read (triple (.text "x")).prettyText ≠ .ok (triple (.text "x"))) := by
  intro triple
  have hsorted (inner : Stored) (h : inner.Sorted) : (triple inner).Sorted := by
    simp [triple, Sorted, SortedItems, SortedSettings, h]
  have hlists (inner : Stored) (h : inner.lists = []) : (triple inner).lists =
      [[.text "a", .text "b", .node "n" "Number" [("refId", inner)]]] := by
    simp [triple, lists, listsOfItems, listsOfSettings, h]
  obtain ⟨hcompact, hpretty, hshape⟩ := read_texts_iff_unambiguous (hsorted (.int 7) trivial) rfl
    (by decide)
  obtain ⟨hcompact', hpretty', hshape'⟩ := read_texts_iff_unambiguous
    (hsorted (.text "x") trivial) rfl (by decide)
  rw [hlists _ rfl, List.forall_mem_singleton] at hcompact hpretty hshape hcompact' hpretty' hshape'
  refine ⟨⟨hsorted _ trivial, rfl, by decide, hcompact.mpr ?_, hpretty.mpr ?_⟩,
    hsorted _ trivial, rfl, by decide, fun h => hcompact'.mp h ?_, fun h => hpretty'.mp h ?_⟩
  · exact fun h => absurd (hshape.mp h) (by decide)
  · exact fun h => absurd (hshape.mp h) (by decide)
  · exact hshape'.mpr (by decide)
  · exact hshape'.mpr (by decide)

end RecordForms.Stored
