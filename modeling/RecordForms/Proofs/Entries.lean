import Mathlib.Data.List.Nodup
import RecordForms.TextMap

/-! Entries of maps by place. Setting or removing a key changes one place, so what is counted over
all values changes by what is counted at that place. -/
namespace RecordForms.TextMap

universe u

variable {α : Type u}

theorem lookup_of_lt {entries : List (String × α)} {key : String} (h : ∀ e ∈ entries, key < e.1) :
    entries.lookup key = none := by
  induction entries with
  | nil => rfl
  | cons entry rest ih =>
    have hne : (key == entry.1) = false := by
      have hlt := h entry List.mem_cons_self
      simpa using fun heq : key = entry.1 => String.lt_irrefl key (heq ▸ hlt)
    rw [List.lookup_cons, hne]
    exact ih fun e he => h e (List.mem_cons_of_mem _ he)

theorem filter_of_lt {entries : List (String × α)} {key : String} (h : ∀ e ∈ entries, key < e.1) :
    entries.filter (fun e => e.1 != key) = entries := by
  apply List.filter_eq_self.mpr
  intro e he
  have hlt := h e he
  simpa using fun heq : e.1 = key => String.lt_irrefl key (heq ▸ hlt)

theorem insertEntry_split (key : String) (value : α) {entries : List (String × α)}
    (increasing : entries.Pairwise fun a b => a.1 < b.1) :
    ∃ front back, entries = front ++ ((entries.lookup key).map (key, ·)).toList ++ back ∧
      insertEntry key value entries = front ++ (key, value) :: back ∧
      entries.filter (fun e => e.1 != key) = front ++ back := by
  induction entries with
  | nil => exact ⟨[], [], rfl, rfl, rfl⟩
  | cons entry rest ih =>
    obtain ⟨k, v⟩ := entry
    obtain ⟨hhead, hrest⟩ := List.pairwise_cons.mp increasing
    simp only [insertEntry]
    split
    next hlt =>
      have hall : ∀ e ∈ (k, v) :: rest, key < e.1 := by
        intro e he
        rcases List.mem_cons.mp he with rfl | he
        · exact hlt
        · exact String.lt_trans hlt (hhead e he)
      exact ⟨[], (k, v) :: rest, by simp [lookup_of_lt hall], rfl, filter_of_lt hall⟩
    next hlt =>
      split
      next heq =>
        subst heq
        exact ⟨[], rest, by simp, rfl, by simp [filter_of_lt hhead]⟩
      next hne =>
        obtain ⟨front, back, hentries, hinsert, hfilter⟩ := ih hrest
        have hkey : (key == k) = false := by simpa using hne
        refine ⟨(k, v) :: front, back, ?_, by rw [hinsert]; rfl, ?_⟩
        · rw [List.lookup_cons, hkey, List.cons_append, List.cons_append, ← hentries]
        · simp [hfilter, Ne.symm hne]

theorem values_split (map : TextMap α) (key : String) (value : α) :
    ∃ front back, map.values = front ++ (map.get? key).toList ++ back ∧
      (map.insert key value).values = front ++ value :: back ∧
      (map.erase key).values = front ++ back := by
  obtain ⟨front, back, hentries, hinsert, hfilter⟩ := insertEntry_split key value map.increasing
  refine ⟨front.map (·.2), back.map (·.2), ?_, ?_, ?_⟩
  · refine (congrArg (List.map Prod.snd) hentries).trans ?_
    cases hget : map.entries.lookup key <;> simp [get?, hget]
  · simp [values, insert, hinsert]
  · simp [values, erase, filter, hfilter]

theorem count_insert {β : Type} [DecidableEq β] (f : α → List β) (map : TextMap α) (key : String)
    (value : α) (b : β) :
    ((map.insert key value).values.flatMap f).count b + ((map.get? key).elim [] f).count b =
      (map.values.flatMap f).count b + (f value).count b := by
  obtain ⟨front, back, hvalues, hinsert, -⟩ := values_split map key value
  rw [hvalues, hinsert]
  cases map.get? key with
  | none => simp; omega
  | some old => simp; omega

theorem count_erase {β : Type} [DecidableEq β] (f : α → List β) (map : TextMap α) (key : String)
    (b : β) :
    ((map.erase key).values.flatMap f).count b + ((map.get? key).elim [] f).count b =
      (map.values.flatMap f).count b := by
  cases hget : map.get? key with
  | none =>
    have herase : map.erase key = map := ext_get? fun k => by
      rw [get?_erase]
      split
      next h => rw [h, hget]
      next => rfl
    simp [herase]
  | some old =>
    obtain ⟨front, back, hvalues, -, herase⟩ := values_split map key old
    rw [hvalues, herase, hget]
    simp
    omega

theorem count_le_values {β : Type} [DecidableEq β] (f : α → List β) (map : TextMap α)
    (key : String) (b : β) :
    ((map.get? key).elim [] f).count b ≤ (map.values.flatMap f).count b :=
  Nat.le.intro ((Nat.add_comm _ _).trans (count_erase f map key b))

@[simp] theorem mem_values {map : TextMap α} {value : α} :
    value ∈ map.values ↔ ∃ key, map.get? key = some value := by
  simp [values, ← mem_entries_iff]

@[simp] theorem mem_keys {map : TextMap α} {key : String} :
    key ∈ map.keys ↔ map.contains key = true := by
  simp [keys, contains, Option.isSome_iff_exists, ← mem_entries_iff]

@[simp] theorem length_keys (map : TextMap α) : map.keys.length = map.size := by
  simp [keys, size]

theorem nodup_keys (map : TextMap α) : map.keys.Nodup := by
  refine List.pairwise_map.mpr (map.increasing.imp ?_)
  intro a b hlt heq
  exact String.lt_irrefl a.1 (heq ▸ hlt)

@[simp] theorem keys_filter (keep : String → Bool) (map : TextMap α) :
    (map.filter keep).keys = map.keys.filter keep :=
  List.filter_map.symm

theorem length_le_size {map : TextMap α} {keys : List String} (nodup : keys.Nodup)
    (h : ∀ key ∈ keys, map.contains key = true) : keys.length ≤ map.size := by
  rw [← length_keys]
  exact nodup.length_le_of_subset fun key hkey => mem_keys.mpr (h key hkey)

theorem sublist_values_filter (keep : String → Bool) (map : TextMap α) :
    (map.filter keep).values.Sublist map.values :=
  List.filter_sublist.map _

theorem values_erase_subset {map : TextMap α} {key : String} {value : α}
    (h : value ∈ (map.erase key).values) : value ∈ map.values :=
  (sublist_values_filter _ map).subset h

theorem mem_values_insert {map : TextMap α} {key : String} {value v : α}
    (h : v ∈ (map.insert key value).values) : v = value ∨ v ∈ map.values := by
  obtain ⟨k, hk⟩ := mem_values.mp h
  rw [get?_insert] at hk
  split at hk
  · exact .inl (Option.some.inj hk).symm
  · exact .inr (mem_values.mpr ⟨k, hk⟩)

theorem count_foldl_insert {β : Type} [DecidableEq β] (f : α → List β)
    (entries : List (String × α)) (map : TextMap α) (b : β) :
    ((entries.foldl (fun map e => map.insert e.1 e.2) map).values.flatMap f).count b ≤
      (map.values.flatMap f).count b + ((entries.map (·.2)).flatMap f).count b := by
  induction entries generalizing map with
  | nil => simp
  | cons entry rest ih =>
    have hinsert := count_insert f map entry.1 entry.2 b
    have hrest := ih (map.insert entry.1 entry.2)
    simp only [List.foldl_cons, List.map_cons, List.flatMap_cons, List.count_append]
    omega

/-- A key given twice loses what was counted for it first. -/
theorem count_ofList_le {β : Type} [DecidableEq β] (f : α → List β)
    (entries : List (String × α)) (b : β) :
    ((ofList entries).values.flatMap f).count b ≤ ((entries.map (·.2)).flatMap f).count b := by
  have h := count_foldl_insert f entries empty b
  rwa [show (empty : TextMap α).values.flatMap f = [] from rfl, List.count_nil, Nat.zero_add] at h

theorem mem_values_foldl_insert {entries : List (String × α)} {map : TextMap α} {value : α}
    (h : value ∈ (entries.foldl (fun map e => map.insert e.1 e.2) map).values) :
    value ∈ map.values ∨ value ∈ entries.map (·.2) := by
  induction entries generalizing map with
  | nil => exact .inl h
  | cons entry rest ih =>
    rcases ih h with h | h
    · rcases mem_values_insert h with rfl | h
      · exact .inr List.mem_cons_self
      · exact .inl h
    · exact .inr (List.mem_cons_of_mem _ h)

theorem mem_values_ofList {entries : List (String × α)} {value : α}
    (h : value ∈ (ofList entries).values) : value ∈ entries.map (·.2) := by
  rcases mem_values_foldl_insert h with h | h
  · cases h
  · exact h

theorem get?_foldl_insert {entries : List (String × α)}
    (increasing : entries.Pairwise fun a b => a.1 < b.1) (map : TextMap α) (key : String) :
    (entries.foldl (fun map e => map.insert e.1 e.2) map).get? key =
      (entries.lookup key).or (map.get? key) := by
  induction entries generalizing map with
  | nil => rfl
  | cons entry rest ih =>
    obtain ⟨hhead, hrest⟩ := List.pairwise_cons.mp increasing
    rw [List.foldl_cons, ih hrest, get?_insert, List.lookup_cons]
    by_cases hkey : key = entry.1
    · subst hkey
      simp [lookup_of_lt hhead]
    · have hfalse : (key == entry.1) = false := by simpa using hkey
      simp [hkey, hfalse]

@[simp] theorem ofList_entries (map : TextMap α) : ofList map.entries = map := by
  apply ext_get?
  intro key
  rw [ofList, get?_foldl_insert map.increasing, get?_empty, Option.or_none]
  rfl

theorem entries_ofList {entries : List (String × α)}
    (increasing : entries.Pairwise fun a b => a.1 < b.1) : (ofList entries).entries = entries :=
  congrArg TextMap.entries (ofList_entries ⟨entries, increasing⟩)

theorem mem_map_entries {β : Type} {f : α → β} {map : TextMap α} {e : String × β} :
    e ∈ map.entries.map (fun e => (e.1, f e.2)) ↔ (map.get? e.1).map f = some e.2 := by
  rw [List.mem_map, Option.map_eq_some_iff]
  constructor
  · rintro ⟨⟨key, value⟩, hentry, rfl⟩
    exact ⟨value, (mem_entries_iff map key value).mp hentry, rfl⟩
  · rintro ⟨value, hget, hvalue⟩
    exact ⟨(e.1, value), (mem_entries_iff map e.1 value).mpr hget, by rw [hvalue]⟩

theorem map_entries_congr {β : Type} {f : α → β} {left right : TextMap α}
    (h : ∀ key, (left.get? key).map f = (right.get? key).map f) :
    left.entries.map (fun e => (e.1, f e.2)) = right.entries.map (fun e => (e.1, f e.2)) := by
  refine entries_eq ?_ ?_ fun e => ?_
  · exact List.pairwise_map.mpr left.increasing
  · exact List.pairwise_map.mpr right.increasing
  · rw [mem_map_entries, mem_map_entries, h]

end RecordForms.TextMap
