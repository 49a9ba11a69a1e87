/-! Finite maps from texts. The entries stand in increasing order of their keys, so two maps
with the same look-ups are equal, and going through a map has one order. -/
namespace RecordForms

universe u v

/-- Entries in strictly increasing order of their keys. -/
structure TextMap (α : Type u) where
  entries : List (String × α)
  increasing : entries.Pairwise fun a b => a.1 < b.1
deriving DecidableEq

namespace TextMap

variable {α : Type u} {β : Type v}

def insertEntry (key : String) (value : α) : List (String × α) → List (String × α)
  | [] => [(key, value)]
  | (k, v) :: rest =>
    if key < k then (key, value) :: (k, v) :: rest
    else if key = k then (key, value) :: rest
    else (k, v) :: insertEntry key value rest

theorem mem_insertEntry {key : String} {value : α} {entries : List (String × α)}
    {e : String × α} (h : e ∈ insertEntry key value entries) : e = (key, value) ∨ e ∈ entries := by
  induction entries with
  | nil => simpa [insertEntry] using h
  | cons entry rest ih =>
    simp only [insertEntry] at h
    split at h
    · simpa using h
    · split at h
      · rcases List.mem_cons.mp h with rfl | h
        · exact .inl rfl
        · exact .inr (List.mem_cons_of_mem _ h)
      · rcases List.mem_cons.mp h with rfl | h
        · exact .inr List.mem_cons_self
        · exact (ih h).imp_right (List.mem_cons_of_mem _)

theorem lt_of_not_lt_of_ne {a b : String} (h : ¬a < b) (hne : a ≠ b) : b < a := by
  by_cases hba : b < a
  · exact hba
  · exact absurd (String.le_antisymm (String.not_lt.mp hba) (String.not_lt.mp h)) hne

theorem increasing_insertEntry (key : String) (value : α) {entries : List (String × α)}
    (h : entries.Pairwise fun a b => a.1 < b.1) :
    (insertEntry key value entries).Pairwise fun a b => a.1 < b.1 := by
  induction entries with
  | nil => simp [insertEntry]
  | cons entry rest ih =>
    obtain ⟨k, v⟩ := entry
    obtain ⟨hhead, hrest⟩ := List.pairwise_cons.mp h
    simp only [insertEntry]
    split
    next hlt =>
      refine List.pairwise_cons.mpr ⟨fun e he => ?_, h⟩
      rcases List.mem_cons.mp he with rfl | he
      · exact hlt
      · exact String.lt_trans hlt (hhead e he)
    next hlt =>
      split
      next heq =>
        subst heq
        exact List.pairwise_cons.mpr ⟨hhead, hrest⟩
      next hne =>
        refine List.pairwise_cons.mpr ⟨fun e he => ?_, ih hrest⟩
        rcases mem_insertEntry he with rfl | he
        · exact lt_of_not_lt_of_ne hlt hne
        · exact hhead e he

def empty : TextMap α := ⟨[], .nil⟩

def get? (map : TextMap α) (key : String) : Option α := map.entries.lookup key

def contains (map : TextMap α) (key : String) : Bool := (map.get? key).isSome

def insert (map : TextMap α) (key : String) (value : α) : TextMap α :=
  ⟨insertEntry key value map.entries, increasing_insertEntry key value map.increasing⟩

def filter (keep : String → Bool) (map : TextMap α) : TextMap α :=
  ⟨map.entries.filter fun e => keep e.1, map.increasing.filter _⟩

def erase (map : TextMap α) (key : String) : TextMap α := map.filter (· != key)

def values (map : TextMap α) : List α := map.entries.map (·.2)

def keys (map : TextMap α) : List String := map.entries.map (·.1)

def size (map : TextMap α) : Nat := map.entries.length

/-- Of two entries with one key the later one counts. -/
def ofList (entries : List (String × α)) : TextMap α :=
  entries.foldl (fun map e => map.insert e.1 e.2) empty

@[simp] theorem lookup_insertEntry (key k : String) (value : α) (entries : List (String × α)) :
    (insertEntry key value entries).lookup k =
      if k = key then some value else entries.lookup k := by
  induction entries with
  | nil => simp only [insertEntry, List.lookup_cons, List.lookup_nil]; grind
  | cons entry rest ih =>
    obtain ⟨k', v⟩ := entry
    simp only [insertEntry]
    split
    · simp only [List.lookup_cons]; grind
    · split
      · simp only [List.lookup_cons]; grind
      · simp only [List.lookup_cons, ih]; grind

@[simp] theorem get?_empty (key : String) : (empty : TextMap α).get? key = none := rfl

@[simp] theorem get?_insert (map : TextMap α) (key k : String) (value : α) :
    (map.insert key value).get? k = if k = key then some value else map.get? k :=
  lookup_insertEntry key k value map.entries

theorem get?_insert_self (map : TextMap α) (key : String) (value : α) :
    (map.insert key value).get? key = some value := by
  simp

@[simp] theorem get?_filter (keep : String → Bool) (map : TextMap α) (key : String) :
    (map.filter keep).get? key = if keep key then map.get? key else none := by
  simp only [get?, filter]
  induction map.entries with
  | nil => simp
  | cons entry rest ih =>
    obtain ⟨k, v⟩ := entry
    by_cases hkey : key = k
    · subst hkey
      cases hkeep : keep key with
      | true => simp [hkeep]
      | false => simpa [hkeep, List.lookup_cons] using ih
    · have hne : (key == k) = false := by simpa using hkey
      cases hkeep : keep k <;> simp [hkeep, List.lookup_cons, hne, ih]

@[simp] theorem get?_erase (map : TextMap α) (key k : String) :
    (map.erase key).get? k = if k = key then none else map.get? k := by
  rw [erase, get?_filter]
  by_cases h : k = key <;> simp [h]

@[simp] theorem contains_insert (map : TextMap α) (key k : String) (value : α) :
    (map.insert key value).contains k = (k == key || map.contains k) := by
  simp only [contains, get?_insert]
  by_cases h : k = key <;> simp [h]

@[simp] theorem contains_filter (keep : String → Bool) (map : TextMap α) (key : String) :
    (map.filter keep).contains key = (keep key && map.contains key) := by
  simp only [contains, get?_filter]
  cases keep key <;> simp

theorem mem_of_lookup {entries : List (String × α)} {key : String} {value : α}
    (h : entries.lookup key = some value) : (key, value) ∈ entries := by
  induction entries with
  | nil => simp at h
  | cons entry rest ih =>
    obtain ⟨k, v⟩ := entry
    rw [List.lookup_cons] at h
    split at h
    next heq =>
      have hkey : key = k := by simpa using heq
      simp_all
    next => exact List.mem_cons_of_mem _ (ih h)

theorem lookup_of_mem {entries : List (String × α)} {key : String} {value : α}
    (increasing : entries.Pairwise fun a b => a.1 < b.1) (h : (key, value) ∈ entries) :
    entries.lookup key = some value := by
  induction entries with
  | nil => simp at h
  | cons entry rest ih =>
    obtain ⟨k, v⟩ := entry
    obtain ⟨hhead, hrest⟩ := List.pairwise_cons.mp increasing
    rw [List.lookup_cons]
    rcases List.mem_cons.mp h with heq | hmem
    · obtain ⟨rfl, rfl⟩ := Prod.mk.inj heq
      simp
    · have hlt : k < key := hhead _ hmem
      have hne : key ≠ k := fun heq => String.lt_irrefl k (heq ▸ hlt)
      have hfalse : (key == k) = false := by simpa using hne
      rw [hfalse]
      exact ih hrest hmem

@[simp] theorem mem_entries_iff (map : TextMap α) (key : String) (value : α) :
    (key, value) ∈ map.entries ↔ map.get? key = some value :=
  ⟨lookup_of_mem map.increasing, mem_of_lookup⟩

theorem entries_eq {l m : List (String × α)} (hl : l.Pairwise fun a b => a.1 < b.1)
    (hm : m.Pairwise fun a b => a.1 < b.1) (h : ∀ e, e ∈ l ↔ e ∈ m) : l = m := by
  induction l generalizing m with
  | nil =>
    cases m with
    | nil => rfl
    | cons b m => exact absurd ((h b).mpr List.mem_cons_self) (by simp)
  | cons a l ih =>
    cases m with
    | nil => exact absurd ((h a).mp List.mem_cons_self) (by simp)
    | cons b m =>
      obtain ⟨ha, hltail⟩ := List.pairwise_cons.mp hl
      obtain ⟨hb, hmtail⟩ := List.pairwise_cons.mp hm
      have hab : a = b := by
        rcases List.mem_cons.mp ((h a).mp List.mem_cons_self) with hab | hamem
        · exact hab
        · rcases List.mem_cons.mp ((h b).mpr List.mem_cons_self) with hba | hbmem
          · exact hba.symm
          · exact absurd (String.lt_trans (ha b hbmem) (hb a hamem)) (String.lt_irrefl _)
      subst hab
      have htail : ∀ e, e ∈ l ↔ e ∈ m := by
        intro e
        constructor
        · intro he
          rcases List.mem_cons.mp ((h e).mp (List.mem_cons_of_mem _ he)) with rfl | he'
          · exact absurd (ha e he) (String.lt_irrefl _)
          · exact he'
        · intro he
          rcases List.mem_cons.mp ((h e).mpr (List.mem_cons_of_mem _ he)) with rfl | he'
          · exact absurd (hb e he) (String.lt_irrefl _)
          · exact he'
      rw [ih hltail hmtail htail]

theorem ext_get? {left right : TextMap α} (h : ∀ key, left.get? key = right.get? key) :
    left = right := by
  have hentries : left.entries = right.entries :=
    entries_eq left.increasing right.increasing fun e => by
      rw [mem_entries_iff left e.1 e.2, mem_entries_iff right e.1 e.2, h]
  cases left
  cases right
  simpa using hentries

end TextMap

end RecordForms
