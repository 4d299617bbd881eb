import Mathlib

/-! Maps that keep their entries in the order in which the keys came first. A later value for a key
takes the place of the earlier one. -/

namespace ProxyPay.Library

universe u v

structure InsertionMap (Key : Type u) (Value : Type v) where
  entries : List (Key × Value)
  distinct : (entries.map Prod.fst).Nodup

namespace InsertionMap

variable {Key : Type u} {Value : Type v}

def empty : InsertionMap Key Value := ⟨[], List.nodup_nil⟩

variable [DecidableEq Key] {map : InsertionMap Key Value} {key other : Key} {value : Value}

def get? (map : InsertionMap Key Value) (key : Key) : Option Value :=
  (map.entries.find? fun entry => entry.1 = key).map Prod.snd

def replaced (key : Key) (value : Value) (entries : List (Key × Value)) : List (Key × Value) :=
  entries.map fun entry => if entry.1 = key then (key, value) else entry

theorem keys_replaced (entries : List (Key × Value)) :
    (replaced key value entries).map Prod.fst = entries.map Prod.fst := by
  rw [replaced, List.map_map]
  apply List.map_congr_left
  intro entry _
  by_cases same : entry.1 = key <;> simp [same]

def set (map : InsertionMap Key Value) (key : Key) (value : Value) : InsertionMap Key Value :=
  if present : key ∈ map.entries.map Prod.fst then
    ⟨replaced key value map.entries, by rw [keys_replaced]; exact map.distinct⟩
  else
    ⟨map.entries ++ [(key, value)], by
      rw [List.map_append]
      exact List.nodup_append'.mpr ⟨map.distinct, List.nodup_singleton _, by simpa using present⟩⟩

def erase (map : InsertionMap Key Value) (key : Key) : InsertionMap Key Value :=
  ⟨map.entries.filter fun entry => entry.1 ≠ key, (List.filter_sublist.map _).nodup map.distinct⟩

def ofPairs (pairs : List (Key × Value)) : InsertionMap Key Value :=
  pairs.foldl (fun map pair => map.set pair.1 pair.2) empty

@[simp, grind =] theorem get?_empty : (empty : InsertionMap Key Value).get? key = none := rfl

/-- A key has one entry. -/
theorem mem_entries : (key, value) ∈ map.entries ↔ map.get? key = some value := by
  obtain ⟨entries, distinct⟩ := map
  unfold get?
  induction entries with
  | nil => simp
  | cons entry entries ih => grind

theorem mem_keys : key ∈ map.entries.map Prod.fst ↔ (map.get? key).isSome = true := by
  rw [List.mem_map]
  constructor
  · rintro ⟨entry, member, rfl⟩
    rw [(mem_entries).mp member]
    rfl
  · intro found
    obtain ⟨value, found⟩ := Option.isSome_iff_exists.mp found
    exact ⟨(key, value), (mem_entries).mpr found, rfl⟩

variable (pairs : List (Key × Value))

@[grind =] theorem get?_set : (map.set key value).get? other = if key = other then some value else map.get? other := by
  have decided (after : Option Value)
      (agree : ∀ found, (other, found) ∈ (map.set key value).entries ↔ after = some found) :
      (map.set key value).get? other = after := by
    ext found
    exact (mem_entries).symm.trans (agree found)
  apply decided
  intro found
  have earlier : (other, found) ∈ map.entries ↔ map.get? other = some found := mem_entries
  unfold set
  split
  · rename_i present
    have member : (other, found) ∈ replaced key value map.entries ↔
        ∃ entry ∈ map.entries, (if entry.1 = key then (key, value) else entry) = (other, found) :=
      List.mem_map
    rw [member]
    by_cases same : key = other
    · grind
    · grind
  · grind

@[grind =] theorem get?_erase : (map.erase key).get? other = if key = other then none else map.get? other := by
  ext found
  rw [← mem_entries]
  unfold erase
  rw [List.mem_filter, mem_entries]
  by_cases same : key = other
  · simp [same]
  · simp [same, Ne.symm same]

theorem ofPairs_append :
    ofPairs (pairs ++ [(key, value)]) = (ofPairs pairs).set key value := by
  simp [ofPairs]

/-- The last value for a key is the one that is kept. -/
theorem get?_ofPairs :
    (ofPairs pairs).get? key = (pairs.reverse.find? fun pair => pair.1 = key).map Prod.snd := by
  induction pairs using List.reverseRecOn with
  | nil => rfl
  | append_singleton pairs pair ih =>
    rw [ofPairs_append, get?_set, ih, List.reverse_append, List.reverse_singleton, List.singleton_append]
    by_cases same : pair.1 = key <;> simp [same]

/-! Several keys at once. -/

/-- Each pair takes the place of what was there for its key. -/
def overlay (map : InsertionMap Key Value) (pairs : List (Key × Value)) : InsertionMap Key Value :=
  pairs.foldl (fun map pair => map.set pair.1 pair.2) map

theorem get?_overlay_other (absent : key ∉ pairs.map Prod.fst) :
    (map.overlay pairs).get? key = map.get? key := by
  induction pairs generalizing map with
  | nil => rfl
  | cons pair rest ih =>
    obtain ⟨other, later⟩ := not_or.mp (fun either => absent (List.mem_cons.mpr either))
    show ((map.set pair.1 pair.2).overlay rest).get? key = _
    rw [ih later, get?_set, if_neg (Ne.symm other)]

theorem get?_overlay_mem (distinct : (pairs.map Prod.fst).Nodup)
    (member : (key, value) ∈ pairs) : (map.overlay pairs).get? key = some value := by
  induction pairs generalizing map with
  | nil => cases member
  | cons pair rest ih =>
    obtain ⟨fresh, distinct⟩ := List.nodup_cons.mp distinct
    show ((map.set pair.1 pair.2).overlay rest).get? key = _
    rcases List.mem_cons.mp member with rfl | later
    · rw [get?_overlay_other rest fresh, get?_set, if_pos rfl]
    · exact ih distinct later

@[grind =] theorem get?_eraseAll (keys : List Key) : (keys.foldl erase map).get? key = if key ∈ keys then none else map.get? key := by
  induction keys generalizing map with
  | nil => rfl
  | cons first rest ih => grind

/-! Maps with the values changed. -/

section Change

variable {Other : Type*} (change : Value → Other)

def mapValues (map : InsertionMap Key Value) : InsertionMap Key Other :=
  ⟨map.entries.map fun entry => (entry.1, change entry.2), by
    rw [List.map_map]
    exact map.distinct⟩

theorem get?_mapValues : (map.mapValues change).get? key = (map.get? key).map change := by
  unfold get? mapValues
  rw [List.find?_map, Option.map_map, Option.map_map]
  rfl

end Change

/-! How many entries there are. -/

theorem length_set_le : (map.set key value).entries.length ≤ map.entries.length + 1 := by
  have length : (replaced key value map.entries).length = map.entries.length := List.length_map ..
  unfold set
  split
  · exact Nat.le_trans (Nat.le_of_eq length) (Nat.le_succ _)
  · exact Nat.le_of_eq List.length_append

theorem length_set_of_some {old : Value} (found : map.get? key = some old) :
    (map.set key value).entries.length = map.entries.length := by
  have present : key ∈ map.entries.map Prod.fst := (mem_keys).mpr (found ▸ rfl)
  unfold set
  rw [dif_pos present]
  exact List.length_map ..

theorem length_erase_le : (map.erase key).entries.length ≤ map.entries.length :=
  List.length_filter_le ..

theorem length_erase_lt (found : map.get? key = some value) : (map.erase key).entries.length < map.entries.length := by
  unfold erase
  apply List.length_filter_lt_length_iff_exists.mpr
  exact ⟨(key, value), (mem_entries).mpr found, by simp⟩

/-- Entries that lead to different keys of a map are no more than its entries. -/
theorem length_le_of_leads {Name : Type*} [DecidableEq Name] {index : InsertionMap Name Key} (name : Value → Name)
    (leads : ∀ entry target, index.get? entry = some target → ∃ value, map.get? target = some value ∧ entry = name value) :
    index.entries.length ≤ map.entries.length := by
  have same : ∀ one ∈ index.entries, ∀ other ∈ index.entries, one.2 = other.2 → one = other := by
    intro one first other second target
    obtain ⟨value, stored, known⟩ := leads one.1 one.2 ((mem_entries).mp first)
    obtain ⟨found, there, shown⟩ := leads other.1 other.2 ((mem_entries).mp second)
    rw [← target, stored] at there
    cases there
    exact Prod.ext (known.trans shown.symm) target
  have targets : (index.entries.map Prod.snd).Nodup := List.Nodup.map_on same (List.Nodup.of_map _ index.distinct)
  have among : index.entries.map Prod.snd ⊆ map.entries.map Prod.fst := by
    intro target member
    obtain ⟨entry, listed, rfl⟩ := List.mem_map.mp member
    obtain ⟨value, stored, _⟩ := leads entry.1 entry.2 ((mem_entries).mp listed)
    exact (mem_keys).mpr (stored ▸ rfl)
  have lengths := (List.subperm_of_subset targets among).length_le
  rwa [List.length_map, List.length_map] at lengths

end InsertionMap

end ProxyPay.Library
