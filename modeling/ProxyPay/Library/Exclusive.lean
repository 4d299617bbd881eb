import Mathlib

/-! Tables of processes, of which at most one per key may be live. Processes are only ever
added at the end or replaced in place, so that a process is known by its position. -/

namespace ProxyPay.Library

variable {Item Key : Type} {key : Item → Key} {live : Item → Bool}
variable {items : List Item} {item old new : Item} {index : Nat}

/-- Two live items with the same key are the same item. -/
def Exclusive (key : Item → Key) (live : Item → Bool) (items : List Item) : Prop :=
  ∀ (i j : Nat) first second, items[i]? = some first → items[j]? = some second →
    live first = true → live second = true → key first = key second → i = j

variable {i : Nat}

theorem getElem?_append_singleton (found : (items ++ [new])[i]? = some item) :
    items[i]? = some item ∨ i = items.length ∧ item = new := by
  rcases Nat.lt_trichotomy i items.length with inside | rfl | beyond
  · exact .inl (by simpa [List.getElem?_append_left inside] using found)
  · exact .inr ⟨rfl, by simpa using found.symm⟩
  · grind

theorem getElem?_set_of_some (found : (items.set index new)[i]? = some item) :
    (i = index ∧ item = new) ∨ (i ≠ index ∧ items[i]? = some item) := by
  by_cases same : i = index
  · grind
  · exact .inr ⟨same, by rwa [List.getElem?_set_ne (Ne.symm same)] at found⟩

variable {change : Item → Item}

theorem getElem?_modify_of_some (found : (items.modify index change)[i]? = some item) :
    ∃ old, items[i]? = some old ∧ item = if index = i then change old else old := by
  rw [List.getElem?_modify] at found
  obtain ⟨old, present, same⟩ := Option.map_eq_some_iff.mp found
  exact ⟨old, present, same.symm⟩

theorem modify_eq_set_of_some (found : items[index]? = some item) :
    items.modify index change = items.set index (change item) := by
  apply List.ext_getElem?
  intro i
  rw [List.getElem?_modify, List.getElem?_set]
  by_cases same : index = i
  · grind
  · simp [same]

section

variable {p : Item → Prop} (kept : ∀ other ∈ items, p other) (fresh : p new)

include kept fresh

theorem forall_mem_set : ∀ other ∈ items.set index new, p other := by
  intro other member
  rcases List.mem_or_eq_of_mem_set member with earlier | rfl
  · exact kept other earlier
  · exact fresh

theorem forall_mem_append_singleton : ∀ other ∈ items ++ [new], p other := by
  intro other member
  rcases List.mem_append.mp member with earlier | last
  · exact kept other earlier
  · rwa [List.mem_singleton.mp last]

end

theorem mem_set_of_ne (member : item ∈ items) (found : items[index]? = some old)
    (other : item ≠ old) : item ∈ items.set index new := by
  obtain ⟨i, place⟩ := List.mem_iff_getElem?.mp member
  refine List.mem_iff_getElem?.mpr ⟨i, ?_⟩
  rw [List.getElem?_set_ne, place]
  rintro rfl
  rw [found] at place
  exact other (Option.some.inj place).symm

theorem countP_set (kind : Item → Bool) (found : items[index]? = some old) (new : Item) :
    (items.set index new).countP kind + (kind old).toNat = items.countP kind + (kind new).toNat := by
  obtain ⟨inside, rfl⟩ := List.getElem?_eq_some_iff.mp found
  rw [List.countP_set inside]
  have counted : kind items[index] = true → 0 < items.countP kind := fun holds =>
    List.countP_pos_iff.mpr ⟨_, List.getElem_mem inside, holds⟩
  cases here : kind items[index] with
  | false => cases kind new <;> simp
  | true => grind

/-- What a process that moves on gives up and takes over. -/
theorem filterMap_set_perm {Held : Type} (held : Item → Option Held) (found : items[index]? = some old) :
    ((items.set index new).filterMap held ++ (held old).toList).Perm (items.filterMap held ++ (held new).toList) := by
  induction items generalizing index with
  | nil => simp at found
  | cons first rest ih =>
    have cons (item : Item) (others : List Item) :
        (item :: others).filterMap held = (held item).toList ++ others.filterMap held := by
      rw [List.filterMap_cons]
      cases held item <;> rfl
    cases index with
    | zero =>
      obtain rfl : first = old := by simpa using found
      rw [List.set_cons_zero, cons, cons]
      exact List.perm_append_comm.trans (List.Perm.append_left _ List.perm_append_comm) |>.trans
        (by rw [List.append_assoc])
    | succ index =>
      rw [List.set_cons_succ, cons, cons, List.append_assoc, List.append_assoc]
      exact (@ih index (by simpa using found)).append_left _

namespace Exclusive

theorem nil : Exclusive key live [] := by
  intro i j first second found
  simp at found

section

variable (exclusive : Exclusive key live items)

include exclusive

/-- A process may start when no live one has its key. -/
theorem start (idle : ∀ item ∈ items, key item = key new → live item = false) :
    Exclusive key live (items ++ [new]) := by
  have apart : ∀ (i : Nat) first, items[i]? = some first → live first = true → key first ≠ key new := by grind
  intro i j first second foundFirst foundSecond aliveFirst aliveSecond same
  rcases getElem?_append_singleton foundFirst with earlier | ⟨rfl, rfl⟩ <;>
    rcases getElem?_append_singleton foundSecond with later | ⟨rfl, rfl⟩
  · exact exclusive i j first second earlier later aliveFirst aliveSecond same
  · exact absurd same (apart i first earlier aliveFirst)
  · exact absurd same.symm (apart j second later aliveSecond)
  · rfl

/-- A process that is not live may be added at any time. -/
theorem append_idle (idle : live new = false) : Exclusive key live (items ++ [new]) := by
  intro i j first second foundFirst foundSecond aliveFirst aliveSecond same
  rcases getElem?_append_singleton foundFirst with earlier | ⟨rfl, rfl⟩
  · rcases getElem?_append_singleton foundSecond with later | ⟨rfl, rfl⟩
    · exact exclusive i j first second earlier later aliveFirst aliveSecond same
    · simp_all
  · rw [idle] at aliveFirst
    cases aliveFirst

/-- A live process may move on under its own key. -/
theorem set (found : items[index]? = some old) (sameKey : key new = key old) (was : live new = true → live old = true) :
    Exclusive key live (items.set index new) := by
  intro i j first second foundFirst foundSecond aliveFirst aliveSecond same
  rcases getElem?_set_of_some foundFirst with ⟨rfl, rfl⟩ | ⟨_, earlier⟩ <;>
    rcases getElem?_set_of_some foundSecond with ⟨rfl, rfl⟩ | ⟨_, later⟩
  · rfl
  · exact exclusive _ j old second found later (was aliveFirst) aliveSecond (sameKey.symm.trans same)
  · exact exclusive i _ first old earlier found aliveFirst (was aliveSecond) (same.trans sameKey)
  · exact exclusive i j first second earlier later aliveFirst aliveSecond same

/-- A process may cease to be live at any time. -/
theorem set_idle (idle : live new = false) : Exclusive key live (items.set index new) := by
  intro i j first second foundFirst foundSecond aliveFirst aliveSecond same
  rcases getElem?_set_of_some foundFirst with ⟨_, rfl⟩ | ⟨_, earlier⟩
  · rw [idle] at aliveFirst
    cases aliveFirst
  · rcases getElem?_set_of_some foundSecond with ⟨_, rfl⟩ | ⟨_, later⟩
    · simp_all
    · exact exclusive i j first second earlier later aliveFirst aliveSecond same

/-- A process may become live when no live one has its key. -/
theorem enter (idle : ∀ item ∈ items, key item = key new → live item = false) :
    Exclusive key live (items.set index new) := by
  have apart : ∀ (i : Nat) first, items[i]? = some first → live first = true → key first ≠ key new := by grind
  intro i j first second foundFirst foundSecond aliveFirst aliveSecond same
  rcases getElem?_set_of_some foundFirst with ⟨rfl, rfl⟩ | ⟨_, earlier⟩ <;>
    rcases getElem?_set_of_some foundSecond with ⟨rfl, rfl⟩ | ⟨_, later⟩
  · rfl
  · exact absurd same.symm (apart j second later aliveSecond)
  · exact absurd same (apart i first earlier aliveFirst)
  · exact exclusive i j first second earlier later aliveFirst aliveSecond same

/-- Beside a live process the others of its key are idle. -/
theorem idle_of_ne (found : items[index]? = some old) (alive : live old = true)
    {i : Nat} (apart : i ≠ index) (there : items[i]? = some item) (same : key item = key old) : live item = false := by
  apply Bool.eq_false_iff.mpr
  intro also
  exact apart (exclusive i index item old there found also alive same)

end

variable {first : Item}

theorem tail (exclusive : Exclusive key live (first :: items)) : Exclusive key live items := by
  intro i j one other here there aliveOne aliveOther same
  exact Nat.succ.inj (exclusive (i + 1) (j + 1) one other here there aliveOne aliveOther same)

theorem countP_le_one [DecidableEq Key] (exclusive : Exclusive key live items) (value : Key) :
    items.countP (fun item => decide (key item = value) && live item) ≤ 1 := by
  induction items with
  | nil => exact Nat.zero_le _
  | cons first rest ih =>
    rw [List.countP_cons]
    split
    · rename_i counted
      obtain ⟨here, alive⟩ := Bool.and_eq_true_iff.mp counted
      have none : rest.countP (fun item => decide (key item = value) && live item) = 0 := by
        apply List.countP_eq_zero.mpr
        intro item member also
        obtain ⟨there, awake⟩ := Bool.and_eq_true_iff.mp also
        obtain ⟨i, found⟩ := List.mem_iff_getElem?.mp member
        have same : key first = key item := (of_decide_eq_true here).trans (of_decide_eq_true there).symm
        exact Nat.succ_ne_zero i (exclusive 0 (i + 1) first item rfl found alive awake same).symm
      omega
    · exact ih exclusive.tail

/-- Two live processes of one table with the same key are equal. -/
theorem eq_of_mem {second : Item} (exclusive : Exclusive key live items)
    (here : first ∈ items) (there : second ∈ items) (aliveFirst : live first = true)
    (aliveSecond : live second = true) (same : key first = key second) : first = second := by
  obtain ⟨i, foundFirst⟩ := List.mem_iff_getElem?.mp here
  obtain ⟨j, foundSecond⟩ := List.mem_iff_getElem?.mp there
  obtain rfl := exclusive i j first second foundFirst foundSecond aliveFirst aliveSecond same
  rw [foundFirst] at foundSecond
  exact Option.some.inj foundSecond

end Exclusive

end ProxyPay.Library

/-! Rows and the processes that write to them. Each process has its row by position, and a relation between the two is
kept if the live processes of one row exclude each other. -/

namespace ProxyPay.Library

variable {Process Row : Type} {place : Process → Nat} {live : Process → Bool} {relates : Process → Row → Prop}
variable {rows : List Row} {processes : List Process} {old new : Process} {row : Row} {index : Nat}

/-- Every process is related to its row. -/
def Related (place : Process → Nat) (relates : Process → Row → Prop) (rows : List Row) (processes : List Process) : Prop :=
  ∀ process ∈ processes, ∀ row, rows[place process]? = some row → relates process row

/-- The rows of the live processes exist. -/
def Placed (place : Process → Nat) (live : Process → Bool) (rows : List Row) (processes : List Process) : Prop :=
  ∀ process ∈ processes, live process = true → place process < rows.length

namespace Related

theorem nil : Related place relates rows [] := by
  intro process member
  cases member

section

variable (related : Related place relates rows processes)

include related

theorem append_row (placed : Placed place live rows processes)
    (idle : ∀ process row, live process = false → relates process row) :
    Related place relates (rows ++ [row]) processes := by
  intro process member other found
  cases alive : live process with
  | false => exact idle process other alive
  | true =>
    rw [List.getElem?_append_left (placed process member alive)] at found
    exact related process member other found

section

variable (now : ∀ row, rows[place new]? = some row → relates new row)

include now

theorem start : Related place relates rows (processes ++ [new]) := by
  intro process member other found
  rcases List.mem_append.mp member with earlier | last
  · exact related process earlier other found
  · simp_all

theorem goOn : Related place relates rows (processes.set index new) := by
  intro process member other found
  rcases List.mem_or_eq_of_mem_set member with earlier | rfl
  · exact related process earlier other found
  · exact now other found

end

/-- A process writes to its row, and the other processes of that row agree. -/
theorem write_of (others : ∀ (i : Nat) process, i ≠ index → processes[i]? = some process → place process = place new →
      relates process row)
    (now : relates new row) : Related place relates (rows.set (place new) row) (processes.set index new) := by
  intro process member stored found
  obtain ⟨i, there⟩ := List.mem_iff_getElem?.mp member
  rcases getElem?_set_of_some found with ⟨same, rfl⟩ | ⟨_, earlier⟩
  · grind
  · rcases getElem?_set_of_some there with ⟨_, rfl⟩ | ⟨_, present⟩
    · contradiction
    · exact related process (List.mem_of_getElem? present) stored earlier

/-- A live process writes to its row. -/
theorem write (exclusive : Exclusive place live processes)
    (found : processes[index]? = some old) (alive : live old = true) (same : place new = place old)
    (idle : ∀ process row, live process = false → relates process row) (now : relates new row) :
    Related place relates (rows.set (place new) row) (processes.set index new) := by
  apply related.write_of _ now
  intro i process apart there here
  exact idle process row (exclusive.idle_of_ne found alive apart there (here.trans same))

end

end Related

namespace Placed

theorem nil : Placed place live rows [] := by
  intro process member
  cases member

theorem grow {more : List Row} (placed : Placed place live rows processes) (longer : rows.length ≤ more.length) :
    Placed place live more processes := by
  intro process member alive
  exact Nat.lt_of_lt_of_le (placed process member alive) longer

section

variable (placed : Placed place live rows processes) (now : live new = true → place new < rows.length)

include placed now

theorem start : Placed place live rows (processes ++ [new]) := by
  intro process member alive
  rcases List.mem_append.mp member with earlier | last
  · exact placed process earlier alive
  · simp_all

theorem goOn : Placed place live rows (processes.set index new) := by
  intro process member alive
  rcases List.mem_or_eq_of_mem_set member with earlier | rfl
  · exact placed process earlier alive
  · exact now alive

end

end Placed

end ProxyPay.Library
