import Mathlib

/-! Sums of the weights of those items of a list that count. -/

namespace ProxyPay.Library

universe u v

variable {Item : Type u} {Amount : Type v}

def total [AddMonoid Amount] (weight : Item → Amount) (counts : Item → Bool) (items : List Item) : Amount :=
  ((items.filter counts).map weight).sum

section

variable [AddMonoid Amount] {weight : Item → Amount} {counts : Item → Bool} {items : List Item} {item : Item}

@[simp] theorem total_nil : total weight counts [] = 0 := rfl

theorem total_cons : total weight counts (item :: items) =
    (if counts item then weight item else 0) + total weight counts items := by
  unfold total
  by_cases counted : counts item
  · simp [counted]
  · simp [counted]

theorem total_filter {chosen : Item → Bool} :
    total weight counts (items.filter chosen) = total weight (fun item => chosen item && counts item) items := by
  unfold total
  rw [List.filter_filter]
  simp only [Bool.and_comm]

theorem total_append {others : List Item} :
    total weight counts (items ++ others) = total weight counts items + total weight counts others := by
  simp [total]

theorem total_singleton : total weight counts [item] = if counts item then weight item else 0 := by
  rw [total_cons, total_nil, add_zero]

end

section

variable [AddCommMonoid Amount] [PartialOrder Amount] [IsOrderedAddMonoid Amount]
variable {weight : Item → Amount} {counts others : Item → Bool} {items : List Item}

/-- Where more items count, the total is no less. -/
theorem total_mono (positive : ∀ item ∈ items, 0 ≤ weight item)
    (more : ∀ item ∈ items, counts item = true → others item = true) :
    total weight counts items ≤ total weight others items := by
  induction items with
  | nil => exact le_refl _
  | cons item items ih =>
    rw [total_cons, total_cons]
    apply add_le_add
    · grind
    · simp_all

/-- An item that is replaced by one of its weight, which counts only if it did, adds nothing. -/
theorem total_set_le {index : Nat} {old new : Item} (found : items[index]? = some old) (positive : 0 ≤ weight old)
    (same : weight new = weight old) (still : counts new = true → counts old = true) :
    total weight counts (items.set index new) ≤ total weight counts items := by
  induction items generalizing index with
  | nil => cases found
  | cons item items ih =>
    cases index with
    | zero =>
      cases found
      rw [List.set_cons_zero, total_cons, total_cons]
      apply add_le_add_left
      by_cases counted : counts new = true
      · rw [if_pos counted, if_pos (still counted), same]
      · grind
    | succ index =>
      rw [List.set_cons_succ, total_cons, total_cons]
      exact add_le_add_right (ih found) _

end

/-! What is looked up for every entry of a list, summed over the items instead. -/

section

variable {Key : Type v} {Value : Type*} [DecidableEq Key] [AddCommMonoid Value] {items : List Item} (key : Item → Key)
variable (value : Item → Value)

/-- The value of the first item that has the key. -/
def looked (items : List Item) (entry : Key) : Value :=
  ((items.find? fun item => key item = entry).map value).getD 0

theorem looked_eq_sum (distinct : (items.map key).Nodup) (entry : Key) :
    looked key value items entry = (items.map fun item => if key item = entry then value item else 0).sum := by
  induction items with
  | nil => rfl
  | cons item items ih =>
    obtain ⟨apart, rest⟩ := List.nodup_cons.mp distinct
    by_cases same : key item = entry
    · have others : (items.map fun item => if key item = entry then value item else 0).sum = 0 := by
        apply List.sum_eq_zero
        intro number member
        obtain ⟨other, listed, rfl⟩ := List.mem_map.mp member
        have different : key other ≠ entry := by simp_all
        exact if_neg different
      simp [looked, same, others]
    · simp_all [looked]

/-- Every item is counted as often as its key occurs. -/
theorem sum_looked (distinct : (items.map key).Nodup) (entries : List Key) :
    (entries.map (looked key value items)).sum = (items.map fun item => entries.count (key item) • value item).sum := by
  induction entries with
  | nil => simp
  | cons entry entries ih =>
    rw [List.map_cons, List.sum_cons, looked_eq_sum key value distinct, ih, ← List.sum_map_add]
    apply congrArg List.sum
    apply List.map_congr_left
    intro item _
    by_cases same : key item = entry
    · rw [if_pos same, same, List.count_cons_self, succ_nsmul, add_comm]
    · rw [if_neg same, zero_add, List.count_cons_of_ne (Ne.symm same)]

end

end ProxyPay.Library
