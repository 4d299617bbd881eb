import Mathlib.Data.Int.Order.Basic
import ProxyPay.FeeBumps.Job
import ProxyPay.Library.Exclusive
import ProxyPay.Library.Transition

/-! The job pays once in every run in which it never reads the account's sequence for a row that is paid, and fails a
row only once the sequences of its payments are used up. -/

namespace ProxyPay.FeeBumps

open ProxyPay.Library

def Pass.building : Pass → Option (ℕ × ℤ)
  | ⟨task :: _, .building sequence⟩ => some (task.row, sequence + 1)
  | _ => none

namespace Payments

variable (payments : Payments)

def isPaid (row : ℕ) : Bool :=
  payments.sent.any fun payment => payment.row = row && payment.applied

def isFailed (row : ℕ) : Bool :=
  payments.rows[row]?.any fun row => row.status = .failed

/-- The sequences of the payments of the row, those that are being built included. -/
def sequences (row : ℕ) : List ℤ :=
  ((payments.sent.map fun payment => (payment.row, payment.sequence)) ++ payments.passes.filterMap Pass.building).filterMap
    fun entry => if entry.1 = row then some entry.2 else none

/-- The account has used up the sequences of the row. -/
def isSpent (row : ℕ) : Bool :=
  (payments.sequences row).all (· ≤ payments.sequence)

end Payments

/-- No payment of the row is applied, and the row has not failed, when the sequence is read for it; and none is applied
and all sequences are used up when the row fails. -/
def isSafe (payments : Payments) : Label → Bool
  | .load pass _ =>
    match payments.passes[pass]? with
    | some ⟨task :: _, .loading⟩ => !payments.isPaid task.row && !payments.isFailed task.row
    | _ => true
  | .mark pass _ =>
    match payments.passes[pass]? with
    | some ⟨task :: _, .failing⟩ => !payments.isPaid task.row && payments.isSpent task.row
    | _ => true
  | _ => true

variable {before after : Payments} {row index hash : ℕ} {sequence : ℤ}

theorem mem_sequences : sequence ∈ before.sequences row ↔
    (∃ payment ∈ before.sent, payment.row = row ∧ payment.sequence = sequence) ∨
      ∃ pass ∈ before.passes, pass.building = some (row, sequence) := by
  simp only [Payments.sequences, List.mem_filterMap, List.mem_append, List.mem_map, Option.ite_none_right_eq_some,
    Option.some.injEq, Prod.exists]
  constructor
  · simp
  · simp

theorem isSpent_iff : before.isSpent row = true ↔ ∀ sequence ∈ before.sequences row, sequence ≤ before.sequence := by
  simp [Payments.isSpent]

theorem isPaid_iff : before.isPaid row = true ↔ ∃ payment ∈ before.sent, payment.row = row ∧ payment.applied = true := by
  simp [Payments.isPaid]

theorem isFailed_iff : before.isFailed row = true ↔ ∃ stored, before.rows[row]? = some stored ∧ stored.status = .failed := by
  simp [Payments.isFailed, Option.any_eq_true]

namespace Payments

/-- The hash is one of the row's. -/
def Knows (payments : Payments) (row hash : ℕ) : Prop :=
  ∃ payment, payments.sent[hash]? = some payment ∧ payment.row = row

def Fits (payments : Payments) (row : ℕ) : Phase → Prop
  | .completing => payments.isPaid row = true
  | .submitting hash => payments.Knows row hash
  | .remembering hash => payments.Knows row hash
  | _ => True

end Payments

/-- A row that is paid or has failed has no sequence left that could still be applied. -/
structure Kept (payments : Payments) : Prop where
  within : ∀ payment ∈ payments.sent, payment.row < payments.rows.length
  next : ∀ row, ∀ sequence ∈ payments.sequences row, sequence ≤ payments.sequence + 1
  once : ∀ row, payments.paid row ≤ 1
  spent : ∀ row, payments.isPaid row = true ∨ payments.isFailed row = true → payments.isSpent row = true
  unpaid : ∀ row, payments.isFailed row = true → payments.isPaid row = false
  completed : ∀ (index : ℕ) row, payments.rows[index]? = some row → row.status = .completed →
    payments.isPaid index = true
  knows : ∀ (index : ℕ) row, payments.rows[index]? = some row → payments.Knows index row.stellar.transactionHash
  tasks : ∀ pass ∈ payments.passes, ∀ task ∈ pass.tasks, payments.Knows task.row task.stellar.transactionHash
  fits : ∀ pass ∈ payments.passes, ∀ task ∈ pass.tasks.head?, payments.Fits task.row pass.phase

theorem kept_initial (sequence : ℤ) : Kept (.initial sequence) := by
  constructor
  · nofun
  · nofun
  · intro row
    exact Nat.zero_le 1
  · nofun
  · nofun
  · nofun
  · nofun
  · nofun
  · nofun

theorem Kept.spent_iff (kept : Kept before) (row : ℕ) (settled : before.isPaid row = true ∨ before.isFailed row = true) :
    ∀ sequence ∈ before.sequences row, sequence ≤ before.sequence :=
  (isSpent_iff).mp (kept.spent row settled)

variable {new : Pass}

theorem sequences_goOn (member : sequence ∈ (before.goOn index new).sequences row) :
    sequence ∈ before.sequences row ∨ new.building = some (row, sequence) := by
  rcases (mem_sequences).mp member with sent | ⟨pass, present, building⟩
  · exact .inl ((mem_sequences).mpr (.inl sent))
  · rcases List.mem_or_eq_of_mem_set present with earlier | rfl
    · exact .inl ((mem_sequences).mpr (.inr ⟨pass, earlier, building⟩))
    · exact .inr building

theorem Kept.goOn (kept : Kept before) {old : Pass} (found : before.passes[index]? = some old)
    (tasks : ∀ task ∈ new.tasks, task ∈ old.tasks)
    (fits : ∀ task ∈ new.tasks.head?, before.Fits task.row new.phase)
    (building : ∀ row sequence, new.building = some (row, sequence) → sequence = before.sequence + 1 ∧
      before.isPaid row = false ∧ before.isFailed row = false) : Kept (before.goOn index new) := by
  constructor
  · exact kept.within
  · intro row sequence member
    rcases sequences_goOn member with earlier | built
    · exact kept.next row sequence earlier
    · rw [(building row sequence built).1]
      exact le_refl _
  · exact kept.once
  · intro row settled
    apply (isSpent_iff).mpr
    intro sequence member
    rcases sequences_goOn member with earlier | built
    · exact kept.spent_iff row settled sequence earlier
    · obtain ⟨_, unpaid, unfailed⟩ := building row sequence built
      rcases settled with paid | failed
      · cases unpaid.symm.trans paid
      · cases unfailed.symm.trans failed
  · exact kept.unpaid
  · exact kept.completed
  · exact kept.knows
  · intro pass member task present
    rcases List.mem_or_eq_of_mem_set member with earlier | rfl
    · exact kept.tasks pass earlier task present
    · exact kept.tasks old (List.mem_of_getElem? found) task (tasks task present)
  · exact forall_mem_set kept.fits fits

variable {phase : Phase} {task : Task} {tasks : List Task}

theorem Kept.skip (kept : Kept before)
    (found : before.passes[index]? = some ⟨task :: tasks, phase⟩) : Kept (before.goOn index ⟨tasks, .checking⟩) := by
  apply kept.goOn found
  · simp_all
  · intro other _
    trivial
  · simp [Pass.building]

variable {payment : Payment}

theorem knows_send (knows : before.Knows row hash) : (before.send payment).Knows row hash := by
  obtain ⟨known, found, same⟩ := knows
  obtain ⟨inside, _⟩ := List.getElem?_eq_some_iff.mp found
  exact ⟨known, (List.getElem?_append_left inside).trans found, same⟩

theorem isPaid_send (fresh : payment.applied = false) : (before.send payment).isPaid row = before.isPaid row := by
  simp [Payments.isPaid, Payments.send, fresh]

theorem paid_send (fresh : payment.applied = false) : (before.send payment).paid row = before.paid row := by
  simp [Payments.paid, Payments.send, fresh]

theorem Payments.Fits.send (fits : before.Fits row phase)
    (fresh : payment.applied = false) : (before.send payment).Fits row phase := by
  cases phase with
  | completing => exact (isPaid_send fresh).trans fits
  | submitting hash | remembering hash => exact knows_send fits
  | _ => trivial

theorem Kept.send (kept : Kept before) (fresh : payment.applied = false)
    (within : payment.row < before.rows.length) (built : payment.sequence ∈ before.sequences payment.row) :
    Kept (before.send payment) := by
  have sequences : ∀ row, ∀ sequence ∈ (before.send payment).sequences row, sequence ∈ before.sequences row := by
    intro row sequence member
    rcases (mem_sequences).mp member with ⟨sent, present, rfl, rfl⟩ | building
    · rcases List.mem_append.mp present with earlier | new
      · exact (mem_sequences).mpr (.inl ⟨sent, earlier, rfl, rfl⟩)
      · rwa [List.mem_singleton.mp new]
    · exact (mem_sequences).mpr (.inr building)
  constructor
  · intro sent member
    rcases List.mem_append.mp member with earlier | new
    · exact kept.within sent earlier
    · rwa [List.mem_singleton.mp new]
  · intro row sequence member
    exact kept.next row sequence (sequences row sequence member)
  · intro row
    rw [paid_send fresh]
    exact kept.once row
  · intro row settled
    rw [isPaid_send fresh] at settled
    apply (isSpent_iff).mpr
    intro sequence member
    exact kept.spent_iff row settled sequence (sequences row sequence member)
  · intro row failed
    rw [isPaid_send fresh]
    exact kept.unpaid row failed
  · intro index row found done
    rw [isPaid_send fresh]
    exact kept.completed index row found done
  · intro index row found
    exact knows_send (kept.knows index row found)
  · intro pass member task present
    exact knows_send (kept.tasks pass member task present)
  · intro pass member task present
    exact (kept.fits pass member task present).send fresh

theorem Kept.change (kept : Kept before) {change : Row → Row}
    (failed : ∀ stored, before.rows[index]? = some stored → (change stored).status = .failed →
      before.isPaid index = false ∧ before.isSpent index = true)
    (completed : ∀ stored, before.rows[index]? = some stored → (change stored).status = .completed →
      before.isPaid index = true)
    (knows : ∀ stored, before.rows[index]? = some stored → before.Knows index (change stored).stellar.transactionHash) :
    Kept (before.change index change) := by
  have fails : ∀ row, (before.change index change).isFailed row = true → before.isFailed row = true ∨
      (before.isPaid row = false ∧ before.isSpent row = true) := by
    intro row failing
    obtain ⟨stored, found, status⟩ := (isFailed_iff).mp failing
    obtain ⟨old, present, rfl⟩ := getElem?_modify_of_some found
    by_cases same : index = row
    · simp_all
    · rw [if_neg same] at status
      exact .inl ((isFailed_iff).mpr ⟨old, present, status⟩)
  constructor
  · intro payment member
    simpa [Payments.change] using kept.within payment member
  · exact kept.next
  · exact kept.once
  · rintro row (paid | failing)
    · exact kept.spent row (.inl paid)
    · rcases fails row failing with earlier | ⟨_, spent⟩
      · exact kept.spent row (.inr earlier)
      · exact spent
  · intro row failing
    rcases fails row failing with earlier | ⟨unpaid, _⟩
    · exact kept.unpaid row earlier
    · exact unpaid
  · intro row stored found done
    obtain ⟨old, present, rfl⟩ := getElem?_modify_of_some found
    by_cases same : index = row
    · subst same
      rw [if_pos rfl] at done
      exact completed old present done
    · rw [if_neg same] at done
      exact kept.completed row old present done
  · intro row stored found
    obtain ⟨old, present, rfl⟩ := getElem?_modify_of_some found
    by_cases same : index = row
    · subst same
      rw [if_pos rfl]
      exact knows old present
    · rw [if_neg same]
      exact kept.knows row old present
  · exact kept.tasks
  · exact kept.fits

theorem Kept.create (kept : Kept before) {number : ℤ} (now : ℕ) (next : number ≤ before.sequence + 1) :
    Kept { before.send ⟨before.rows.length, number, baseFee, false⟩ with
      rows := before.rows ++ [⟨.pending, ⟨before.sent.length, now, []⟩⟩] } := by
  have fresh : (⟨before.rows.length, number, baseFee, false⟩ : Payment).applied = false := rfl
  have sequences : ∀ row, ∀ sequence ∈ (before.send ⟨before.rows.length, number, baseFee, false⟩).sequences row,
      sequence ∈ before.sequences row ∨ (row = before.rows.length ∧ sequence = number) := by
    intro row sequence member
    rcases (mem_sequences).mp member with ⟨sent, present, rfl, rfl⟩ | building
    · rcases List.mem_append.mp present with earlier | new
      · exact .inl ((mem_sequences).mpr (.inl ⟨sent, earlier, rfl, rfl⟩))
      · simp_all
    · exact .inl ((mem_sequences).mpr (.inr building))
  have rows : ∀ (index : ℕ) stored, (before.rows ++ [⟨.pending, ⟨before.sent.length, now, []⟩⟩])[index]? = some stored →
      before.rows[index]? = some stored ∨
        (index = before.rows.length ∧ stored = ⟨.pending, ⟨before.sent.length, now, []⟩⟩) :=
    fun index stored found => getElem?_append_singleton found
  have unpaid : before.isPaid before.rows.length = false := by
    apply Bool.eq_false_iff.mpr
    intro paid
    obtain ⟨payment, member, same, _⟩ := (isPaid_iff).mp paid
    exact absurd same (Nat.ne_of_lt (kept.within payment member))
  have fails : ∀ row, ({ before.send ⟨before.rows.length, number, baseFee, false⟩ with
      rows := before.rows ++ [⟨.pending, ⟨before.sent.length, now, []⟩⟩] } : Payments).isFailed row = true →
      before.isFailed row = true ∧ row ≠ before.rows.length := by
    intro row failing
    obtain ⟨stored, found, status⟩ := (isFailed_iff).mp failing
    rcases rows row stored found with earlier | ⟨_, rfl⟩
    · obtain ⟨inside, _⟩ := List.getElem?_eq_some_iff.mp earlier
      exact ⟨(isFailed_iff).mpr ⟨stored, earlier, status⟩, Nat.ne_of_lt inside⟩
    · cases status
  constructor
  · intro payment member
    rw [List.length_append]
    rcases List.mem_append.mp member with earlier | new
    · exact Nat.lt_succ_of_lt (kept.within payment earlier)
    · simp_all
  · intro row sequence member
    rcases sequences row sequence member with earlier | ⟨_, rfl⟩
    · exact kept.next row sequence earlier
    · exact next
  · intro row
    exact Nat.le_trans (Nat.le_of_eq (paid_send fresh)) (kept.once row)
  · intro row settled
    apply (isSpent_iff).mpr
    intro sequence member
    have old : (before.isPaid row = true ∨ before.isFailed row = true) ∧ row ≠ before.rows.length := by
      rcases settled with paid | failing
      · have earlier : before.isPaid row = true := (isPaid_send fresh).symm.trans paid
        refine ⟨.inl earlier, ?_⟩
        rintro rfl
        cases unpaid.symm.trans earlier
      · exact ⟨.inr (fails row failing).1, (fails row failing).2⟩
    rcases sequences row sequence member with earlier | ⟨new, _⟩
    · exact kept.spent_iff row old.1 sequence earlier
    · exact absurd new old.2
  · intro row failing
    exact (isPaid_send fresh).trans (kept.unpaid row (fails row failing).1)
  · intro index stored found done
    rcases rows index stored found with earlier | ⟨_, rfl⟩
    · exact (isPaid_send fresh).trans (kept.completed index stored earlier done)
    · cases done
  · intro index stored found
    rcases rows index stored found with earlier | ⟨rfl, rfl⟩
    · exact knows_send (kept.knows index stored earlier)
    · exact ⟨_, List.getElem?_concat_length, rfl⟩
  · intro pass member task present
    exact knows_send (kept.tasks pass member task present)
  · intro pass member task present
    exact (kept.fits pass member task present).send fresh

theorem Kept.advance (kept : Kept before) : Kept { before with sequence := before.sequence + 1 } := by
  have grows : before.sequence ≤ before.sequence + 1 := Int.le_add_one (le_refl _)
  constructor
  · exact kept.within
  · intro row sequence member
    exact Int.le_trans (kept.next row sequence member) (Int.add_le_add_right grows 1)
  · exact kept.once
  · intro row settled
    apply (isSpent_iff).mpr
    intro sequence member
    exact Int.le_trans (kept.spent_iff row settled sequence member) grows
  · exact kept.unpaid
  · exact kept.completed
  · exact kept.knows
  · exact kept.tasks
  · exact kept.fits

theorem paid_eq_zero : before.paid row = 0 ↔ before.isPaid row = false := by
  simp [Payments.paid, Payments.isPaid]

theorem Kept.apply (kept : Kept before) (found : before.sent[hash]? = some payment)
    (next : payment.sequence = before.sequence + 1) : Kept (before.apply hash payment) := by
  have sent : payment ∈ before.sent := List.mem_of_getElem? found
  have listed : payment.sequence ∈ before.sequences payment.row := (mem_sequences).mpr (.inl ⟨payment, sent, rfl, rfl⟩)
  have unsettled : ¬(before.isPaid payment.row = true ∨ before.isFailed payment.row = true) := by
    intro settled
    have used := kept.spent_iff payment.row settled payment.sequence listed
    rw [next] at used
    exact absurd used (Int.not_le.mpr (Int.lt_succ _))
  have unpaid : before.isPaid payment.row = false := Bool.eq_false_iff.mpr fun paid => unsettled (.inl paid)
  have fresh : payment.applied = false := by
    apply Bool.eq_false_iff.mpr
    intro applied
    exact unsettled (.inl ((isPaid_iff).mpr ⟨payment, sent, rfl, applied⟩))
  have members : ∀ other ∈ (before.apply hash payment).sent, ∃ old ∈ before.sent, old.row = other.row ∧
      old.sequence = other.sequence ∧ (other.applied = true → old.applied = true ∨ old = payment) := by
    exact forall_mem_set (fun other earlier => ⟨other, earlier, rfl, rfl, .inl⟩) ⟨payment, sent, rfl, rfl, fun _ => .inr rfl⟩
  have sequences : ∀ row, ∀ sequence ∈ (before.apply hash payment).sequences row, sequence ∈ before.sequences row := by
    intro row sequence member
    rcases (mem_sequences).mp member with ⟨other, present, rfl, rfl⟩ | building
    · obtain ⟨old, earlier, same, number, _⟩ := members other present
      exact (mem_sequences).mpr (.inl ⟨old, earlier, same, number⟩)
    · exact (mem_sequences).mpr (.inr building)
  have stays : ∀ row, before.isPaid row = true → (before.apply hash payment).isPaid row = true := by
    intro row paid
    obtain ⟨other, member, same, applied⟩ := (isPaid_iff).mp paid
    refine (isPaid_iff).mpr ⟨other, mem_set_of_ne member found ?_, same, applied⟩
    rintro rfl
    cases fresh.symm.trans applied
  have paid : ∀ row, (before.apply hash payment).isPaid row = true → before.isPaid row = true ∨ row = payment.row := by
    intro row paid
    obtain ⟨other, member, rfl, applied⟩ := (isPaid_iff).mp paid
    obtain ⟨old, earlier, same, _, was⟩ := members other member
    rcases was applied with already | rfl
    · exact .inl ((isPaid_iff).mpr ⟨old, earlier, same, already⟩)
    · exact .inr same.symm
  have knows : ∀ row other, before.Knows row other → (before.apply hash payment).Knows row other := by
    rintro row other ⟨known, there, same⟩
    by_cases here : other = hash
    · subst here
      cases found.symm.trans there
      obtain ⟨inside, _⟩ := List.getElem?_eq_some_iff.mp found
      exact ⟨{ payment with applied := true }, by simp [Payments.apply, inside], same⟩
    · exact ⟨known, by simpa [Payments.apply, List.getElem?_set_ne (Ne.symm here)] using there, same⟩
  constructor
  · intro other member
    obtain ⟨old, earlier, same, _⟩ := members other member
    exact same ▸ kept.within old earlier
  · intro row number member
    rw [Payments.apply, next]
    exact Int.le_trans (kept.next row number (sequences row number member)) (Int.le_add_one (le_refl _))
  · intro row
    have counted := countP_set (fun other : Payment => other.row = row && other.applied) found
      { payment with applied := true }
    by_cases here : payment.row = row
    · subst here
      have zero := (paid_eq_zero).mpr unpaid
      simp only [fresh, Bool.and_false, Bool.and_true, decide_true, Bool.toNat_false, Bool.toNat_true] at counted
      exact Nat.le_of_eq (counted.trans (congrArg (· + 1) zero))
    · simp only [here, decide_false, Bool.false_and, Bool.toNat_false] at counted
      exact Nat.le_trans (Nat.le_of_eq counted) (kept.once row)
  · intro row settled
    apply (isSpent_iff).mpr
    intro number member
    rw [Payments.apply, next]
    exact kept.next row number (sequences row number member)
  · intro row failing
    apply Bool.eq_false_iff.mpr
    intro now
    rcases paid row now with earlier | rfl
    · cases (kept.unpaid row failing).symm.trans earlier
    · exact unsettled (.inr failing)
  · intro index row stored done
    exact stays index (kept.completed index row stored done)
  · intro index row stored
    exact knows _ _ (kept.knows index row stored)
  · intro pass member task present
    exact knows _ _ (kept.tasks pass member task present)
  · intro pass member task present
    have fits := kept.fits pass member task present
    cases phase : pass.phase with
    | completing =>
      rw [phase] at fits
      exact stays _ fits
    | submitting hash =>
      rw [phase] at fits
      exact knows _ _ fits
    | remembering hash =>
      rw [phase] at fits
      exact knows _ _ fits
    | _ => trivial

theorem isPaid_of_isApplied (knows : before.Knows row hash) (applied : before.isApplied hash = true) :
    before.isPaid row = true := by
  obtain ⟨payment, found, same⟩ := knows
  rw [Payments.isApplied, found] at applied
  exact (isPaid_iff).mpr ⟨payment, List.mem_of_getElem? found, same, applied⟩

theorem Kept.inside (kept : Kept before) (knows : before.Knows row hash) : row < before.rows.length := by
  obtain ⟨payment, found, rfl⟩ := knows
  exact kept.within payment (List.mem_of_getElem? found)

theorem Kept.start (kept : Kept before) (now : ℕ) :
    Kept { before with passes := before.passes ++ [⟨before.select now, .checking⟩] } := by
  have sequences : ∀ row, ∀ sequence ∈ ({ before with
      passes := before.passes ++ [⟨before.select now, .checking⟩] } : Payments).sequences row,
      sequence ∈ before.sequences row := by
    intro row sequence member
    rcases (mem_sequences).mp member with sent | ⟨pass, present, building⟩
    · exact (mem_sequences).mpr (.inl sent)
    · rcases List.mem_append.mp present with earlier | new
      · exact (mem_sequences).mpr (.inr ⟨pass, earlier, building⟩)
      · simp_all [Pass.building]
  constructor
  · exact kept.within
  · intro row sequence member
    exact kept.next row sequence (sequences row sequence member)
  · exact kept.once
  · intro row settled
    apply (isSpent_iff).mpr
    intro sequence member
    exact kept.spent_iff row settled sequence (sequences row sequence member)
  · exact kept.unpaid
  · exact kept.completed
  · exact kept.knows
  · intro pass member task present
    rcases List.mem_append.mp member with earlier | new
    · exact kept.tasks pass earlier task present
    · rw [List.mem_singleton.mp new] at present
      obtain ⟨⟨stored, index⟩, entry, chosen⟩ := List.mem_filterMap.mp present
      dsimp only at chosen
      split at chosen
      · cases chosen
        exact kept.knows index stored (List.mem_zipIdx_iff_getElem?.mp entry)
      · cases chosen
  · intro pass member task present
    rcases List.mem_append.mp member with earlier | new
    · exact kept.fits pass earlier task present
    · rw [List.mem_singleton.mp new]
      trivial

theorem Kept.mark (kept : Kept before) {pass : ℕ} {status : Queue.TransactionStatus}
    (found : before.passes[pass]? = some ⟨task :: tasks, phase⟩) (marks : phase.status = some status)
    (safe : phase = .failing → before.isPaid task.row = false ∧ before.isSpent task.row = true) :
    Kept ((before.goOn pass ⟨tasks, .checking⟩).change task.row (Row.setStatus status)) := by
  have fits := kept.fits _ (List.mem_of_getElem? found) task rfl
  have marked : Kept (before.change task.row (Row.setStatus status)) := by
    apply kept.change
    · intro stored _ failed
      cases phase with
      | failing => exact safe rfl
      | completing =>
        cases marks
        cases failed
      | _ => cases marks
    · intro stored _ done
      cases phase with
      | completing => exact fits
      | failing =>
        cases marks
        cases done
      | _ => cases marks
    · intro stored present
      exact kept.knows task.row stored present
  exact marked.skip found

theorem verdict_cases (stellar : StellarMeta) (answer : Lookup) :
    (answer = .found ∧ verdict stellar answer = .completing) ∨ verdict stellar answer = .failing ∨
      verdict stellar answer = .loading := by
  cases answer with
  | found => exact .inl ⟨rfl, rfl⟩
  | _ =>
    right
    by_cases enough : 3 ≤ stellar.feeBumps.length
    · exact .inl (if_pos enough)
    · exact .inr (if_neg enough)

theorem Kept.step (kept : Kept before) {label : Label} (move : step before label after)
    (safe : isSafe before label = true) : Kept after := by
  cases label with
  | create sequence now =>
    simp only [FeeBumps.step, Payments.perform] at move
    split at move
    · rename_i next
      cases move
      exact kept.create now next
    · cases move
  | runFeeBumpJob now =>
    cases move
    exact kept.start now
  | check pass answer =>
    simp only [FeeBumps.step, Payments.perform] at move
    split at move
    · rename_i task tasks found
      split at move
      · cases move
      · rename_i possible
        cases move
        have knows := kept.tasks _ (List.mem_of_getElem? found) task List.mem_cons_self
        apply kept.goOn found
        · simp
        · intro other first
          cases first
          rcases verdict_cases task.stellar answer with ⟨rfl, completing⟩ | failing | loading
          · have applied : before.isApplied task.stellar.transactionHash = true := by simpa using possible
            rw [completing]
            exact isPaid_of_isApplied knows applied
          · rw [failing]
            trivial
          · rw [loading]
            trivial
        · intro row sequence building
          rcases verdict_cases task.stellar answer with ⟨_, completing⟩ | failing | loading
          · rw [completing] at building
            cases building
          · rw [failing] at building
            cases building
          · rw [loading] at building
            cases building
    · cases move
  | mark pass tookEffect =>
    simp only [FeeBumps.step, Payments.perform] at move
    split at move
    · rename_i task tasks phase found
      split at move
      · cases move
      · rename_i status marks
        cases move
        cases tookEffect with
        | false => exact kept.skip found
        | true =>
          apply kept.mark found marks
          rintro rfl
          simpa [isSafe, found] using safe
    · cases move
  | load pass answered =>
    simp only [FeeBumps.step, Payments.perform] at move
    split at move
    · rename_i task tasks found
      cases move
      have clear : before.isPaid task.row = false ∧ before.isFailed task.row = false := by
        simpa [isSafe, found] using safe
      cases answered with
      | false => exact kept.skip found
      | true =>
        apply kept.goOn found
        · simp
        · intro other _
          trivial
        · intro row sequence building
          cases building
          exact ⟨rfl, clear⟩
    · cases move
  | submit pass =>
    simp only [FeeBumps.step, Payments.perform] at move
    split at move
    · rename_i task tasks sequence found
      cases move
      have knows := kept.tasks _ (List.mem_of_getElem? found) task List.mem_cons_self
      have built : sequence + 1 ∈ before.sequences task.row :=
        (mem_sequences).mpr (.inr ⟨_, List.mem_of_getElem? found, rfl⟩)
      have sent : Kept (before.send ⟨task.row, sequence + 1, newFee task.stellar, false⟩) :=
        kept.send rfl (kept.inside knows) built
      apply sent.goOn found
      · simp
      · intro other first
        cases first
        exact ⟨_, List.getElem?_concat_length, rfl⟩
      · nofun
    · cases move
  | answer pass accepted =>
    simp only [FeeBumps.step, Payments.perform] at move
    split at move
    · rename_i task tasks hash found
      split at move
      · split at move
        · cases move
          apply kept.goOn found
          · simp
          · intro other first
            cases first
            exact kept.fits _ (List.mem_of_getElem? found) task rfl
          · nofun
        · cases move
      · cases move
        exact kept.skip found
    · cases move
  | remember pass tookEffect now =>
    simp only [FeeBumps.step, Payments.perform] at move
    split at move
    · rename_i task tasks hash found
      cases move
      cases tookEffect with
      | false => exact kept.skip found
      | true =>
        have knows : before.Knows task.row hash := kept.fits _ (List.mem_of_getElem? found) task rfl
        have changed : Kept (before.change task.row (Row.updateMetadata (task.stellar.bump hash now))) := by
          apply kept.change
          · intro stored present failed
            have failing := (isFailed_iff).mpr ⟨stored, present, failed⟩
            exact ⟨kept.unpaid task.row failing, kept.spent task.row (.inr failing)⟩
          · intro stored present done
            exact kept.completed task.row stored present done
          · intro stored _
            exact knows
        exact changed.skip found
    · cases move
  | receive hash =>
    simp only [FeeBumps.step, Payments.perform] at move
    split at move
    · cases move
    · rename_i payment found
      split at move
      · rename_i next
        cases move
        exact kept.apply found next
      · simp_all
  | advance =>
    cases move
    exact kept.advance

theorem Kept.paidOnce (kept : Kept before) : PaidOnce before := by
  constructor
  · exact kept.once
  · intro index row found done
    have paid := kept.completed index row found done
    have some : before.paid index ≠ 0 := by
      intro zero
      cases ((paid_eq_zero).mp zero).symm.trans paid
    exact Nat.le_antisymm (kept.once index) (Nat.pos_of_ne_zero some)
  · intro index row found failed
    have failing := (isFailed_iff).mpr ⟨row, found, failed⟩
    refine ⟨(paid_eq_zero).mpr (kept.unpaid index failing), fun payment sent here => ?_⟩
    exact kept.spent_iff index (.inr failing) payment.sequence ((mem_sequences).mpr (.inl ⟨payment, sent, here, rfl⟩))

/-- In every such run no row is paid twice, and rows are completed and failed rightly. -/
theorem rows_paidOnce {sequence : ℤ} {trace : List Label} {last : Payments} (run : Run step (.initial sequence) trace last)
    (safe : Throughout step (.initial sequence) (fun before label _ => isSafe before label = true) trace) :
    PaidOnce last := by
  have kept : Kept last := by
    apply run.kept safe
    · exact kept_initial sequence
    · intro before label after kept move safe
      exact kept.step move safe
  exact kept.paidOnce

/-- A payment is stuck, its bump is applied, and the next pass finds it. -/
def bumped : List Label :=
  [.create 8 0, .runFeeBumpJob 40000, .check 0 .notFound, .load 0 true, .submit 0, .receive 1, .receive 0, .answer 0 true,
    .remember 0 true 40001, .runFeeBumpJob 80000, .check 1 .found, .mark 1 true]

theorem bumped_paidOnce : ∃ last : Payments, last.rows.map Row.status = [.completed] ∧ last.paid 0 = 1 ∧ PaidOnce last := by
  have followed : (bumped.foldlM Payments.perform (.initial 7)).map (fun payments =>
      (payments.rows.map Row.status, payments.paid 0)) = some ([.completed], 1) := by decide
  obtain ⟨last, reached, same⟩ := Option.map_eq_some_iff.mp followed
  obtain ⟨statuses, paid⟩ := Prod.mk.inj same
  exact ⟨last, statuses, paid, rows_paidOnce (Run.follow reached) (throughout_follow (by decide))⟩

/-- The payment is applied, and the lookup of its hash fails. -/
def paidTwice : List Label :=
  [.create 8 0, .receive 0, .runFeeBumpJob 40000, .check 0 .error, .load 0 true, .submit 0, .receive 1]

theorem paidTwice_not_once : ¬∀ (sequence : ℤ) (trace : List Label) (last : Payments),
    Run step (.initial sequence) trace last → PaidOnce last := by
  intro always
  have followed : (paidTwice.foldlM Payments.perform (.initial 7)).map (fun payments => payments.paid 0) = some 2 := by
    decide
  obtain ⟨last, reached, twice⟩ := Option.map_eq_some_iff.mp followed
  have once := (always _ _ _ (Run.follow reached)).once 0
  rw [twice] at once
  exact absurd once (by decide)

end ProxyPay.FeeBumps
