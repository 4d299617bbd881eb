import ProxyPay.Reconciliation.Csv

/-! When a reconciliation accounts for every row and for every record exactly once. -/

namespace ProxyPay.Reconciliation

open ProxyPay.Library ProxyPay.Library.Text

section Spec

variable (casing : Casing) (providerRows : List ProviderCSVRow) (db : DbResult)

/-- The reference that a row carries, if it is not empty. -/
def reference (row : ProviderCSVRow) : Option String :=
  truthy (rowReference casing row)

/-- The references of a record that are not empty. -/
def references (record : DbRecord) : List String :=
  [some record.referenceNumber, record.providerReference].filterMap fun ref =>
    truthy (normalizeReferenceNumber casing ref)

/-- The last record with this reference. -/
def lastRecord (records : List DbRecord) (ref : String) : Option DbRecord :=
  records.reverse.find? fun record => ref ∈ references casing record

/-- The row carries a reference of some record. -/
def refers (records : List DbRecord) (row : ProviderCSVRow) : Bool :=
  (reference casing row).any fun ref => records.any fun record => ref ∈ references casing record

/-- Every row that carries a reference is in one place of the result, and so is every record. -/
structure Accounted : Prop where
  provider : (((reconcileTransactions casing providerRows db).matched ++
      (reconcileTransactions casing providerRows db).discrepancies).map
        ReconciliationMatch.providerRecord ++
      (reconcileTransactions casing providerRows db).orphanedProvider).Perm
    (providerRows.filter fun row => (reference casing row).isSome)
  database : (((reconcileTransactions casing providerRows db).matched ++
      (reconcileTransactions casing providerRows db).discrepancies).map
        ReconciliationMatch.dbRecord ++
      (reconcileTransactions casing providerRows db).orphanedDb).Perm db.rows
  total : (reconcileTransactions casing providerRows db).summary.totalMatched +
      (reconcileTransactions casing providerRows db).summary.totalDiscrepancies +
      (reconcileTransactions casing providerRows db).summary.totalOrphanedDb =
    (reconcileTransactions casing providerRows db).totalDbRecords

/-- No two rows carry the same reference of a record, no record is the last one with two references
that rows carry, and a record that shares a reference with the last one for a row is the last one
for a row itself. -/
structure Unambiguous : Prop where
  rows : ((providerRows.filter (refers casing db.rows)).map (reference casing)).Nodup
  records : ∀ first ∈ providerRows, ∀ second ∈ providerRows, ∀ ref ∈ reference casing first,
    ∀ other ∈ reference casing second, ∀ record ∈ lastRecord casing db.rows ref,
      record ∈ lastRecord casing db.rows other → ref = other
  shared : ∀ row ∈ providerRows, ∀ ref ∈ reference casing row,
    ∀ record ∈ lastRecord casing db.rows ref, ∀ other ∈ db.rows,
      (∃ common ∈ references casing record, common ∈ references casing other) →
        ∃ own ∈ providerRows, ∃ ref ∈ reference casing own, other ∈ lastRecord casing db.rows ref

end Spec

theorem perm_append_filter_iff {Item : Type} {items rest : List Item} {taken : Item → Bool} :
    (items ++ rest.filter fun item => !taken item).Perm rest ↔ items.Perm (rest.filter taken) := by
  have whole : (rest.filter taken ++ rest.filter fun item => !taken item).Perm rest :=
    List.filter_append_perm taken rest
  constructor
  · intro perm
    exact (List.perm_append_right_iff _).mp (perm.trans whole.symm)
  · intro perm
    exact ((List.perm_append_right_iff _).mpr perm).trans whole

theorem nodup_filterMap_iff {Item Value : Type} {items : List Item} {value : Item → Option Value}
    (distinct : items.Nodup) : (items.filterMap value).Nodup ↔
      ∀ first ∈ items, ∀ second ∈ items, ∀ found, value first = some found →
        value second = some found → first = second := by
  constructor
  · intro nodup first present second there found own same
    rw [List.Nodup, List.pairwise_filterMap] at nodup
    have symmetric : Std.Symm fun a b => ∀ found, value a = some found →
        ∀ other, value b = some other → found ≠ other :=
      ⟨fun _ _ apart found own other same equal => apart other same found own equal.symm⟩
    by_contra different
    exact nodup.forall present there different found own found same rfl
  · intro injective
    rw [List.Nodup, List.pairwise_filterMap]
    apply distinct.pairwise_of_forall_ne
    intro first present second there different found own other same equal
    subst equal
    exact different (injective first present second there found own same)

section Index

variable {casing : Casing} {records : List DbRecord} {record : DbRecord} {ref : String}

theorem mem_references : ref ∈ references casing record ↔
    truthy (normalizeReferenceNumber casing (some record.referenceNumber)) = some ref ∨
      truthy (normalizeReferenceNumber casing record.providerReference) = some ref := by
  simp [references]

theorem get?_indexRecord {index : InsertionMap String DbRecord} : (indexRecord casing index record).get? ref =
      if ref ∈ references casing record then some record else index.get? ref := by
  simp only [mem_references]
  unfold indexRecord
  cases truthy (normalizeReferenceNumber casing (some record.referenceNumber)) with
  | none | some first => grind

theorem get?_dbByReference : (dbByReference casing records).get? ref = lastRecord casing records ref := by
  induction records using List.reverseRecOn with
  | nil => rfl
  | append_singleton records record ih =>
    have indexed : dbByReference casing (records ++ [record]) =
        indexRecord casing (dbByReference casing records) record := by simp [dbByReference]
    rw [indexed, get?_indexRecord, ih]
    unfold lastRecord
    rw [List.reverse_append, List.reverse_singleton, List.singleton_append, List.find?_cons]
    by_cases own : ref ∈ references casing record <;> simp [own]

theorem lastRecord_mem (last : lastRecord casing records ref = some record) : record ∈ records := by
  simpa using List.mem_of_find?_eq_some last

theorem references_lastRecord (last : lastRecord casing records ref = some record) :
    ref ∈ references casing record := by
  simpa using List.find?_some last

theorem lastRecord_isSome : (lastRecord casing records ref).isSome = true ↔
    records.any (fun record => ref ∈ references casing record) = true := by
  simp [lastRecord, List.find?_isSome]

end Index

section Loop

variable {casing : Casing} {records : List DbRecord} {state : Matching}
variable {entry : Option String × ProviderCSVRow} {record : DbRecord} {ref : String}

/-- The record that an entry of the provider's map is matched with. -/
def recordFor (casing : Casing) (records : List DbRecord) (ref : Option String) : Option DbRecord :=
  (truthy ref).bind (lastRecord casing records)

def foundFor (casing : Casing) (records : List DbRecord) (entry : Option String × ProviderCSVRow) :
    Option ReconciliationMatch :=
  (recordFor casing records entry.1).map fun record => reconciliationMatch casing record entry.2

theorem visit_of_none (nothing : recordFor casing records entry.1 = none) :
    state.visit casing (dbByReference casing records) entry = state := by
  unfold recordFor at nothing
  unfold Matching.visit
  cases carried : truthy entry.1 with
  | none => rfl
  | some ref =>
    rw [carried, Option.bind_some] at nothing
    simp [get?_dbByReference, nothing]

theorem visit_of_some (found : recordFor casing records entry.1 = some record) : ∃ ref, truthy entry.1 = some ref ∧
      ((state.visit casing (dbByReference casing records) entry).matched ++
        (state.visit casing (dbByReference casing records) entry).discrepancies).Perm
        (state.matched ++ state.discrepancies ++ [reconciliationMatch casing record entry.2]) ∧
      (state.visit casing (dbByReference casing records) entry).matchedDbRefs =
        state.matchedDbRefs ++ record.normalizedReferences casing ∧
      (state.visit casing (dbByReference casing records) entry).matchedProviderRefs =
        state.matchedProviderRefs ++ [ref] := by
  obtain ⟨ref, carried, last⟩ := Option.bind_eq_some_iff.mp found
  refine ⟨ref, carried, ?_⟩
  unfold Matching.visit
  simp only [carried, get?_dbByReference, last]
  by_cases agrees : (reconciliationMatch casing record entry.2).matched = true
  · grind
  · simp_all

/-- What the loop has collected after some entries. -/
structure Collected (casing : Casing) (records : List DbRecord)
    (entries : List (Option String × ProviderCSVRow)) (state : Matching) : Prop where
  found : (state.matched ++ state.discrepancies).Perm (entries.filterMap (foundFor casing records))
  dbRefs : ∀ ref, ref ∈ state.matchedDbRefs ↔ ∃ entry ∈ entries,
    ∃ record ∈ recordFor casing records entry.1, ref ∈ record.normalizedReferences casing
  providerRefs : ∀ ref, ref ∈ state.matchedProviderRefs ↔ ∃ entry ∈ entries,
    truthy entry.1 = some ref ∧ (recordFor casing records entry.1).isSome = true

theorem Collected.visit {entries : List (Option String × ProviderCSVRow)}
    (collected : Collected casing records entries state) :
    Collected casing records (entries ++ [entry]) (state.visit casing (dbByReference casing records) entry) := by
  cases found : recordFor casing records entry.1 with
  | none =>
    rw [visit_of_none found]
    constructor
    · rw [List.filterMap_append]
      simpa [foundFor, found] using collected.found
    · intro ref
      rw [collected.dbRefs]
      simp [or_and_right, exists_or, found]
    · intro ref
      rw [collected.providerRefs]
      simp [or_and_right, exists_or, found]
  | some record =>
    obtain ⟨own, carried, matched, dbRefs, providerRefs⟩ := @visit_of_some _ _ state entry _ found
    constructor
    · refine matched.trans ?_
      rw [List.filterMap_append]
      simpa [foundFor, found] using collected.found.append_right [reconciliationMatch casing record entry.2]
    · intro ref
      rw [dbRefs, List.mem_append, collected.dbRefs]
      simp [or_and_right, exists_or, found]
    · intro ref
      rw [providerRefs, List.mem_append, collected.providerRefs]
      simp [or_and_right, exists_or, found, carried, @eq_comm _ ref own]

theorem collected_fold (entries : List (Option String × ProviderCSVRow)) : Collected casing records entries
      (entries.foldl (Matching.visit casing (dbByReference casing records)) .empty) := by
  induction entries using List.reverseRecOn with
  | nil => constructor <;> simp [Matching.empty]
  | append_singleton entries entry ih =>
    rw [List.foldl_append]
    exact ih.visit

end Loop

section Sides

variable {casing : Casing} {providerRows : List ProviderCSVRow} {db : DbResult}
variable {row : ProviderCSVRow} {record other : DbRecord} {ref : String}

/-- The entries of the provider's map. -/
def entries (casing : Casing) (providerRows : List ProviderCSVRow) : List (Option String × ProviderCSVRow) :=
  (providerByReference casing providerRows).entries

theorem collected (casing : Casing) (providerRows : List ProviderCSVRow) (records : List DbRecord) :
    Collected casing records (entries casing providerRows) (matching casing providerRows records) :=
  collected_fold _

theorem entry_of_mem {entry : Option String × ProviderCSVRow} (member : entry ∈ entries casing providerRows) :
    entry.2 ∈ providerRows ∧ rowReference casing entry.2 = entry.1 := by
  obtain ⟨key, row⟩ := entry
  have found := InsertionMap.mem_entries.mp member
  rw [providerByReference, InsertionMap.get?_ofPairs] at found
  obtain ⟨pair, last, rfl⟩ := Option.map_eq_some_iff.mp found
  have among := List.mem_of_find?_eq_some last
  have own := List.find?_some last
  simp only [List.mem_reverse, List.mem_map] at among
  obtain ⟨row, present, rfl⟩ := among
  exact ⟨present, of_decide_eq_true own⟩

theorem entry_of_row (member : row ∈ providerRows) :
    ∃ last, (rowReference casing row, last) ∈ entries casing providerRows := by
  have present : ((providerByReference casing providerRows).get? (rowReference casing row)).isSome =
      true := by
    rw [providerByReference, InsertionMap.get?_ofPairs, Option.isSome_map, List.find?_isSome]
    refine ⟨(rowReference casing row, row), ?_, by simp⟩
    rw [List.mem_reverse]
    exact List.mem_map.mpr ⟨row, member, rfl⟩
  obtain ⟨last, found⟩ := Option.isSome_iff_exists.mp present
  exact ⟨last, InsertionMap.mem_entries.mpr found⟩

theorem entries_distinct : ((entries casing providerRows).map Prod.fst).Nodup :=
  (providerByReference casing providerRows).distinct

theorem refers_iff :
    refers casing db.rows row = true ↔ (recordFor casing db.rows (rowReference casing row)).isSome = true := by
  unfold refers recordFor reference
  cases truthy (rowReference casing row) with
  | none => simp
  | some ref => simp [lastRecord_isSome]

/-- The rows that are matched are the last ones with each reference of a record. -/
def matchedRows (casing : Casing) (providerRows : List ProviderCSVRow) (records : List DbRecord) :
    List ProviderCSVRow :=
  ((entries casing providerRows).filter fun entry =>
    (recordFor casing records entry.1).isSome).map Prod.snd

def matchedRecords (casing : Casing) (providerRows : List ProviderCSVRow) (records : List DbRecord) : List DbRecord :=
  (entries casing providerRows).filterMap fun entry => recordFor casing records entry.1

theorem providerRecords_perm : (((reconcileTransactions casing providerRows db).matched ++
    (reconcileTransactions casing providerRows db).discrepancies).map
      ReconciliationMatch.providerRecord).Perm (matchedRows casing providerRows db.rows) := by
  have perm := (collected casing providerRows db.rows).found.map ReconciliationMatch.providerRecord
  refine perm.trans (.of_eq ?_)
  unfold matchedRows
  generalize entries casing providerRows = entries
  induction entries with
  | nil => rfl
  | cons entry entries ih =>
    cases found : recordFor casing db.rows entry.1 with
    | none => simpa [foundFor, found] using ih
    | some record => simpa [foundFor, found, reconciliationMatch] using ih

theorem dbRecords_perm : (((reconcileTransactions casing providerRows db).matched ++
    (reconcileTransactions casing providerRows db).discrepancies).map
      ReconciliationMatch.dbRecord).Perm (matchedRecords casing providerRows db.rows) := by
  have perm := (collected casing providerRows db.rows).found.map ReconciliationMatch.dbRecord
  refine perm.trans (.of_eq ?_)
  rw [matchedRecords, List.map_filterMap]
  apply List.filterMap_congr
  intro entry _
  cases found : recordFor casing db.rows entry.1 <;> simp [foundFor, found, reconciliationMatch]

theorem orphanedProvider_eq : (reconcileTransactions casing providerRows db).orphanedProvider =
    (providerRows.filter fun row => (reference casing row).isSome).filter fun row => !refers casing db.rows row := by
  rw [List.filter_filter]
  apply List.filter_congr
  intro row member
  unfold isOrphanedProvider reference
  cases carried : truthy (rowReference casing row) with
  | none => simp
  | some ref =>
    have seen : ref ∈ (matching casing providerRows db.rows).matchedProviderRefs ↔
        refers casing db.rows row = true := by
      rw [refers_iff, (collected casing providerRows db.rows).providerRefs]
      constructor
      · simp_all [recordFor]
      · intro found
        obtain ⟨last, entry⟩ := entry_of_row member
        exact ⟨_, entry, carried, found⟩
    by_cases matched : refers casing db.rows row = true <;> simp [seen, matched]

theorem refers_carries (refers : refers casing db.rows row = true) :
    (reference casing row).isSome = true ∧ rowReference casing row = reference casing row := by
  obtain ⟨ref, carried, _⟩ := (Option.any_eq_true _ _).mp refers
  refine ⟨by rw [carried]; rfl, ?_⟩
  rw [carried]
  exact (truthy_eq_some.mp carried).1

theorem matchedRows_references : ((matchedRows casing providerRows db.rows).map (rowReference casing)).Nodup := by
  have keys : (matchedRows casing providerRows db.rows).map (rowReference casing) =
      ((entries casing providerRows).filter fun entry =>
        (recordFor casing db.rows entry.1).isSome).map Prod.fst := by
    rw [matchedRows, List.map_map]
    apply List.map_congr_left
    intro entry member
    exact (entry_of_mem (List.mem_filter.mp member).1).2
  rw [keys]
  exact (entries_distinct).sublist (List.filter_sublist.map Prod.fst)

theorem mem_matchedRows (member : row ∈ matchedRows casing providerRows db.rows) :
    row ∈ providerRows.filter (refers casing db.rows) := by
  obtain ⟨entry, among, rfl⟩ := List.mem_map.mp member
  obtain ⟨there, found⟩ := List.mem_filter.mp among
  obtain ⟨present, own⟩ := entry_of_mem there
  rw [List.mem_filter, refers_iff, own]
  exact ⟨present, found⟩

theorem matchedRows_perm_iff :
    (matchedRows casing providerRows db.rows).Perm (providerRows.filter (refers casing db.rows)) ↔
      ((providerRows.filter (refers casing db.rows)).map (reference casing)).Nodup := by
  have same : (providerRows.filter (refers casing db.rows)).map (reference casing) =
      (providerRows.filter (refers casing db.rows)).map (rowReference casing) := by
    apply List.map_congr_left
    intro row member
    exact (refers_carries (List.mem_filter.mp member).2).2.symm
  rw [same]
  constructor
  · intro perm
    exact (perm.map (rowReference casing)).nodup_iff.mp matchedRows_references
  · intro distinct
    apply (List.perm_ext_iff_of_nodup (matchedRows_references).of_map distinct.of_map).mpr
    intro row
    constructor
    · exact mem_matchedRows
    · intro member
      obtain ⟨present, refers⟩ := List.mem_filter.mp member
      -- The entry for the reference of the row is some row with that reference.
      obtain ⟨last, entry⟩ := entry_of_row present
      have kept : last ∈ matchedRows casing providerRows db.rows :=
        List.mem_map.mpr ⟨_, List.mem_filter.mpr ⟨entry, (refers_iff).mp refers⟩, rfl⟩
      have equal : last = row :=
        List.inj_on_of_nodup_map distinct (mem_matchedRows kept) member (entry_of_mem entry).2
      exact equal ▸ kept

theorem provider_accounted_iff : (((reconcileTransactions casing providerRows db).matched ++
        (reconcileTransactions casing providerRows db).discrepancies).map ReconciliationMatch.providerRecord ++
        (reconcileTransactions casing providerRows db).orphanedProvider).Perm
      (providerRows.filter fun row => (reference casing row).isSome) ↔
    ((providerRows.filter (refers casing db.rows)).map (reference casing)).Nodup := by
  have referring : (providerRows.filter fun row => (reference casing row).isSome).filter
      (refers casing db.rows) = providerRows.filter (refers casing db.rows) := by
    rw [List.filter_filter]
    apply List.filter_congr
    intro row _
    by_cases refers : Reconciliation.refers casing db.rows row = true
    · simp [refers, (refers_carries refers).1]
    · simp [refers]
  rw [orphanedProvider_eq, perm_append_filter_iff, referring, ← matchedRows_perm_iff]
  exact ⟨(providerRecords_perm).symm.trans, (providerRecords_perm).trans⟩

theorem mem_matchedRecords : record ∈ matchedRecords casing providerRows db.rows ↔
    ∃ row ∈ providerRows, ∃ ref ∈ reference casing row, record ∈ lastRecord casing db.rows ref := by
  unfold matchedRecords
  rw [List.mem_filterMap]
  constructor
  · rintro ⟨entry, member, found⟩
    obtain ⟨present, own⟩ := entry_of_mem member
    obtain ⟨ref, carried, last⟩ := Option.bind_eq_some_iff.mp found
    exact ⟨entry.2, present, ref, by rwa [reference, own], last⟩
  · rintro ⟨row, present, ref, carried, last⟩
    obtain ⟨other, entry⟩ := entry_of_row present
    exact ⟨_, entry, Option.bind_eq_some_iff.mpr ⟨ref, carried, last⟩⟩

theorem mem_normalizedReferences :
    ref ∈ references casing record ↔ ref ∈ record.normalizedReferences casing ∧ ref ≠ "" := by
  simp only [references, DbRecord.normalizedReferences, List.mem_filterMap, truthy_eq_some]
  constructor
  · grind
  · simp_all

theorem isMatched_iff : isMatched casing (matching casing providerRows db.rows) other = true ↔
    ∃ record ∈ matchedRecords casing providerRows db.rows,
      ∃ common ∈ references casing record, common ∈ references casing other := by
  have seen (common : String) (nonempty : common ≠ "") :
      common ∈ (matching casing providerRows db.rows).matchedDbRefs ↔
        ∃ record ∈ matchedRecords casing providerRows db.rows, common ∈ references casing record := by
    rw [(collected casing providerRows db.rows).dbRefs]
    simp only [matchedRecords, List.mem_filterMap, mem_normalizedReferences]
    constructor
    · rintro ⟨entry, member, record, found, own⟩
      exact ⟨record, ⟨entry, member, found⟩, own, nonempty⟩
    · rintro ⟨record, ⟨entry, member, found⟩, own, _⟩
      exact ⟨entry, member, record, found, own⟩
  have matched : isMatched casing (matching casing providerRows db.rows) other = true ↔
      ∃ common ∈ references casing other,
        common ∈ (matching casing providerRows db.rows).matchedDbRefs := by
    simp [isMatched, mem_references, Option.any_eq_true, or_and_right, exists_or]
  rw [matched]
  constructor
  · rintro ⟨common, own, member⟩
    obtain ⟨record, found, shared⟩ := (seen common ((mem_normalizedReferences).mp own).2).mp member
    exact ⟨record, found, common, shared, own⟩
  · rintro ⟨record, found, common, shared, own⟩
    exact ⟨common, own, (seen common ((mem_normalizedReferences).mp own).2).mpr ⟨record, found, shared⟩⟩

theorem matchedRecord_present (member : record ∈ matchedRecords casing providerRows db.rows) :
    record ∈ db.rows ∧ isMatched casing (matching casing providerRows db.rows) record = true := by
  obtain ⟨row, _, ref, _, last⟩ := (mem_matchedRecords).mp member
  have own := references_lastRecord last
  exact ⟨lastRecord_mem last, (isMatched_iff).mpr ⟨record, member, ref, own, own⟩⟩

theorem matchedRecords_nodup_iff : (matchedRecords casing providerRows db.rows).Nodup ↔
    ∀ first ∈ providerRows, ∀ second ∈ providerRows, ∀ ref ∈ reference casing first,
      ∀ other ∈ reference casing second, ∀ record ∈ lastRecord casing db.rows ref,
        record ∈ lastRecord casing db.rows other → ref = other := by
  rw [matchedRecords, nodup_filterMap_iff (entries_distinct).of_map]
  constructor
  · intro injective first present second there ref carried other own record last same
    obtain ⟨row, entry⟩ := entry_of_row present
    obtain ⟨next, later⟩ := entry_of_row there
    have equal := injective _ entry _ later record (Option.bind_eq_some_iff.mpr ⟨ref, carried, last⟩)
      (Option.bind_eq_some_iff.mpr ⟨other, own, same⟩)
    have keys : rowReference casing first = rowReference casing second := congrArg Prod.fst equal
    rw [reference, keys] at carried
    exact Option.some.inj (carried.symm.trans own)
  · intro injective first present second there record found same
    obtain ⟨ref, carried, last⟩ := Option.bind_eq_some_iff.mp found
    obtain ⟨other, own, also⟩ := Option.bind_eq_some_iff.mp same
    obtain ⟨row, key⟩ := entry_of_mem present
    obtain ⟨next, later⟩ := entry_of_mem there
    have equal : ref = other := by
      apply injective first.2 row second.2 next ref _ other _ record last also
      · rwa [reference, key]
      · rwa [reference, later]
    have keys : first.1 = second.1 := by
      rw [(truthy_eq_some.mp carried).1, (truthy_eq_some.mp own).1, equal]
    exact List.inj_on_of_nodup_map entries_distinct present there keys

theorem database_accounted_iff : (((reconcileTransactions casing providerRows db).matched ++
        (reconcileTransactions casing providerRows db).discrepancies).map ReconciliationMatch.dbRecord ++
        (reconcileTransactions casing providerRows db).orphanedDb).Perm db.rows ↔
    (matchedRecords casing providerRows db.rows).Nodup ∧
      ∀ record ∈ db.rows, isMatched casing (matching casing providerRows db.rows) record = true →
        record ∈ matchedRecords casing providerRows db.rows := by
  have distinct : (db.rows.filter (isMatched casing (matching casing providerRows db.rows))).Nodup :=
    db.ids.of_map.filter _
  have orphans : (reconcileTransactions casing providerRows db).orphanedDb =
      db.rows.filter fun record => !isMatched casing (matching casing providerRows db.rows) record := rfl
  rw [orphans, perm_append_filter_iff]
  constructor
  · intro perm
    have same := (dbRecords_perm).symm.trans perm
    refine ⟨same.nodup_iff.mpr distinct, ?_⟩
    intro record present matched
    exact same.mem_iff.mpr (List.mem_filter.mpr ⟨present, matched⟩)
  · rintro ⟨nodup, complete⟩
    apply (dbRecords_perm).trans
    apply (List.perm_ext_iff_of_nodup nodup distinct).mpr
    intro record
    rw [List.mem_filter]
    constructor
    · exact matchedRecord_present
    · simp_all

theorem total_of_database (database : (((reconcileTransactions casing providerRows db).matched ++
      (reconcileTransactions casing providerRows db).discrepancies).map ReconciliationMatch.dbRecord ++
      (reconcileTransactions casing providerRows db).orphanedDb).Perm db.rows) :
    (reconcileTransactions casing providerRows db).summary.totalMatched +
        (reconcileTransactions casing providerRows db).summary.totalDiscrepancies +
        (reconcileTransactions casing providerRows db).summary.totalOrphanedDb =
      (reconcileTransactions casing providerRows db).totalDbRecords := by
  have lengths := database.length_eq
  rw [List.length_append, List.length_map, List.length_append] at lengths
  exact lengths

end Sides

/-- Every row and every record is accounted for exactly once if and only if the references leave
no doubt which row belongs to which record. -/
theorem reconciliation_accounts_iff (casing : Casing) (providerRows : List ProviderCSVRow) (db : DbResult) :
    Accounted casing providerRows db ↔ Unambiguous casing providerRows db := by
  constructor
  · intro accounted
    obtain ⟨nodup, complete⟩ := (database_accounted_iff).mp accounted.database
    constructor
    · exact (provider_accounted_iff).mp accounted.provider
    · exact (matchedRecords_nodup_iff).mp nodup
    · intro row present ref carried record last other there common
      have matched : record ∈ matchedRecords casing providerRows db.rows :=
        (mem_matchedRecords).mpr ⟨row, present, ref, carried, last⟩
      exact (mem_matchedRecords).mp (complete other there ((isMatched_iff).mpr ⟨record, matched, common⟩))
  · intro unambiguous
    have database := (database_accounted_iff).mpr ⟨(matchedRecords_nodup_iff).mpr unambiguous.records, by
      intro other there matched
      obtain ⟨record, found, common⟩ := (isMatched_iff).mp matched
      obtain ⟨row, present, ref, carried, last⟩ := (mem_matchedRecords).mp found
      exact (mem_matchedRecords).mpr
        (unambiguous.shared row present ref carried record last other there common)⟩
    exact ⟨(provider_accounted_iff).mpr unambiguous.rows, database, total_of_database database⟩

/-- A row of a report with this reference. -/
def reported (ref amount : String) : ProviderCSVRow :=
  ⟨some ref, none, none, some amount, some "completed", []⟩

/-- One payment, reported twice. -/
def reportedTwice : List ProviderCSVRow :=
  [reported "TXN-20260327-00001" "100.50", reported "TXN-20260327-00001" "900.00"]

def payment : DbRecord where
  id := "uuid-1"
  referenceNumber := "TXN-20260327-00001"
  providerReference := some "MTN-1"
  amount := "100.50"
  status := "completed"
  phoneNumber := "+1234567890"
  provider := "mtn"
  createdAt := "2026-03-27 10:00:00"

/-- The first row is lost, and with a second transaction of the same provider reference, so is the
payment. -/
theorem row_and_record_lost : ¬ Accounted .ascii reportedTwice ⟨[payment], by decide⟩ ∧
    ¬ Accounted .ascii [reported "MTN-1" "100.50"]
      ⟨[payment, { payment with id := "uuid-2", referenceNumber := "TXN-20260327-00002" }], by decide⟩ := by
  constructor
  · intro accounted
    have lengths := accounted.provider.length_eq
    revert lengths
    decide +kernel
  · intro accounted
    have total := accounted.total
    revert total
    decide +kernel

end ProxyPay.Reconciliation
