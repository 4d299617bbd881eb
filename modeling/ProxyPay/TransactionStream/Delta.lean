import Mathlib.Data.Int.Notation
import ProxyPay.Library.InsertionMap

/-! Transaction updates as deltas, and the client that puts the snapshots together again. -/

namespace ProxyPay.TransactionStream

open Library

/-- The names that every object inherits from `Object.prototype`. -/
def objectPrototype : List String :=
  ["constructor", "__defineGetter__", "__defineSetter__", "hasOwnProperty", "__lookupGetter__", "__lookupSetter__",
    "isPrototypeOf", "propertyIsEnumerable", "toString", "valueOf", "__proto__", "toLocaleString"]

variable {Value Packed : Type}

/-- The own keys of an object, and their values. -/
abbrev TransactionSnapshot (Value : Type) := InsertionMap String Value

/-- `fields[key] = value`; for `__proto__` this changes the prototype and no field. -/
def assign (fields : TransactionSnapshot Value) (entry : String × Value) : TransactionSnapshot Value :=
  if entry.1 = "__proto__" then fields else fields.set entry.1 entry.2

/-- `key in object` -/
def hasKey (object : TransactionSnapshot Value) (key : String) : Bool :=
  (object.get? key).isSome || key ∈ objectPrototype

variable (stringify : Value → String)

/-- `JSON.stringify(object[key])`; what is inherited is a function, which has no text, or the empty prototype. -/
def propertyText (object : TransactionSnapshot Value) (key : String) : Option String :=
  match object.get? key with
  | some value => some (stringify value)
  | none => if key = "__proto__" then some "{}" else none

structure TransactionDelta (Value : Type) where
  changedFields : TransactionSnapshot Value
  removedFields : List String

def computeDelta (previous : Option (TransactionSnapshot Value))
    (current : TransactionSnapshot Value) : Option (TransactionDelta Value) :=
  match previous with
  | none => some ⟨current, []⟩
  | some previous =>
    let changedFields := (current.entries.filter fun entry =>
      propertyText stringify previous entry.1 ≠ some (stringify entry.2)).foldl assign .empty
    let removedFields := (previous.entries.map Prod.fst).filter fun key => !hasKey current key
    if changedFields.entries.length = 0 ∧ removedFields.length = 0 then none else some ⟨changedFields, removedFields⟩

variable (subscription : Option (List String))

/-- `alwaysSet.has(key) || subscription.fields.has(key)`; without a subscription every key is included. -/
def included (alwaysInclude : List String) (key : String) : Bool :=
  subscription.all fun fields => key ∈ alwaysInclude || key ∈ fields

def filterDeltaForSubscription (alwaysInclude : List String)
    (delta : TransactionDelta Value) : TransactionDelta Value :=
  match subscription with
  | none => delta
  | some _ =>
    ⟨(delta.changedFields.entries.filter fun entry => included subscription alwaysInclude entry.1).foldl assign .empty,
      delta.removedFields.filter (included subscription alwaysInclude)⟩

/-- gzip of the JSON text of a delta, without loss, and the size of the text. -/
structure Codec (Value Packed : Type) where
  gzip : TransactionDelta Value → Packed
  gunzip : Packed → TransactionDelta Value
  lossless : ∀ delta, gunzip (gzip delta) = delta
  byteLength : TransactionDelta Value → ℕ

structure Payload (Value Packed : Type) extends TransactionDelta Value where
  compressedPayload : Option Packed

def maybeGzipDelta (codec : Codec Value Packed) (thresholdBytes : ℤ) (delta : TransactionDelta Value) :
    Payload Value Packed :=
  if codec.byteLength delta ≤ thresholdBytes then ⟨delta, none⟩ else ⟨⟨.empty, []⟩, some (codec.gzip delta)⟩

/-- What the stream of a client is made with. -/
structure Options (Value Packed : Type) where
  stringify : Value → String
  codec : Codec Value Packed
  subscription : Option (List String)
  alwaysInclude : List String
  thresholdBytes : ℤ

variable (options : Options Value Packed)

def processTransactionUpdate (previous : Option (TransactionSnapshot Value)) (current : TransactionSnapshot Value) :
    Option (Payload Value Packed) :=
  (computeDelta options.stringify previous current).map fun delta =>
    maybeGzipDelta options.codec options.thresholdBytes
      (filterDeltaForSubscription options.subscription options.alwaysInclude delta)

/-- The client decompresses what is compressed, sets the changed fields and deletes the removed ones. -/
def applyPayload (view : TransactionSnapshot Value) (payload : Payload Value Packed) : TransactionSnapshot Value :=
  let delta := (payload.compressedPayload.map options.codec.gunzip).getD payload.toTransactionDelta
  delta.removedFields.foldl InsertionMap.erase (view.overlay delta.changedFields.entries)

/-- The last snapshot and the view of the client, after one more snapshot. -/
def update (stream : Option (TransactionSnapshot Value) × TransactionSnapshot Value) (current : TransactionSnapshot Value) :
    Option (TransactionSnapshot Value) × TransactionSnapshot Value :=
  (some current, ((processTransactionUpdate options stream.1 current).map (applyPayload options stream.2)).getD stream.2)

/-! What a delta says. -/

section Deltas

variable {map view current : TransactionSnapshot Value} {key : String}

theorem get?_assigned (keep : String × Value → Bool)
    (ordinary : ∀ value, map.get? "__proto__" = some value → keep ("__proto__", value) = false) :
    ((map.entries.filter keep).foldl assign .empty).get? key = (map.get? key).filter fun value => keep (key, value) := by
  have plain : ∀ entry ∈ map.entries.filter keep, entry.1 ≠ "__proto__" := by
    rintro ⟨key, value⟩ member rfl
    obtain ⟨there, kept⟩ := List.mem_filter.mp member
    rw [ordinary value (InsertionMap.mem_entries.mp there)] at kept
    cases kept
  have assigned (entries : List (String × Value)) (fields : TransactionSnapshot Value)
      (plain : ∀ entry ∈ entries, entry.1 ≠ "__proto__") : entries.foldl assign fields = fields.overlay entries := by
    induction entries generalizing fields with
    | nil => rfl
    | cons entry rest ih =>
      rw [List.foldl_cons, assign, if_neg (plain entry List.mem_cons_self)]
      exact ih _ fun other member => plain other (List.mem_cons_of_mem _ member)
  have absent (none_kept : ∀ value, (key, value) ∈ map.entries → keep (key, value) = false) :
      key ∉ (map.entries.filter keep).map Prod.fst := by
    intro named
    obtain ⟨entry, there, rfl⟩ := List.mem_map.mp named
    obtain ⟨there, kept⟩ := List.mem_filter.mp there
    rw [none_kept entry.2 there] at kept
    cases kept
  rw [assigned _ _ plain]
  cases found : map.get? key with
  | none => exact InsertionMap.get?_overlay_other _ (absent fun value member => by simp_all [InsertionMap.mem_entries])
  | some value =>
    have member := InsertionMap.mem_entries.mpr found
    cases kept : keep (key, value) with
    | true =>
      rw [Option.filter_some, if_pos kept]
      exact InsertionMap.get?_overlay_mem _ ((List.filter_sublist.map _).nodup map.distinct)
        (List.mem_filter.mpr ⟨member, kept⟩)
    | false =>
      rw [Option.filter_some, kept]
      exact InsertionMap.get?_overlay_other _ (absent fun value member => by simp_all [InsertionMap.mem_entries])

theorem get?_overlay_map : (view.overlay map.entries).get? key = (map.get? key).or (view.get? key) := by
  cases found : map.get? key with
  | none =>
    apply InsertionMap.get?_overlay_other
    rw [InsertionMap.mem_keys, found]
    simp
  | some value => exact InsertionMap.get?_overlay_mem _ map.distinct (InsertionMap.mem_entries.mpr found)

variable {options} {previous : TransactionSnapshot Value}

/-- A field `__proto__` is only in what is sent whole, and stays as it is; no field is removed that every object inherits. -/
def Ordinary (options : Options Value Packed) (previous : Option (TransactionSnapshot Value))
    (current : TransactionSnapshot Value) : Prop :=
  match previous with
  | none => options.subscription = none ∨ current.get? "__proto__" = none
  | some before => current.get? "__proto__" = before.get? "__proto__" ∧
    ∀ key ∈ objectPrototype, (before.get? key).isSome = true → (current.get? key).isSome = true

/-- The view is the snapshot, restricted to the included keys. -/
def Shows (options : Options Value Packed) (view snapshot : TransactionSnapshot Value) : Prop :=
  ∀ key, view.get? key = if included options.subscription options.alwaysInclude key then snapshot.get? key else none

theorem applyPayload_process (delta : TransactionDelta Value)
    (ordinary : options.subscription = none ∨ delta.changedFields.get? "__proto__" = none) :
    (applyPayload options view (maybeGzipDelta options.codec options.thresholdBytes
        (filterDeltaForSubscription options.subscription options.alwaysInclude delta))).get? key =
      if included options.subscription options.alwaysInclude key then
        if key ∈ delta.removedFields then none else (delta.changedFields.get? key).or (view.get? key)
      else view.get? key := by
  have sent (sent : TransactionDelta Value) :
      (applyPayload options view (maybeGzipDelta options.codec options.thresholdBytes sent)).get? key =
        if key ∈ sent.removedFields then none else (sent.changedFields.get? key).or (view.get? key) := by
    have opened : ((maybeGzipDelta options.codec options.thresholdBytes sent).compressedPayload.map
        options.codec.gunzip).getD (maybeGzipDelta options.codec options.thresholdBytes sent).toTransactionDelta = sent := by
      unfold maybeGzipDelta
      split
      · rfl
      · exact options.codec.lossless sent
    rw [applyPayload, opened, InsertionMap.get?_eraseAll, get?_overlay_map]
  rw [sent]
  unfold filterDeltaForSubscription
  cases subscription : options.subscription with
  | none => simp [included]
  | some fields =>
    have dropped : ∀ value, delta.changedFields.get? "__proto__" = some value →
        included (some fields) options.alwaysInclude "__proto__" = false := by
      intro value found
      rcases ordinary with whole | absent
      · rw [subscription] at whole
        cases whole
      · rw [absent] at found
        cases found
    simp only [get?_assigned (fun entry => included (some fields) options.alwaysInclude entry.1) dropped, List.mem_filter]
    cases included (some fields) options.alwaysInclude key with
    | true => cases delta.changedFields.get? key <;> simp [Option.filter_some]
    | false => simp

theorem update_shows (injective : Function.Injective options.stringify) (ordinary : Ordinary options (some previous) current)
    (shows_previous : Shows options view previous) : Shows options (update options (some previous, view) current).2 current ∧
      (processTransactionUpdate options (some previous) current = none → ∀ key, current.get? key = previous.get? key) := by
  obtain ⟨plain, inherits⟩ := ordinary
  have same_text {key : String} {value : Value} (found : current.get? key = some value) :
      propertyText options.stringify previous key = some (options.stringify value) ↔ previous.get? key = some value := by
    unfold propertyText
    cases before : previous.get? key with
    | none =>
      have named : key ≠ "__proto__" := by
        rintro rfl
        rw [plain, before] at found
        cases found
      simp [named]
    | some old => simp [injective.eq_iff]
  have changed (key : String) := @get?_assigned Value current key (fun entry =>
    propertyText options.stringify previous entry.1 ≠ some (options.stringify entry.2))
      fun value found => by simp [same_text found, ← plain, found]
  have removed (key : String) : key ∈ ((previous.entries.map Prod.fst).filter fun key => !hasKey current key) ↔
      (previous.get? key).isSome = true ∧ current.get? key = none := by
    have named := inherits key
    rw [List.mem_filter, InsertionMap.mem_keys, hasKey]
    cases found : current.get? key with
    | none =>
      rw [found] at named
      simp only [Option.isSome_none, Bool.false_or, Bool.not_eq_true', decide_eq_false_iff_not, and_true]
      exact ⟨And.left, fun present => ⟨present, fun inherited => nomatch named inherited present⟩⟩
    | some value => simp
  have unchanged : computeDelta options.stringify (some previous) current = none →
      ∀ key, current.get? key = previous.get? key := by
    intro nothing key
    simp only [computeDelta] at nothing
    split at nothing
    · rename_i empty
      have no_change := changed key
      have no_removal := removed key
      rw [InsertionMap.get?, List.length_eq_zero_iff.mp empty.1] at no_change
      rw [List.length_eq_zero_iff.mp empty.2] at no_removal
      cases found : current.get? key with
      | none =>
        cases before : previous.get? key with
        | none => rfl
        | some old => simp [found, before] at no_removal
      | some value =>
        have same : previous.get? key = some value := by
          simpa [found, same_text found, Option.filter_some] using no_change
        exact same.symm
    · cases nothing
  refine ⟨fun key => ?_, fun nothing => unchanged (Option.map_eq_none_iff.mp nothing)⟩
  unfold update processTransactionUpdate
  cases delta : computeDelta options.stringify (some previous) current with
  | none =>
    simp only [Option.map_none, Option.getD_none]
    rw [shows_previous key, unchanged delta key]
  | some delta =>
    simp only [computeDelta] at delta
    split at delta
    · cases delta
    · cases delta
      simp only [Option.map_some, Option.getD_some]
      have sent := changed "__proto__"
      have plain_sent : options.subscription = none ∨ ((current.entries.filter fun entry =>
          propertyText options.stringify previous entry.1 ≠ some (options.stringify entry.2)).foldl assign .empty).get?
            "__proto__" = none := by
        right
        rw [sent, Option.filter_eq_none_iff]
        intro value found
        simp [same_text found, ← plain, found]
      rw [applyPayload_process _ plain_sent, changed, shows_previous key]
      split
      · simp only [removed]
        cases found : current.get? key with
        | none => cases previous.get? key <;> simp
        | some value =>
          by_cases same : previous.get? key = some value
          · simp [Option.filter_some, same_text found, same]
          · simp [Option.filter_some, same_text found, same]
      · rfl

/-- Texts as values, in deltas of some hundred bytes. -/
def statusStream : Options String (TransactionDelta String) where
  stringify := id
  codec := ⟨id, id, fun _ => rfl, fun _ => 100⟩
  subscription := some ["status"]
  alwaysInclude := ["id"]
  thresholdBytes := 1024

end Deltas

end ProxyPay.TransactionStream
