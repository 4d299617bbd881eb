import ProxyPay.Library.InsertionMap
import ProxyPay.TransactionFilters.Expressions

/-! The metadata of a transaction: what a patch may hold, and the patch itself, which is merged in the database first
and taken back if the result is too large. -/

namespace ProxyPay.Transactions.Metadata

open ProxyPay.Library
open TransactionFilters (FilterNodeSchema.text)

/-- A JSONB object. Its keys are in no order. -/
abbrev Stored := InsertionMap String Json

/-- An object of the language; the value of a key may be `undefined`. -/
abbrev Patch := InsertionMap String (Option Json)

/-- The members that `JSON.stringify` writes. -/
def Patch.members (patch : Patch) : List (String × Json) :=
  patch.entries.filterMap fun entry => entry.2.map (Prod.mk entry.1)

/-- `Object.keys(patch)` -/
def Patch.keys (patch : Patch) : List String :=
  patch.entries.map Prod.fst

def utf8Length (text : List Char) : ℕ :=
  (text.map Char.utf8Size).sum

/-- `Buffer.byteLength(JSON.stringify(value), "utf8")` -/
def byteLength (members : List (String × Json)) : ℕ :=
  utf8Length (Json.write (.object members))

def MAX_METADATA_BYTES : ℕ := 10240

/-! The schema. Every field may be left out, and other fields are let through. -/

/-- The texts with their least and greatest lengths. -/
def textFields : List (String × ℕ × Option ℕ) :=
  [("note", 0, some 500), ("orderId", 0, some 128), ("customerRef", 0, some 128), ("sourceCurrency", 3, some 3),
    ("destinationCurrency", 3, some 3), ("senderName", 0, some 256), ("senderAddress", 0, some 512),
    ("senderDob", 0, none), ("senderIdNumber", 0, some 64), ("receiverName", 0, some 256),
    ("receiverAddress", 0, some 512)]

def isText (least : ℕ) (most : Option ℕ) (json : Json) : Bool :=
  (FilterNodeSchema.text least most json).isSome

def isTags : Json → Bool
  | .array tags => tags.length ≤ 10 && tags.all (isText 0 (some 64))
  | _ => false

def isArray : Json → Bool
  | .array _ => true
  | _ => false

def isRecord : Json → Bool
  | .object _ => true
  | _ => false

def isStellar (json : Json) : Bool :=
  isRecord json && (json.get? "transactionHash").all (isText 0 none) && (json.get? "submittedAt").all (isText 0 none) &&
    (json.get? "feeBumps").all isArray

/-- The field is absent or undefined or what it should be. -/
def Patch.fits (patch : Patch) (name : String) (fits : Json → Bool) : Bool :=
  (patch.get? name).join.all fits

def metadataSchema (patch : Patch) : Bool :=
  (textFields.all fun (name, least, most) => patch.fits name (isText least most)) && patch.fits "tags" isTags &&
    patch.fits "stellar" isStellar && patch.fits "reconciliation" isRecord

/-- The words of the schema library for what is wrong with a patch, and the patches that a JSONB column can take. -/
structure Runtime where
  messages : Patch → String
  takes : Patch → Bool

inductive MetadataError where
  | thrown (message : String)
  /-- The database refuses the statement. -/
  | refused
  deriving DecidableEq

variable (runtime : Runtime)

def validateMetadataSchema (patch : Patch) : Except MetadataError Patch :=
  if metadataSchema patch then .ok patch else .error (.thrown ("Invalid metadata: " ++ runtime.messages patch))

def validateMetadata (patch : Patch) : Except MetadataError Patch := do
  let validated ← validateMetadataSchema runtime patch
  require (byteLength validated.members ≤ MAX_METADATA_BYTES)
    (.thrown ("Metadata exceeds " ++ toString (MAX_METADATA_BYTES / 1024) ++ " KB"))
  return validated

/-- The transaction, as far as its metadata goes. -/
structure TransactionRow where
  metadata : Option Stored
  updatedAt : ℤ

namespace TransactionRow

/-- `row.metadata ?? {}` -/
def object (row : TransactionRow) : Stored :=
  row.metadata.getD .empty

/-- `COALESCE(metadata, '{}') || $1` -/
def merge (row : TransactionRow) (patch : Patch) (now : ℤ) : TransactionRow :=
  ⟨some (row.object.overlay patch.members), now⟩

/-- `metadata - $1::text[]` -/
def remove (row : TransactionRow) (keys : List String) (now : ℤ) : TransactionRow :=
  ⟨row.metadata.map fun metadata => keys.foldl InsertionMap.erase metadata, now⟩

end TransactionRow

def tooLarge : MetadataError :=
  .thrown ("Metadata exceeds maximum size of " ++ toString (MAX_METADATA_BYTES / 1024) ++ " KB")

/-- What is returned, and the row afterwards; no row has the id where there is none. -/
def patchMetadata (patch : Patch) (now : ℤ) (row : Option TransactionRow) :
    Except MetadataError (Option TransactionRow) × Option TransactionRow :=
  match validateMetadata runtime patch with
  | .error error => (.error error, row)
  | .ok _ =>
    if !runtime.takes patch then (.error .refused, row)
    else
      match row with
      | none => (.ok none, none)
      | some row =>
        let merged := row.merge patch now
        if byteLength merged.object.entries > MAX_METADATA_BYTES then
          (.error tooLarge, some (merged.remove patch.keys now))
        else (.ok (some merged), some merged)

/-! What a patch should do. -/

/-- The two objects have the same values. -/
def Same (one other : Stored) : Prop :=
  ∀ key, one.get? key = other.get? key

/-- The value of a key once the patch is in. -/
def patched (object : Stored) (patch : Patch) (key : String) : Option Json :=
  match patch.get? key with
  | some (some value) => some value
  | _ => object.get? key

/-- Either the keys of the patch are overwritten, within the limit, or an error is thrown and the metadata is what it
was. -/
def AllOrNothing (row : TransactionRow) (patch : Patch)
    (outcome : Except MetadataError (Option TransactionRow) × Option TransactionRow) : Prop :=
  ∃ after, outcome.2 = some after ∧
    (outcome.1 = .ok (some after) ∧ (∀ key, after.object.get? key = patched row.object patch key) ∧
        byteLength after.object.entries ≤ MAX_METADATA_BYTES ∨
      (∃ error, outcome.1 = .error error) ∧ Same after.object row.object)

/-- The patch is refused at once, or what it leads to is small enough, or none of its keys has a value yet. -/
def TakenBack (row : TransactionRow) (patch : Patch) : Prop :=
  (∃ error, validateMetadata runtime patch = .error error) ∨ runtime.takes patch = false ∨
    byteLength (row.object.overlay patch.members).entries ≤ MAX_METADATA_BYTES ∨
      ∀ key ∈ patch.keys, row.object.get? key = none

theorem distinct_members (patch : Patch) : (patch.members.map Prod.fst).Nodup := by
  have sublist : List.Sublist (patch.members.map Prod.fst) patch.keys := by
    unfold Patch.members Patch.keys
    induction patch.entries with
    | nil => exact .slnil
    | cons entry rest ih =>
      obtain ⟨name, value⟩ := entry
      cases value with
      | none => exact .cons _ ih
      | some value => exact .cons_cons _ ih
  exact sublist.nodup patch.distinct

theorem mem_members {patch : Patch} {key : String} {value : Json} :
    (key, value) ∈ patch.members ↔ patch.get? key = some (some value) := by
  unfold Patch.members
  rw [← InsertionMap.mem_entries, List.mem_filterMap]
  constructor
  · simp
  · simp

theorem get?_merged (object : Stored) (patch : Patch) (key : String) :
    (object.overlay patch.members).get? key = patched object patch key := by
  unfold patched
  split
  · rename_i value given
    exact InsertionMap.get?_overlay_mem _ (distinct_members patch) ((mem_members).mpr given)
  · rename_i nothing
    apply InsertionMap.get?_overlay_other
    intro member
    obtain ⟨⟨name, value⟩, written, rfl⟩ := List.mem_map.mp member
    exact nothing value ((mem_members).mp written)

theorem get?_taken_back (object : Stored) (patch : Patch) (key : String) :
    (patch.keys.foldl InsertionMap.erase (object.overlay patch.members)).get? key =
      if key ∈ patch.keys then none else object.get? key := by
  rw [InsertionMap.get?_eraseAll, get?_merged]
  by_cases named : key ∈ patch.keys
  · rw [if_pos named, if_pos named]
  · have absent : patch.get? key = none := by
      rw [Patch.keys, InsertionMap.mem_keys, Option.not_isSome_iff_eq_none] at named
      exact named
    rw [if_neg named, if_neg named, patched, absent]

theorem validateMetadata_passes {patch : Patch} (schema : metadataSchema patch = true)
    (small : byteLength patch.members ≤ MAX_METADATA_BYTES) : validateMetadata runtime patch = .ok patch := by
  have checked : validateMetadataSchema runtime patch = .ok patch := if_pos schema
  exact bind_ok.mpr ⟨patch, checked, bind_ok.mpr ⟨⟨⟩, require_passes _ small, rfl⟩⟩

theorem patch_too_large {patch validated : Patch} {row : TransactionRow} (now : ℤ)
    (valid : validateMetadata runtime patch = .ok validated) (takes : runtime.takes patch = true)
    (large : MAX_METADATA_BYTES < byteLength (row.object.overlay patch.members).entries) :
    ∃ error after, patchMetadata runtime patch now (some row) = (.error error, some after) ∧
      ∀ key, after.object.get? key = if key ∈ patch.keys then none else row.object.get? key := by
  have thrown : byteLength (row.merge patch now).object.entries > MAX_METADATA_BYTES := large
  refine ⟨tooLarge, (row.merge patch now).remove patch.keys now, ?_, get?_taken_back row.object patch⟩
  unfold patchMetadata
  rw [valid]
  simp only [takes, Bool.not_true, Bool.false_eq_true, if_false]
  exact if_pos thrown

/-- A patch changes all or nothing exactly if what it overwrites need not be given back. -/
theorem patch_all_or_nothing (patch : Patch) (now : ℤ) (row : TransactionRow) :
    AllOrNothing row patch (patchMetadata runtime patch now (some row)) ↔ TakenBack runtime row patch := by
  cases valid : validateMetadata runtime patch with
  | error error =>
    unfold patchMetadata
    rw [valid]
    exact iff_of_true ⟨row, rfl, .inr ⟨⟨error, rfl⟩, fun _ => rfl⟩⟩ (.inl ⟨error, valid⟩)
  | ok validated =>
    by_cases takes : runtime.takes patch = true
    · by_cases large : MAX_METADATA_BYTES < byteLength (row.object.overlay patch.members).entries
      · obtain ⟨error, after, returned, back⟩ := patch_too_large runtime now valid takes large
        rw [returned]
        constructor
        · intro whole
          obtain ⟨other, same, finished | restored⟩ := whole
          · cases finished.1
          · cases same
            refine .inr (.inr (.inr ?_))
            intro key member
            rw [← restored.2 key, back, if_pos member]
        · intro taken
          rcases taken with ⟨error, refused⟩ | refused | small | fresh
          · cases valid.symm.trans refused
          · cases takes.symm.trans refused
          · exact absurd small (Nat.not_le_of_gt large)
          · refine ⟨after, rfl, .inr ⟨⟨error, rfl⟩, ?_⟩⟩
            intro key
            rw [back]
            by_cases member : key ∈ patch.keys
            · rw [if_pos member, fresh key member]
            · rw [if_neg member]
      · have small : byteLength (row.object.overlay patch.members).entries ≤ MAX_METADATA_BYTES := Nat.le_of_not_lt large
        have fits : ¬byteLength (row.merge patch now).object.entries > MAX_METADATA_BYTES := large
        have returned : patchMetadata runtime patch now (some row) =
            (.ok (some (row.merge patch now)), some (row.merge patch now)) := by
          unfold patchMetadata
          rw [valid]
          simp only [takes, Bool.not_true, Bool.false_eq_true, if_false]
          exact if_neg fits
        rw [returned]
        exact iff_of_true ⟨_, rfl, .inl ⟨rfl, get?_merged row.object patch, small⟩⟩ (.inr (.inr (.inl small)))
    · have refused : runtime.takes patch = false := Bool.eq_false_iff.mpr takes
      unfold patchMetadata
      rw [valid]
      simp only [refused, Bool.not_false, if_true]
      exact iff_of_true ⟨row, rfl, .inr ⟨⟨_, rfl⟩, fun _ => rfl⟩⟩ (.inr (.inl refused))

/-! A value that is lost. -/

def textOf (count : ℕ) : String :=
  String.ofList (List.replicate count 'x')

theorem writeText_textOf (count : ℕ) : Json.writeText (textOf count) = '"' :: List.replicate count 'x' ++ ['"'] := by
  have plain : (List.replicate count 'x').flatMap Json.escape = List.replicate count 'x' := by
    induction count with
    | zero => rfl
    | succ count ih =>
      rw [List.replicate_succ, List.flatMap_cons, ih]
      rfl
  rw [Json.writeText, textOf, String.toList_ofList, plain]

@[simp] theorem utf8Length_append (first second : List Char) :
    utf8Length (first ++ second) = utf8Length first + utf8Length second := by
  rw [utf8Length, List.map_append, List.sum_append]
  rfl

theorem utf8Length_writeText (count : ℕ) : utf8Length (Json.writeText (textOf count)) = count + 2 := by
  have plain : utf8Length (List.replicate count 'x') = count := by
    rw [utf8Length, List.map_replicate, List.sum_replicate]
    exact Nat.mul_one count
  have quote : utf8Length ['"'] = 1 := rfl
  rw [writeText_textOf]
  show utf8Length (['"'] ++ List.replicate count 'x' ++ ['"']) = _
  rw [utf8Length_append, utf8Length_append, plain, quote]
  omega

theorem byteLength_one (count : ℕ) : byteLength [("a", .string (textOf count))] = count + 8 := by
  have begun : utf8Length ('{' :: Json.writeText "a" ++ [':']) = 5 := by decide +kernel
  have ended : utf8Length ['}'] = 1 := rfl
  have whole : Json.write (.object [("a", .string (textOf count))]) =
      ('{' :: Json.writeText "a" ++ [':']) ++ Json.writeText (textOf count) ++ ['}'] := by
    show '{' :: (Json.writeText "a" ++ ':' :: Json.writeText (textOf count)) ++ ['}'] = _
    simp
  rw [byteLength, whole, utf8Length_append, utf8Length_append, begun, ended, utf8Length_writeText]
  omega

theorem byteLength_two (count more : ℕ) :
    byteLength [("a", .string (textOf count)), ("b", .string (textOf more))] = count + more + 15 := by
  have begun : utf8Length ('{' :: Json.writeText "a" ++ [':']) = 5 := by decide +kernel
  have between : utf8Length (',' :: Json.writeText "b" ++ [':']) = 5 := by decide +kernel
  have ended : utf8Length ['}'] = 1 := rfl
  have whole : Json.write (.object [("a", .string (textOf count)), ("b", .string (textOf more))]) =
      ('{' :: Json.writeText "a" ++ [':']) ++ Json.writeText (textOf count) ++ (',' :: Json.writeText "b" ++ [':']) ++
        Json.writeText (textOf more) ++ ['}'] := by
    show '{' :: (Json.writeText "a" ++ ':' :: Json.writeText (textOf count) ++
      ',' :: (Json.writeText "b" ++ ':' :: Json.writeText (textOf more))) ++ ['}'] = _
    simp
  rw [byteLength, whole]
  simp only [utf8Length_append, begun, between, ended, utf8Length_writeText]
  omega

/-- The previous value of a key is gone when the new one makes the object too large. -/
theorem patch_loses_value : ¬∀ (runtime : Runtime) (patch : Patch) (now : ℤ) (row : TransactionRow),
    AllOrNothing row patch (patchMetadata runtime patch now (some row)) := by
  intro holds
  let runtime : Runtime := ⟨fun _ => "", fun _ => true⟩
  let patch : Patch := ⟨[("a", some (.string (textOf 10200)))], List.nodup_singleton _⟩
  have distinct : ["a", "b"].Nodup := by decide
  let object : Stored := ⟨[("a", .string (textOf 1)), ("b", .string (textOf 100))], distinct⟩
  let row : TransactionRow := ⟨some object, 0⟩
  have schema : metadataSchema patch = true := rfl
  have members : patch.members = [("a", .string (textOf 10200))] := rfl
  have small : byteLength patch.members ≤ MAX_METADATA_BYTES := by
    rw [members, byteLength_one, MAX_METADATA_BYTES]
    omega
  have valid := validateMetadata_passes runtime schema small
  have merged : (row.object.overlay patch.members).entries =
      [("a", .string (textOf 10200)), ("b", .string (textOf 100))] := rfl
  have large : MAX_METADATA_BYTES < byteLength (row.object.overlay patch.members).entries := by
    rw [merged, byteLength_two, MAX_METADATA_BYTES]
    omega
  obtain ⟨error, after, returned, back⟩ := patch_too_large runtime 1 valid rfl large
  have whole := holds runtime patch 1 row
  rw [returned] at whole
  obtain ⟨other, same, finished | restored⟩ := whole
  · cases finished.1
  · cases same
    have lost := (back "a").symm.trans (restored.2 "a")
    cases lost

end ProxyPay.Transactions.Metadata
