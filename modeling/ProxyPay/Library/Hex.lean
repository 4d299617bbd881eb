import Mathlib.Data.List.Basic
import ProxyPay.Library.Text

/-! Bytes as pairs of hexadecimal digits. Reading stops at the first pair that is none. -/

namespace ProxyPay.Library.Hex

open Text (digit digitValue? digitValue_digit digitValue_of_mem_pad pad length_pad)

def encode (bytes : List UInt8) : List Char :=
  bytes.flatMap fun byte => pad 16 2 byte.toNat

def decode : List Char → List UInt8
  | high :: low :: rest =>
    match digitValue? high, digitValue? low with
    | some first, some second => UInt8.ofNat (first * 16 + second) :: decode rest
    | _, _ => []
  | _ => []

theorem decode_encode (bytes : List UInt8) : decode (encode bytes) = bytes := by
  induction bytes with
  | nil => rfl
  | cons byte rest ih =>
    have small : byte.toNat < 256 := byte.toNat_lt
    have pair : pad 16 2 byte.toNat = [digit (byte.toNat / 16 % 16), digit (byte.toNat % 16)] := rfl
    have whole : byte.toNat / 16 % 16 * 16 + byte.toNat % 16 = byte.toNat := by omega
    unfold encode at ih ⊢
    rw [List.flatMap_cons, pair, List.cons_append, List.singleton_append, decode]
    rw [digitValue_digit _ (Nat.mod_lt _ (by decide)), digitValue_digit _ (Nat.mod_lt _ (by decide))]
    simp only [ih, whole, UInt8.ofNat_toNat]

theorem length_encode (bytes : List UInt8) : (encode bytes).length = 2 * bytes.length := by
  induction bytes with
  | nil => rfl
  | cons byte rest ih =>
    unfold encode at ih ⊢
    rw [List.flatMap_cons, List.length_append, length_pad, ih, List.length_cons]
    omega

theorem digit_of_mem_encode {bytes : List UInt8} {char : Char} (member : char ∈ encode bytes) :
    (digitValue? char).isSome := by
  obtain ⟨byte, _, inside⟩ := List.mem_flatMap.mp member
  exact digitValue_of_mem_pad (by decide) (by decide) inside

end ProxyPay.Library.Hex

/-! Identifiers of 128 bits as texts: groups of hexadecimal digits, separated by hyphens. -/

namespace ProxyPay.Library.Uuid

open Text (digitValue? digitValue_of_mem_pad natural natural_pad pad length_pad)

/-- The digits in groups of these sizes. -/
def spell : List ℕ → List Char → List Char
  | [], _ => []
  | [_], digits => digits
  | size :: next :: sizes, digits => digits.take size ++ '-' :: spell (next :: sizes) (digits.drop size)

def isGroup (size : ℕ) (text : List Char) : Bool :=
  text.length = size && text.all fun char => (digitValue? char).isSome

/-- The digits of a text that consists of groups of these sizes. -/
def groups : List ℕ → List Char → Option (List Char)
  | [], text => if text = [] then some [] else none
  | [size], text => if isGroup size text then some text else none
  | size :: next :: sizes, text =>
    if isGroup size (text.take size) then
      match text.drop size with
      | '-' :: rest => (groups (next :: sizes) rest).map (text.take size ++ ·)
      | _ => none
    else none

def sizes : List ℕ := [8, 4, 4, 4, 12]

def text (id : BitVec 128) : String :=
  String.ofList (spell sizes (pad 16 32 id.toNat))

/-- The identifier that a text in this form names, in upper or lower case. -/
def read (text : String) : Option (BitVec 128) :=
  (groups sizes text.toList).map fun digits => BitVec.ofNat 128 (natural 16 digits)

theorem groups_spell (sizes : List ℕ) (some_size : sizes ≠ []) (digits : List Char)
    (enough : digits.length = sizes.sum) (known : ∀ char ∈ digits, (digitValue? char).isSome) :
    groups sizes (spell sizes digits) = some digits := by
  induction sizes generalizing digits with
  | nil => exact absurd rfl some_size
  | cons size sizes ih =>
    cases sizes with
    | nil =>
      have whole : isGroup size digits = true := by
        simp only [List.sum_cons, List.sum_nil, Nat.add_zero] at enough
        simp only [isGroup, Bool.and_eq_true, decide_eq_true_eq, List.all_eq_true]
        exact ⟨enough, known⟩
      simp only [spell, groups, whole, if_true]
    | cons next sizes =>
      rw [List.sum_cons] at enough
      have length : (digits.take size).length = size := by
        rw [List.length_take, enough]
        omega
      have first : isGroup size (digits.take size) = true := by
        simp only [isGroup, Bool.and_eq_true, decide_eq_true_eq, List.all_eq_true]
        exact ⟨length, fun char member => known char (List.mem_of_mem_take member)⟩
      have rest := ih (by simp) (digits.drop size) (by rw [List.length_drop, enough]; omega)
        fun char member => known char (List.mem_of_mem_drop member)
      have taken : (digits.take size ++ '-' :: spell (next :: sizes) (digits.drop size)).take size =
          digits.take size := List.take_left' length
      have dropped : (digits.take size ++ '-' :: spell (next :: sizes) (digits.drop size)).drop size =
          '-' :: spell (next :: sizes) (digits.drop size) := List.drop_left' length
      simp only [spell, groups, taken, first, if_true, dropped, rest, Option.map_some,
        List.take_append_drop]

theorem read_text (id : BitVec 128) : read (text id) = some id := by
  have known : ∀ char ∈ pad 16 32 id.toNat, (digitValue? char).isSome := fun char member =>
    digitValue_of_mem_pad (by decide) (by decide) member
  have digits := groups_spell sizes (by decide) (pad 16 32 id.toNat) (length_pad 16 32 _) known
  have small : id.toNat < 16 ^ 32 := id.isLt
  rw [read, text, String.toList_ofList, digits, Option.map_some,
    natural_pad (by decide) (by decide), Nat.mod_eq_of_lt small, BitVec.ofNat_toNat, BitVec.setWidth_eq]

end ProxyPay.Library.Uuid
