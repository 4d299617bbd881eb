import Mathlib

/-! Texts as bytes. Bytes that are no text are read with a replacement character for each longest run
of bytes that begins a character and does not complete it. -/

namespace ProxyPay.Library.Utf8

def encode (text : String) : List UInt8 :=
  text.toUTF8.data.toList

theorem encode_append (first second : String) : encode (first ++ second) = encode first ++ encode second := by
  simp [encode]

def replacement : Char := Char.ofNat 0xFFFD

/-- A character under way: how many bytes it still needs, the range of the next one, and its value so
far. -/
structure Pending where
  needed : Nat
  lower : Nat
  upper : Nat
  value : Nat

/-- What a byte is at the start of a character: the character, a longer one's begin, or neither. -/
def lead (byte : Nat) : List Char × Option Pending :=
  if byte < 0x80 then ([Char.ofNat byte], none)
  else if 0xC2 ≤ byte ∧ byte ≤ 0xDF then ([], some ⟨1, 0x80, 0xBF, byte % 0x20⟩)
  else if byte = 0xE0 then ([], some ⟨2, 0xA0, 0xBF, 0⟩)
  else if byte = 0xED then ([], some ⟨2, 0x80, 0x9F, 0xD⟩)
  else if 0xE1 ≤ byte ∧ byte ≤ 0xEF then ([], some ⟨2, 0x80, 0xBF, byte % 0x10⟩)
  else if byte = 0xF0 then ([], some ⟨3, 0x90, 0xBF, 0⟩)
  else if 0xF1 ≤ byte ∧ byte ≤ 0xF3 then ([], some ⟨3, 0x80, 0xBF, byte % 8⟩)
  else if byte = 0xF4 then ([], some ⟨3, 0x80, 0x8F, 4⟩)
  else ([replacement], none)

def next (state : Option Pending) (byte : Nat) : List Char × Option Pending :=
  match state with
  | none => lead byte
  | some pending =>
    if pending.lower ≤ byte ∧ byte ≤ pending.upper then
      let value := pending.value * 0x40 + byte % 0x40
      if pending.needed = 1 then ([Char.ofNat value], none)
      else ([], some ⟨pending.needed - 1, 0x80, 0xBF, value⟩)
    -- the byte is read once more, as the start of a character
    else (replacement :: (lead byte).1, (lead byte).2)

def lossy (state : Option Pending) : List UInt8 → List Char
  | [] => if state.isSome then [replacement] else []
  | byte :: rest => (next state byte.toNat).1 ++ lossy (next state byte.toNat).2 rest

def decode (bytes : List UInt8) : String :=
  match String.fromUTF8? ⟨bytes.toArray⟩ with
  | some text => text
  | none => String.ofList (lossy none bytes)

theorem decode_encode (text : String) : decode (encode text) = text := by
  have valid : String.fromUTF8? ⟨(encode text).toArray⟩ = some text := by
    unfold String.fromUTF8?
    have whole : (⟨(encode text).toArray⟩ : ByteArray) = text.toByteArray := by
      simp [encode]
    rw [whole, dif_pos text.isValidUTF8]
    rfl
  simp only [decode, valid]

end ProxyPay.Library.Utf8

/-! Bytes as texts of 64 characters, three bytes in four characters, with the alphabets of MIME and of
URLs. -/

namespace ProxyPay.Library.Base64

/-- The values of the characters, six bits each. -/
def digits : List UInt8 → List ℕ
  | a :: b :: c :: rest =>
    a.toNat / 4 :: (a.toNat % 4 * 16 + b.toNat / 16) :: (b.toNat % 16 * 4 + c.toNat / 64) ::
      c.toNat % 64 :: digits rest
  | [a, b] => [a.toNat / 4, a.toNat % 4 * 16 + b.toNat / 16, b.toNat % 16 * 4]
  | [a] => [a.toNat / 4, a.toNat % 4 * 16]
  | [] => []

/-- The bytes of these values; a last value alone holds no byte. -/
def bytes : List ℕ → List UInt8
  | p :: q :: r :: s :: rest =>
    .ofNat (p * 4 + q / 16) :: .ofNat (q % 16 * 16 + r / 4) :: .ofNat (r % 4 * 64 + s) :: bytes rest
  | [p, q, r] => [.ofNat (p * 4 + q / 16), .ofNat (q % 16 * 16 + r / 4)]
  | [p, q] => [.ofNat (p * 4 + q / 16)]
  | _ => []

def digit (value : ℕ) : Char :=
  if value < 26 then Char.ofNat ('A'.toNat + value)
  else if value < 52 then Char.ofNat ('a'.toNat + (value - 26))
  else if value < 62 then Char.ofNat ('0'.toNat + (value - 52))
  else if value = 62 then '+'
  else '/'

/-- The URL alphabet differs in its last two characters. -/
def urlSafe (char : Char) : Char :=
  if char = '+' then '-' else if char = '/' then '_' else char

/-- The value of a character of either alphabet. -/
def value? (char : Char) : Option ℕ :=
  if char.isUpper then some (char.toNat - 'A'.toNat)
  else if char.isLower then some (char.toNat - 'a'.toNat + 26)
  else if char.isDigit then some (char.toNat - '0'.toNat + 52)
  else if char = '+' || char = '-' then some 62
  else if char = '/' || char = '_' then some 63
  else none

/-- The characters of the bytes, filled up to a multiple of four. -/
def encode (source : List UInt8) : List Char :=
  (digits source).map digit ++ List.replicate ((3 - source.length % 3) % 3) '='

/-- The characters of the bytes in the URL alphabet, not filled up. -/
def encodeUrl (source : List UInt8) : List Char :=
  (digits source).map fun value => urlSafe (digit value)

/-- What stands before the first `=` is read in either alphabet; other characters are skipped. -/
def decode (text : List Char) : List UInt8 :=
  bytes ((text.takeWhile (· ≠ '=')).filterMap value?)

theorem bytes_digits (source : List UInt8) : bytes (digits source) = source := by
  induction source using digits.induct with
  | case1 a b c rest ih =>
    have fits (byte : UInt8) : byte.toNat < 256 := byte.toNat_lt
    have first : a.toNat / 4 * 4 + (a.toNat % 4 * 16 + b.toNat / 16) / 16 = a.toNat := by
      have := fits b
      omega
    have second : (a.toNat % 4 * 16 + b.toNat / 16) % 16 * 16 + (b.toNat % 16 * 4 + c.toNat / 64) / 4 =
        b.toNat := by
      have := fits b
      have := fits c
      omega
    have third : (b.toNat % 16 * 4 + c.toNat / 64) % 4 * 64 + c.toNat % 64 = c.toNat := by omega
    simp only [digits, bytes, first, second, third, ih, UInt8.ofNat_toNat]
  | case2 a b =>
    have fits : b.toNat < 256 := b.toNat_lt
    have first : a.toNat / 4 * 4 + (a.toNat % 4 * 16 + b.toNat / 16) / 16 = a.toNat := by omega
    have second : (a.toNat % 4 * 16 + b.toNat / 16) % 16 * 16 + b.toNat % 16 * 4 / 4 = b.toNat := by
      omega
    simp only [digits, bytes, first, second, UInt8.ofNat_toNat]
  | case3 a => grind [digits, bytes, UInt8.ofNat_toNat]
  | case4 => rfl

theorem digits_lt (source : List UInt8) : ∀ value ∈ digits source, value < 64 := by
  have fits (byte : UInt8) : byte.toNat < 256 := byte.toNat_lt
  induction source using digits.induct with
  | case1 a b c rest ih =>
    have := fits a
    have := fits b
    have := fits c
    simp only [digits, List.forall_mem_cons]
    refine ⟨by omega, by omega, by omega, by omega, ih⟩
  | case2 a b =>
    have := fits a
    have := fits b
    simp only [digits, List.forall_mem_cons]
    refine ⟨by omega, by omega, by omega, by simp⟩
  | case3 a =>
    have := fits a
    simp only [digits, List.forall_mem_cons]
    refine ⟨by omega, by omega, by simp⟩
  | case4 => simp [digits]

theorem value_digit : ∀ value < 64, value? (digit value) = some value := by decide +kernel

theorem value_urlSafe : ∀ value < 64, value? (urlSafe (digit value)) = some value := by decide +kernel

theorem digit_ne_fill : ∀ value < 64, digit value ≠ '=' := by decide +kernel

theorem urlSafe_ne_fill : ∀ value < 64, urlSafe (digit value) ≠ '=' := by decide +kernel

/-- What fills a text up at its end is not read. -/
theorem decode_fill (text : List Char) (count : ℕ) : decode (text ++ List.replicate count '=') = decode text := by
  have stops : (List.replicate count '=').takeWhile (· ≠ '=') = [] := by simp
  have taken : (text ++ List.replicate count '=').takeWhile (· ≠ '=') = text.takeWhile (· ≠ '=') := by grind [List.takeWhile_append, List.append_nil]
  rw [decode, taken, decode]

/-- A text that spells the values of the bytes, filled up or not, is read as the bytes. -/
theorem decode_spelled {source : List UInt8} {spell : ℕ → Char} {fill : ℕ}
    (read : ∀ value < 64, value? (spell value) = some value)
    (kept : ∀ value < 64, spell value ≠ '=') :
    decode ((digits source).map spell ++ List.replicate fill '=') = source := by
  have small := digits_lt source
  have stops : (List.replicate fill '=').takeWhile (· ≠ '=') = [] := by simp
  have taken : ((digits source).map spell ++ List.replicate fill '=').takeWhile (· ≠ '=') =
      (digits source).map spell := by
    rw [List.takeWhile_append_of_pos (by simpa using fun value member => kept value (small value member))]
    rw [stops, List.append_nil]
  have values : ((digits source).map spell).filterMap value? = digits source := by simp_all
  rw [decode, taken, values, bytes_digits]

/-- Dropping the fill from the end leaves the characters. -/
theorem rdropWhile_fill {α : Type} {drops : α → Bool} {kept : List α} {fill : α}
    (stays : ∀ value ∈ kept, drops value = false) (goes : drops fill = true) (count : ℕ) :
    (kept ++ List.replicate count fill).rdropWhile drops = kept := by
  induction count with
  | zero => simp_all
  | succ count ih =>
    rw [List.replicate_succ', ← List.append_assoc, List.rdropWhile_concat_pos _ _ _ goes, ih]

theorem decode_encodeUrl (source : List UInt8) : decode (encodeUrl source) = source := by
  have spelled : decode ((digits source).map (fun value => urlSafe (digit value)) ++ List.replicate 0 '=') =
      source := decode_spelled value_urlSafe urlSafe_ne_fill
  rwa [List.replicate_zero, List.append_nil] at spelled

end ProxyPay.Library.Base64
