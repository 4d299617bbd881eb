import ProxyPay.Library.Json
import ProxyPay.Library.Utf8

/-! Texts as UTF-16 code units. Units that are no text are read with a replacement character for each
surrogate that is alone. -/

namespace ProxyPay.Library.Utf16

open Json (join alone isHigh isLow)

def units (char : Char) : List UInt16 :=
  if char.toNat < 0x10000 then [UInt16.ofNat char.toNat]
  else
    [UInt16.ofNat (0xD800 + (char.toNat - 0x10000) / 0x400),
      UInt16.ofNat (0xDC00 + (char.toNat - 0x10000) % 0x400)]

def ofString (text : String) : List UInt16 :=
  text.toList.flatMap units

def toString (text : List UInt16) : String :=
  String.ofList (join (text.map fun unit => .unit unit.toNat))

/-- No surrogate is alone. -/
def IsWellFormed (text : List UInt16) : Prop :=
  ∃ characters : String, text = ofString characters

theorem join_units (char : Char) (rest : List UInt16) : join ((units char ++ rest).map fun unit => .unit unit.toNat) =
      char :: join (rest.map fun unit => .unit unit.toNat) := by
  have valid : char.toNat < 0xD800 ∨ 0xDFFF < char.toNat ∧ char.toNat < 0x110000 := char.valid
  unfold units
  by_cases small : char.toNat < 0x10000
  · have same : (UInt16.ofNat char.toNat).toNat = char.toNat := by
      apply UInt16.toNat_ofNat_of_lt
      exact small
    have high : isHigh char.toNat = false := by
      simp only [isHigh, Bool.and_eq_false_iff, decide_eq_false_iff_not]
      omega
    have low : isLow char.toNat = false := by
      simp only [isLow, Bool.and_eq_false_iff, decide_eq_false_iff_not]
      omega
    rw [if_pos small, List.singleton_append, List.map_cons, same, Json.join_unit high, alone, high, low,
      Bool.or_self, if_neg Bool.false_ne_true, Char.ofNat_toNat]
  · have first : (UInt16.ofNat (0xD800 + (char.toNat - 0x10000) / 0x400)).toNat =
        0xD800 + (char.toNat - 0x10000) / 0x400 := by
      apply UInt16.toNat_ofNat_of_lt
      show _ < 65536
      omega
    have second : (UInt16.ofNat (0xDC00 + (char.toNat - 0x10000) % 0x400)).toNat =
        0xDC00 + (char.toNat - 0x10000) % 0x400 := by
      apply UInt16.toNat_ofNat_of_lt
      show _ < 65536
      omega
    have high : isHigh (0xD800 + (char.toNat - 0x10000) / 0x400) = true := by
      simp only [isHigh, Bool.and_eq_true, decide_eq_true_eq]
      omega
    have low : isLow (0xDC00 + (char.toNat - 0x10000) % 0x400) = true := by
      simp only [isLow, Bool.and_eq_true, decide_eq_true_eq]
      omega
    have whole : 0x10000 + (0xD800 + (char.toNat - 0x10000) / 0x400 - 0xD800) * 0x400 +
        (0xDC00 + (char.toNat - 0x10000) % 0x400 - 0xDC00) = char.toNat := by omega
    rw [if_neg small, List.cons_append, List.singleton_append, List.map_cons, List.map_cons, first, second, join,
      high, low, Bool.and_self, if_pos rfl, whole, Char.ofNat_toNat]

variable (text : String)

theorem toString_append (rest : List UInt16) :
    toString (ofString text ++ rest) = text ++ toString rest := by
  have general (characters : List Char) :
      join ((characters.flatMap units ++ rest).map fun unit => .unit unit.toNat) =
        characters ++ join (rest.map fun unit => .unit unit.toNat) := by
    induction characters with
    | nil => rfl
    | cons char others ih => rw [List.flatMap_cons, List.append_assoc, join_units, ih, List.cons_append]
  rw [toString, ofString, general, String.ofList_append, String.ofList_toList]
  rfl

theorem toString_ofString : toString (ofString text) = text := by
  have whole := toString_append text []
  rw [List.append_nil] at whole
  rw [whole]
  exact String.append_empty

/-- What is read and written again is the text exactly if it is well formed. -/
theorem ofString_toString {text : List UInt16} : ofString (toString text) = text ↔ IsWellFormed text := by
  constructor
  · intro same
    exact ⟨toString text, same.symm⟩
  · rintro ⟨characters, rfl⟩
    rw [toString_ofString]

/-- A unit below the surrogates stands for the character of that number only. -/
theorem mem_of_unit_mem {text : String} {char : Char} (small : char.toNat < 0xD800)
    (member : UInt16.ofNat char.toNat ∈ ofString text) : char ∈ text.toList := by
  obtain ⟨other, there, inside⟩ := List.mem_flatMap.mp member
  have valid : other.toNat < 0xD800 ∨ 0xDFFF < other.toNat ∧ other.toNat < 0x110000 := other.valid
  have same (number : ℕ) (bound : number < 0x10000) (equal : UInt16.ofNat char.toNat = UInt16.ofNat number) :
      char.toNat = number := by
    have first : (UInt16.ofNat char.toNat).toNat = char.toNat :=
      UInt16.toNat_ofNat_of_lt (Nat.lt_trans small (by decide))
    have second : (UInt16.ofNat number).toNat = number := UInt16.toNat_ofNat_of_lt bound
    rw [← first, equal, second]
  unfold units at inside
  by_cases plain : other.toNat < 0x10000
  · rw [if_pos plain, List.mem_singleton] at inside
    rw [Char.toNat_inj.mp (same other.toNat plain inside)]
    exact there
  · grind

theorem ofString_append (first second : String) : ofString (first ++ second) = ofString first ++ ofString second := by
  rw [ofString, String.toList_append, List.flatMap_append]
  rfl

theorem length_le_ofString : text.toList.length ≤ (ofString text).length := by
  have general (characters : List Char) : characters.length ≤ (characters.flatMap units).length := by
    induction characters with
    | nil => exact Nat.le_refl 0
    | cons char rest ih =>
      have some_unit : 1 ≤ (units char).length := by
        unfold units
        split <;> simp
      rw [List.flatMap_cons, List.length_append, List.length_cons]
      omega
  exact general text.toList

theorem units_le_size (char : Char) : (units char).length ≤ (String.utf8EncodeChar char).length := by
  unfold units
  by_cases small : char.toNat < 0x10000
  · rw [if_pos small, String.length_utf8EncodeChar]
    exact Char.utf8Size_pos char
  · rw [if_neg small, String.length_utf8EncodeChar]
    have large : ¬char.val.toNat < 0x10000 := small
    unfold Char.utf8Size
    simp only [UInt32.le_iff_toNat_le]
    split
    · rename_i few
      exact absurd few (by simp; omega)
    · grind

/-- A text has no more units than bytes. -/
theorem length_ofString_le : (ofString text).length ≤ (Utf8.encode text).length := by
  have general (characters : List Char) :
      (characters.flatMap units).length ≤ (characters.flatMap String.utf8EncodeChar).length := by
    induction characters with
    | nil => exact Nat.le_refl 0
    | cons char rest ih =>
      rw [List.flatMap_cons, List.flatMap_cons, List.length_append, List.length_append]
      exact Nat.add_le_add (units_le_size char) ih
  have bytes : Utf8.encode text = text.toList.flatMap String.utf8EncodeChar := by
    obtain ⟨characters, rfl⟩ : ∃ characters, text = String.ofList characters := ⟨_, String.ofList_toList.symm⟩
    rw [String.toList_ofList]
    exact List.toList_data_toByteArray
  rw [bytes]
  exact general text.toList

end ProxyPay.Library.Utf16
