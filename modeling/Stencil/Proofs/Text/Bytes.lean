import Mathlib.Data.List.Lex
import Mathlib.Data.String.Basic
import Mathlib.Tactic.Linarith

/-!
# The order of texts is the order of their bytes

Texts are compared code point by code point.  Comparing the bytes that they are
encoded as comes to the same (`lt_iff_bytes_lt`).

A code point is encoded as a first byte and some bytes of six bits each.  Of two code
points the smaller one has the smaller first byte, or else as many bytes and the same
first one, and then the six bits in which the two differ first decide.  Either way they
differ before one of the encodings ends, so that nothing behind them matters
(`encoded_append_lt`).
-/

set_option autoImplicit false

namespace Stencil.Text

open String (utf8EncodeChar)

/-! ## The bytes of a code point -/

/-- The first byte of a code point. -/
def firstByte (point : Nat) : Nat :=
  if point ≤ 127 then point
  else if point ≤ 2047 then point / 64 % 32 + 192
  else if point ≤ 65535 then point / 4096 % 16 + 224
  else point / 262144 % 8 + 240

/-- How many bytes of a code point follow the first one. -/
def bytesBehind (point : Nat) : Nat :=
  if point ≤ 127 then 0 else if point ≤ 2047 then 1 else if point ≤ 65535 then 2 else 3

/-- The last bytes of a code point, six bits in each. -/
def lastBytes : Nat → Nat → List UInt8
  | 0, _ => []
  | count + 1, point => .ofNat (point / 64 ^ count % 64 + 128) :: lastBytes count point

theorem utf8EncodeChar_eq (character : Char) :
    utf8EncodeChar character =
      .ofNat (firstByte character.val.toNat) ::
        lastBytes (bytesBehind character.val.toNat) character.val.toNat := by
  fun_cases utf8EncodeChar character with
  | case1 point one => simp only [firstByte, bytesBehind, if_pos one, lastBytes, point]
  | case2 point more two =>
    simp only [firstByte, bytesBehind, if_neg more, if_pos two, lastBytes, pow_zero, Nat.div_one,
      point]
  | case3 point more longer three =>
    simp only [firstByte, bytesBehind, if_neg more, if_neg longer, if_pos three, lastBytes,
      pow_zero, pow_one, Nat.div_one, point]
  | case4 point more longer longest =>
    have square : (64 : Nat) ^ 2 = 4096 := rfl
    simp only [firstByte, bytesBehind, if_neg more, if_neg longer, if_neg longest, lastBytes,
      pow_zero, pow_one, square, Nat.div_one, point]

theorem firstByte_lt (point : Nat) : firstByte point < 256 := by
  unfold firstByte
  split
  · omega
  split
  · omega
  split <;> omega

/-- The smaller of two code points has the smaller first byte, or as many bytes and the same first
one. -/
theorem firstByte_lt_or {left right : Nat} (less : left < right) (bound : right < 1114112) :
    firstByte left < firstByte right ∨ firstByte left = firstByte right ∧
      bytesBehind left = bytesBehind right ∧
      left / 64 ^ bytesBehind left = right / 64 ^ bytesBehind left := by
  unfold firstByte bytesBehind
  split
  · split
    · exact .inl less
    split
    · exact .inl (by omega)
    split <;> exact .inl (by omega)
  split
  · split
    · omega
    split
    · norm_num
      omega
    split <;> exact .inl (by omega)
  split
  · split
    · omega
    split
    · omega
    split
    · norm_num
      omega
    · exact .inl (by omega)
  · split
    · omega
    split
    · omega
    split
    · omega
    · norm_num
      omega

/-! ## Comparing bytes -/

theorem cons_lt_cons_of_lt {left right : Nat} (less : left < right) (bound : right < 256)
    (behind others : List UInt8) : UInt8.ofNat left :: behind < UInt8.ofNat right :: others := by
  refine List.cons_lt_cons_iff.mpr (.inl ?_)
  rw [UInt8.lt_iff_toNat_lt, UInt8.toNat_ofNat', UInt8.toNat_ofNat']
  omega

theorem cons_lt_cons_of_eq {left right : Nat} (same : left = right) {behind others : List UInt8}
    (less : behind < others) : UInt8.ofNat left :: behind < UInt8.ofNat right :: others :=
  List.cons_lt_cons_iff.mpr (.inr ⟨congrArg UInt8.ofNat same, less⟩)

/-- Of two code points that agree but for their last bits, the smaller one has the smaller last
bytes. -/
theorem lastBytes_append_lt {left right : Nat} (less : left < right) (behind others : List UInt8)
    {count : Nat} (agree : left / 64 ^ count = right / 64 ^ count) :
    lastBytes count left ++ behind < lastBytes count right ++ others := by
  induction count with
  | zero =>
    simp only [pow_zero, Nat.div_one] at agree
    omega
  | succ count ih =>
    rw [pow_succ, ← Nat.div_div_eq_div_mul, ← Nat.div_div_eq_div_mul] at agree
    have most : left / 64 ^ count ≤ right / 64 ^ count := Nat.div_le_div_right less.le
    simp only [lastBytes, List.cons_append]
    rcases most.eq_or_lt with same | smaller
    · exact cons_lt_cons_of_eq (by rw [same]) (ih same)
    · exact cons_lt_cons_of_lt (by omega) (by omega) _ _

/-- The bytes of the smaller of two code points are smaller, whatever stands behind them. -/
theorem encoded_append_lt {left right : Char} (less : left < right) (behind others : List UInt8) :
    utf8EncodeChar left ++ behind < utf8EncodeChar right ++ others := by
  have points : left.val.toNat < right.val.toNat := less
  have bound : right.val.toNat < 1114112 := by
    have valid := right.valid
    unfold UInt32.isValidChar Nat.isValidChar at valid
    omega
  rw [utf8EncodeChar_eq, utf8EncodeChar_eq, List.cons_append, List.cons_append]
  rcases firstByte_lt_or points bound with smaller | ⟨same, length, agree⟩
  · exact cons_lt_cons_of_lt smaller (firstByte_lt _) _ _
  · refine cons_lt_cons_of_eq same ?_
    rw [← length]
    exact lastBytes_append_lt points behind others agree

/-! ## Comparing texts -/

/-- The bytes that a text is encoded as. -/
def bytes (text : String) : List UInt8 :=
  text.toUTF8.data.toList

theorem bytes_eq_flatMap (text : String) : bytes text = text.toList.flatMap utf8EncodeChar := by
  have encoded : text.toUTF8 = text.toList.utf8Encode := by
    rw [String.toUTF8_eq_toByteArray, String.utf8Encode_toList]
  rw [bytes, encoded, List.utf8Encode, List.toList_data_toByteArray]

/-- Texts with the same bytes are the same. -/
theorem bytes_injective : Function.Injective bytes := by
  intro left right same
  rw [bytes, bytes, Array.toList_inj, String.toUTF8_eq_toByteArray,
    String.toUTF8_eq_toByteArray] at same
  exact String.toByteArray_inj.mp (ByteArray.ext same)

theorem flatMap_encoded_lt {left right : List Char} (less : left < right) :
    left.flatMap utf8EncodeChar < right.flatMap utf8EncodeChar := by
  induction less with
  | @nil other others =>
    rw [List.flatMap_nil, List.flatMap_cons, utf8EncodeChar_eq, List.cons_append]
    exact List.nil_lt_cons _ _
  | @cons first rest others less ih =>
    rw [List.flatMap_cons, List.flatMap_cons]
    exact List.append_left_lt ih
  | @rel first other rest others less =>
    rw [List.flatMap_cons, List.flatMap_cons]
    exact encoded_append_lt less _ _

/-- **The order of texts is the order of their bytes.** -/
theorem lt_iff_bytes_lt {left right : String} : left < right ↔ bytes left < bytes right := by
  have monotone {left right : String} (less : left < right) : bytes left < bytes right := by
    rw [bytes_eq_flatMap, bytes_eq_flatMap]
    exact flatMap_encoded_lt (String.lt_iff_toList_lt.mp less)
  refine ⟨monotone, fun less => ?_⟩
  rcases lt_trichotomy left right with smaller | rfl | greater
  · exact smaller
  · exact absurd less (List.lt_irrefl _)
  · exact absurd less (List.lt_asymm (monotone greater))

end Stencil.Text
