import Mathlib.Data.String.Basic

/-!
# Texts in UTF-8

Texts are compared code point by code point.  UTF-8 keeps that order: of two
characters the smaller one has the smaller bytes, at a place where both have
one, so that nothing behind them matters.  Texts in ascending order are
therefore in ascending order of their bytes.
-/

namespace WidgetTemplate.Text

/-- The bytes of a text in UTF-8. -/
def bytes (text : String) : List UInt8 :=
  text.toByteArray.data.toList

theorem bytes_eq (text : String) :
    bytes text = text.toList.flatMap String.utf8EncodeChar := by
  rw [bytes, ← String.utf8Encode_toList, List.utf8Encode, List.data_toByteArray,
    List.toList_toArray]

/-- The bytes of a smaller character are smaller, whatever is behind. -/
theorem utf8EncodeChar_append_lt {smaller greater : Char}
    (order : smaller < greater) (left right : List UInt8) :
    String.utf8EncodeChar smaller ++ left <
      String.utf8EncodeChar greater ++ right := by
  have values : smaller.val.toNat < greater.val.toNat := order
  have bound : greater.val.toNat < 0x110000 := by
    rcases greater.valid with below | ⟨_, below⟩
    · exact Nat.lt_trans below (by decide)
    · exact below
  have byte (code : Nat) (small : code < 256) : (UInt8.ofNat code).toNat = code :=
    UInt8.toNat_ofNat_of_lt' small
  -- As digits to the base 64, the bytes of one character depend on each other.
  have second (code : Nat) : code / 4096 = code / 64 / 64 := by omega
  have third (code : Nat) : code / 262144 = code / 64 / 64 / 64 := by omega
  unfold String.utf8EncodeChar
  simp only [second, third]
  generalize smaller.val.toNat = low at values
  generalize greater.val.toNat = high at values bound
  -- A case for each number of bytes on either side.
  split_ifs
  all_goals
    simp (disch := omega) only [List.cons_append, List.nil_append,
      List.cons_lt_cons_iff, UInt8.lt_iff_toNat_lt, ← UInt8.toNat_inj, byte]
    omega

theorem flatMap_utf8EncodeChar_lt {smaller greater : List Char}
    (order : smaller < greater) :
    smaller.flatMap String.utf8EncodeChar <
      greater.flatMap String.utf8EncodeChar := by
  induction order with
  | @nil char rest =>
      rcases List.exists_cons_of_ne_nil (@String.utf8EncodeChar_ne_nil char) with
        ⟨byte, bytes, written⟩
      rw [List.flatMap_cons, written]
      exact List.nil_lt_cons _ _
  | rel order => exact utf8EncodeChar_append_lt order _ _
  | cons _ induction => exact List.append_left_lt induction

/-- A smaller text has smaller bytes. -/
theorem bytes_lt_bytes {smaller greater : String} (order : smaller < greater) :
    bytes smaller < bytes greater := by
  rw [bytes_eq, bytes_eq]
  exact flatMap_utf8EncodeChar_lt order

end WidgetTemplate.Text
