/-!
# The order of bytes

Texts are compared by their characters, one after another. `Text.bytes_lt_iff` says
that this is the order of their bytes in UTF-8 as well: the bytes of a greater
character are greater, whatever follows.
-/

namespace ObjectStorage.Text

/-- The bytes of a text in UTF-8. -/
def bytes (text : String) : List UInt8 := text.toUTF8.data.toList

/-- The bytes of a text are those of its characters. -/
theorem bytes_eq (text : String) : bytes text = text.toList.flatMap String.utf8EncodeChar := by
  have h : text.toByteArray = text.toList.utf8Encode := by
    rw [← String.toByteArray_ofList, String.ofList_toList]
  rw [bytes, String.toUTF8_eq_toByteArray, h, List.utf8Encode, List.data_toByteArray]

/-- Bytes are compared by the first one, and by the others when that is the same. -/
theorem ofNat_cons_lt {a b : Nat} {rest others : List UInt8} (hbound : b < 256) (hle : a ≤ b)
    (h : a = b → rest < others) : UInt8.ofNat a :: rest < UInt8.ofNat b :: others := by
  rw [List.cons_lt_cons_iff]
  rcases Nat.lt_or_eq_of_le hle with hlt | heq
  · left
    rw [UInt8.lt_iff_toNat_lt, UInt8.toNat_ofNat_of_lt' (Nat.lt_trans hlt hbound),
      UInt8.toNat_ofNat_of_lt' hbound]
    exact hlt
  · exact .inr ⟨congrArg UInt8.ofNat heq, h heq⟩

/-- The bytes of a greater character are greater, whatever follows. -/
theorem utf8EncodeChar_lt {c d : Char} (h : c < d) (rest others : List UInt8) :
    String.utf8EncodeChar c ++ rest < String.utf8EncodeChar d ++ others := by
  have hlt : c.val.toNat < d.val.toNat := h
  have hbound : d.val.toNat < 1114112 := by
    have hvalid : d.val.toNat < 55296 ∨ 57343 < d.val.toNat ∧ d.val.toNat < 1114112 := d.valid
    omega
  unfold String.utf8EncodeChar
  generalize c.val.toNat = m at hlt
  generalize d.val.toNat = n at hlt hbound
  dsimp only
  -- A longer code starts with a greater byte, and codes of one length are compared digit by digit.
  by_cases hn1 : n ≤ 127
  · rw [if_pos hn1, if_pos (by omega)]
    exact ofNat_cons_lt (by omega) (by omega) fun _ => by omega
  by_cases hm1 : m ≤ 127
  · rw [if_pos hm1, if_neg hn1]
    split
    · exact ofNat_cons_lt (by omega) (by omega) fun _ => by omega
    · split <;> exact ofNat_cons_lt (by omega) (by omega) fun _ => by omega
  by_cases hn2 : n ≤ 2047
  · rw [if_neg hm1, if_pos (by omega), if_neg hn1, if_pos hn2]
    exact ofNat_cons_lt (by omega) (by omega) fun _ =>
      ofNat_cons_lt (by omega) (by omega) fun _ => by omega
  by_cases hm2 : m ≤ 2047
  · rw [if_neg hm1, if_pos hm2, if_neg hn1, if_neg hn2]
    split <;> exact ofNat_cons_lt (by omega) (by omega) fun _ => by omega
  by_cases hn3 : n ≤ 65535
  · rw [if_neg hm1, if_neg hm2, if_pos (by omega), if_neg hn1, if_neg hn2, if_pos hn3]
    exact ofNat_cons_lt (by omega) (by omega) fun _ =>
      ofNat_cons_lt (by omega) (by omega) fun _ =>
        ofNat_cons_lt (by omega) (by omega) fun _ => by omega
  by_cases hm3 : m ≤ 65535
  · rw [if_neg hm1, if_neg hm2, if_pos hm3, if_neg hn1, if_neg hn2, if_neg hn3]
    exact ofNat_cons_lt (by omega) (by omega) fun _ => by omega
  · rw [if_neg hm1, if_neg hm2, if_neg hm3, if_neg hn1, if_neg hn2, if_neg hn3]
    exact ofNat_cons_lt (by omega) (by omega) fun _ =>
      ofNat_cons_lt (by omega) (by omega) fun _ =>
        ofNat_cons_lt (by omega) (by omega) fun _ =>
          ofNat_cons_lt (by omega) (by omega) fun _ => by omega

/-- The bytes of a greater row of characters are greater. -/
theorem flatMap_utf8EncodeChar_lt {s t : List Char} (h : s < t) :
    s.flatMap String.utf8EncodeChar < t.flatMap String.utf8EncodeChar := by
  induction h with
  | @nil d t =>
    obtain ⟨b, rest, hcons⟩ := List.exists_cons_of_ne_nil (String.utf8EncodeChar_ne_nil (c := d))
    rw [List.flatMap_nil, List.flatMap_cons, hcons]
    exact List.nil_lt_cons _ _
  | rel hlt => exact utf8EncodeChar_lt hlt _ _
  | cons _ ih =>
    rw [List.flatMap_cons, List.flatMap_cons]
    exact List.append_left_lt ih

/-- Texts are in the order of their bytes. -/
theorem bytes_lt_iff {s t : String} : bytes s < bytes t ↔ s < t := by
  have hmono : ∀ {s t : String}, s < t → bytes s < bytes t := by
    intro s t h
    rw [bytes_eq, bytes_eq]
    exact flatMap_utf8EncodeChar_lt h
  refine ⟨fun h => ?_, hmono⟩
  rcases Std.lt_trichotomy s t with hlt | rfl | hgt
  · exact hlt
  · exact (List.lt_irrefl _ h).elim
  · exact (List.lt_asymm h (hmono hgt)).elim

end ObjectStorage.Text
