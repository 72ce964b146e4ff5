/-! Texts compare as their bytes in UTF-8 do, although they are compared character by character.
An encoded character is never the beginning of another one, and a larger character has the
larger bytes. -/
namespace LintGate.Text

theorem byteBelow {a b : Nat} (h : a < b) (small : b < 256) (u v : List UInt8) :
    UInt8.ofNat a :: u < UInt8.ofNat b :: v := by
  rw [List.cons_lt_cons_iff]
  left
  rw [UInt8.lt_iff_toNat_lt, UInt8.toNat_ofNat', UInt8.toNat_ofNat']
  omega

theorem byteSame {a b : Nat} {u v : List UInt8} (h : a = b) (rest : u < v) :
    UInt8.ofNat a :: u < UInt8.ofNat b :: v := by
  subst h
  exact List.cons_lt_cons_iff.mpr (Or.inr ⟨rfl, rest⟩)

theorem lastByteBelow {n m : Nat} (h : n < m) (same : n / 64 = m / 64) (u v : List UInt8) :
    UInt8.ofNat (n % 64 + 0x80) :: u < UInt8.ofNat (m % 64 + 0x80) :: v :=
  byteBelow (by omega) (by omega) u v

theorem lastTwoBytesBelow {n m : Nat} (h : n < m) (same : n / 4096 = m / 4096) (u v : List UInt8) :
    UInt8.ofNat (n / 64 % 64 + 0x80) :: UInt8.ofNat (n % 64 + 0x80) :: u <
      UInt8.ofNat (m / 64 % 64 + 0x80) :: UInt8.ofNat (m % 64 + 0x80) :: v := by
  by_cases equal : n / 64 = m / 64
  · exact byteSame (by rw [equal]) (lastByteBelow h equal u v)
  · exact byteBelow (by omega) (by omega) _ _

theorem lastThreeBytesBelow {n m : Nat} (h : n < m) (same : n / 262144 = m / 262144)
    (u v : List UInt8) :
    UInt8.ofNat (n / 4096 % 64 + 0x80) :: UInt8.ofNat (n / 64 % 64 + 0x80) ::
        UInt8.ofNat (n % 64 + 0x80) :: u <
      UInt8.ofNat (m / 4096 % 64 + 0x80) :: UInt8.ofNat (m / 64 % 64 + 0x80) ::
        UInt8.ofNat (m % 64 + 0x80) :: v := by
  by_cases equal : n / 4096 = m / 4096
  · exact byteSame (by rw [equal]) (lastTwoBytesBelow h equal u v)
  · exact byteBelow (by omega) (by omega) _ _

theorem charTop (c : Char) : c.val.toNat < 0x110000 := by
  rcases c.valid with low | ⟨_, high⟩
  · exact Nat.lt_trans low (by decide)
  · exact high

theorem encodedCharBelow {c d : Char} (h : c < d) (u v : List UInt8) :
    String.utf8EncodeChar c ++ u < String.utf8EncodeChar d ++ v := by
  have below : c.val.toNat < d.val.toNat := h
  have top := charTop d
  unfold String.utf8EncodeChar
  generalize c.val.toNat = n at below
  generalize d.val.toNat = m at below top
  dsimp only
  split
  · repeat' split
    all_goals exact byteBelow (by omega) (by omega) _ _
  · rw [if_neg (by omega : ¬ m ≤ 0x7f)]
    split
    · split
      · by_cases equal : n / 64 = m / 64
        · exact byteSame (by rw [equal]) (lastByteBelow below equal u v)
        · exact byteBelow (by omega) (by omega) _ _
      · split <;> exact byteBelow (by omega) (by omega) _ _
    · rw [if_neg (by omega : ¬ m ≤ 0x7ff)]
      split
      · split
        · by_cases equal : n / 4096 = m / 4096
          · exact byteSame (by rw [equal]) (lastTwoBytesBelow below equal u v)
          · exact byteBelow (by omega) (by omega) _ _
        · exact byteBelow (by omega) (by omega) _ _
      · rw [if_neg (by omega : ¬ m ≤ 0xffff)]
        by_cases equal : n / 262144 = m / 262144
        · exact byteSame (by rw [equal]) (lastThreeBytesBelow below equal u v)
        · exact byteBelow (by omega) (by omega) _ _

theorem encodedBelow {cs ds : List Char} (h : cs < ds) :
    cs.flatMap String.utf8EncodeChar < ds.flatMap String.utf8EncodeChar := by
  induction h with
  | nil =>
    rename_i d ds
    obtain ⟨b, rest, he⟩ := List.exists_cons_of_ne_nil (String.utf8EncodeChar_ne_nil (c := d))
    simp only [List.flatMap_nil, List.flatMap_cons, he, List.cons_append]
    exact List.nil_lt_cons _ _
  | rel below =>
    simp only [List.flatMap_cons]
    exact encodedCharBelow below _ _
  | cons _ ih =>
    simp only [List.flatMap_cons]
    exact List.append_left_lt ih

def utf8 (s : String) : List UInt8 := s.toUTF8.data.toList

theorem utf8Encoded (s : String) : utf8 s = s.toList.flatMap String.utf8EncodeChar := by
  have h := congrArg (fun b : ByteArray => b.data.toList) (String.utf8Encode_toList (b := s))
  rw [utf8, String.toUTF8_eq_toByteArray, ← h]
  exact List.toList_data_toByteArray

theorem utf8BelowIff (s t : String) : utf8 s < utf8 t ↔ s < t := by
  have keeps : ∀ {s t : String}, s < t → utf8 s < utf8 t := by
    intro s t h
    rw [utf8Encoded, utf8Encoded]
    exact encodedBelow h
  refine ⟨fun h => ?_, keeps⟩
  by_cases below : s < t
  · exact below
  by_cases above : t < s
  · exact absurd (keeps above) (List.lt_asymm h)
  have same : s = t := String.le_antisymm (String.not_lt.mp above) (String.not_lt.mp below)
  subst same
  exact absurd h (List.lt_irrefl _)

end LintGate.Text
