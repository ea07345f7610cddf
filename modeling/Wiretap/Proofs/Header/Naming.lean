import Wiretap.Header.Name
import Wiretap.Text.Ascii

/-!
# Spellings of header names

A header name is given as text and kept as bytes in lowercase.  Texts are compared
by their characters and names by their bytes; both comparisons agree, because the
letters that have a case are single bytes and UTF-8 tells texts apart.

* `Bytes.ofString_injective` says that different texts have different bytes.
* `Bytes.ofString_lower` says that lowercasing a text and its bytes comes to the same.
* `Header.Name.ofString?_eq_some_iff` says which texts are spellings of one name.
-/

namespace Wiretap

namespace Bytes

theorem ofString_injective : Function.Injective ofString := by
  intro left right h
  have hEncoded : left.toList.utf8Encode = right.toList.utf8Encode :=
    congrArg List.toByteArray h
  rw [String.utf8Encode_toList, String.utf8Encode_toList] at hEncoded
  exact String.toByteArray_inj.mp hEncoded

theorem le_ofNat {n : Nat} (hLow : 128 ≤ n) (hHigh : n < 256) : (128 : UInt8) ≤ UInt8.ofNat n := by
  rw [UInt8.le_iff_toNat_le, UInt8.toNat_ofNat', Nat.mod_eq_of_lt hHigh]
  exact hLow

/-- All bytes of a character outside of ASCII lie outside of ASCII. -/
theorem le_of_mem_utf8EncodeChar {c : Char} (h : 128 ≤ c.toNat) {b : UInt8}
    (hMem : b ∈ String.utf8EncodeChar c) : 128 ≤ b := by
  have hValue : ¬ c.val.toNat ≤ 127 := Nat.not_le.mpr h
  -- Every byte is a remainder with a mark of at least 128 added.
  simp only [String.utf8EncodeChar, hValue, if_false] at hMem
  split at hMem
  · simp only [List.mem_cons, List.not_mem_nil, or_false] at hMem
    rcases hMem with rfl | rfl <;> exact le_ofNat (by omega) (by omega)
  · split at hMem
    · simp only [List.mem_cons, List.not_mem_nil, or_false] at hMem
      rcases hMem with rfl | rfl | rfl <;> exact le_ofNat (by omega) (by omega)
    · simp only [List.mem_cons, List.not_mem_nil, or_false] at hMem
      rcases hMem with rfl | rfl | rfl | rfl <;> exact le_ofNat (by omega) (by omega)

theorem toLower_of_le {b : UInt8} (h : 128 ≤ b) : toLower b = b := by
  unfold toLower
  rw [if_neg]
  rintro ⟨-, hLe⟩
  rw [UInt8.le_iff_toNat_le] at h hLe
  exact absurd (Nat.le_trans h hLe) (by decide)

theorem utf8EncodeChar_toLower_of_lt :
    ∀ n : Fin 128, String.utf8EncodeChar (Char.ofNat n).toLower =
      (String.utf8EncodeChar (Char.ofNat n)).map toLower := by
  decide

theorem utf8EncodeChar_toLower (c : Char) :
    String.utf8EncodeChar c.toLower = (String.utf8EncodeChar c).map toLower := by
  rcases Nat.lt_or_ge c.toNat 128 with hAscii | hOther
  · simpa using utf8EncodeChar_toLower_of_lt ⟨c.toNat, hAscii⟩
  · have hSame : c.toLower = c := by
      unfold Char.toLower
      rw [dif_neg]
      rintro ⟨-, hLe⟩
      exact absurd (Nat.le_trans hOther (UInt32.le_iff_toNat_le.mp hLe)) (by decide)
    have hBytes : (String.utf8EncodeChar c).map toLower = (String.utf8EncodeChar c).map id :=
      List.map_congr_left fun b hMem => toLower_of_le (le_of_mem_utf8EncodeChar hOther hMem)
    rw [hSame, hBytes, List.map_id]

theorem ofString_lower (text : String) :
    ofString (Ascii.lower text) = (ofString text).map toLower := by
  simp only [ofString, Ascii.lower, String.toList_ofList]
  induction text.toList with
  | nil => rfl
  | cons c rest ih =>
      rw [List.map_cons, ofChars_cons, ofChars_cons, List.map_append, ih, utf8EncodeChar_toLower]

end Bytes

namespace Header.Name

variable {raw other : String} {name : Name}

theorem bytes_injective : Function.Injective bytes := by
  rintro ⟨left, hLeft⟩ ⟨right, hRight⟩ h
  cases h
  rfl

/-- A name is spelled by its own bytes. -/
theorem ofBytes?_bytes (name : Name) : ofBytes? name.bytes = some name := by
  have hLower : name.bytes.map Bytes.toLower = name.bytes := by
    refine (List.map_congr_left fun b hMem => ?_).trans (List.map_id name.bytes)
    have hByte := List.all_eq_true.mp (Bool.and_eq_true_iff.mp name.legal).2 b hMem
    have hNoCapital : (65 ≤ b && b ≤ 90) = false := by
      simpa only [Bool.not_eq_true'] using (Bool.and_eq_true_iff.mp hByte).2
    rw [Bytes.toLower, if_neg, id]
    rintro ⟨hLow, hHigh⟩
    rw [decide_eq_true hLow, decide_eq_true hHigh] at hNoCapital
    cases hNoCapital
  simp only [ofBytes?, hLower]
  rw [dif_pos name.legal]

/-- A name is the bytes of its spelling in lowercase. -/
theorem bytes_of_ofString? (h : ofString? raw = some name) :
    name.bytes = Bytes.ofString (Ascii.lower raw) := by
  simp only [ofString?, ofBytes?] at h
  split at h
  · cases h
    exact (Bytes.ofString_lower raw).symm
  · cases h

/-- Two texts are spellings of one name if they are the same up to case. -/
theorem ofString?_eq_some_iff (h : ofString? raw = some name) :
    ofString? other = some name ↔ Ascii.sameIgnoringCase raw other = true := by
  rw [Ascii.sameIgnoringCase_iff]
  constructor
  · intro hOther
    exact Bytes.ofString_injective ((bytes_of_ofString? h).symm.trans (bytes_of_ofString? hOther))
  · intro hSame
    have hLowered : (Bytes.ofString other).map Bytes.toLower =
        (Bytes.ofString raw).map Bytes.toLower := by
      rw [← Bytes.ofString_lower, ← Bytes.ofString_lower, hSame]
    rw [← h, ofString?, ofString?, ofBytes?, ofBytes?, hLowered]

end Header.Name
end Wiretap
