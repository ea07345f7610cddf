import Mathlib.Tactic.IntervalCases
import Wiretap.Text.Utf8

/-!
# Bytes of a text that has been read

Nothing is lost when bytes are read as text: the text has those bytes and no others.  And the bytes
of a text are read as that text.

* `Utf8.Pending.Begins` says of bytes that whatever completes the character, they stand in
  front of its form.
* `Utf8.stands_of_step` keeps this from byte to byte.
* `Utf8.ofString_text?` is the statement for a whole sequence of bytes.
* `Utf8.scanFrom_utf8EncodeChar` says that the form of a character is read as the character, and
  `Utf8.text?_ofString` that the bytes of a text are read as the text.
-/

namespace Wiretap
namespace Utf8

/-- The code of a character whose first bits are known, once more bytes have been read. -/
def codeFrom (code : Nat) (tail : Bytes) : Nat :=
  tail.foldl (fun code b => code * 64 + (b.toNat - 0x80)) code

theorem codeFrom_cons (code : Nat) (b : UInt8) (rest : Bytes) :
    codeFrom code (b :: rest) = codeFrom (code * 64 + (b.toNat - 0x80)) rest := by
  rw [codeFrom, List.foldl_cons, codeFrom]

/-- Whether bytes complete a character. -/
def Pending.Fits (p : Pending) : Bytes → Prop
  | [] => False
  | b :: rest => (p.low ≤ b ∧ b ≤ p.high) ∧ rest.length = p.more ∧ ∀ c ∈ rest, 0x80 ≤ c ∧ c ≤ 0xBF

/-- Whether bytes begin a character: whatever completes it, they stand in front of its form. -/
def Pending.Begins (p : Pending) (read : Bytes) : Prop :=
  ∀ tail, p.Fits tail → String.utf8EncodeChar (Char.ofNat (codeFrom p.code tail)) = read ++ tail

theorem val_ofNat {n : Nat} (h : n.isValidChar) : (Char.ofNat n).val.toNat = n := by
  rw [Char.ofNat, dif_pos h]
  rfl

theorem ofNat_of_toNat {n : Nat} {b : UInt8} (h : n = b.toNat) : UInt8.ofNat n = b := by
  rw [h, UInt8.ofNat_toNat]

section Forms

variable {a b c d : UInt8}

theorem encode_one (ha : a.toNat < 0x80) :
    String.utf8EncodeChar (Char.ofNat a.toNat) = [a] := by
  have hCode := val_ofNat (n := a.toNat) (by left; omega)
  simp only [String.utf8EncodeChar, hCode]
  rw [if_pos (by omega), UInt8.ofNat_toNat]

theorem encode_two {x : Nat} (ha : a.toNat = 0xC0 + x) (hx : 2 ≤ x ∧ x ≤ 0x1F)
    (hb : 0x80 ≤ b.toNat ∧ b.toNat ≤ 0xBF) :
    String.utf8EncodeChar (Char.ofNat (x * 64 + (b.toNat - 0x80))) = [a, b] := by
  have hCode := val_ofNat (n := x * 64 + (b.toNat - 0x80)) (by left; omega)
  simp only [String.utf8EncodeChar, hCode]
  rw [if_neg (by omega), if_pos (by omega)]
  rw [ofNat_of_toNat (b := a) (by omega), ofNat_of_toNat (b := b) (by omega)]

/-- The forms of three bytes leave out the codes of shorter forms and of surrogates. -/
theorem encode_three {x : Nat} (ha : a.toNat = 0xE0 + x) (hx : x ≤ 0xF)
    (hb : 0x80 ≤ b.toNat ∧ b.toNat ≤ 0xBF) (hc : 0x80 ≤ c.toNat ∧ c.toNat ≤ 0xBF)
    (hLow : x = 0 → 0xA0 ≤ b.toNat) (hHigh : x = 0xD → b.toNat ≤ 0x9F) :
    String.utf8EncodeChar (Char.ofNat ((x * 64 + (b.toNat - 0x80)) * 64 + (c.toNat - 0x80))) =
      [a, b, c] := by
  have hValid : ((x * 64 + (b.toNat - 0x80)) * 64 + (c.toNat - 0x80)).isValidChar := by
    unfold Nat.isValidChar
    omega
  simp only [String.utf8EncodeChar, val_ofNat hValid]
  rw [if_neg (by omega), if_neg (by omega), if_pos (by omega)]
  rw [ofNat_of_toNat (b := a) (by omega), ofNat_of_toNat (b := b) (by omega),
    ofNat_of_toNat (b := c) (by omega)]

/-- The forms of four bytes leave out the codes of shorter forms and those above the last one. -/
theorem encode_four {x : Nat} (ha : a.toNat = 0xF0 + x) (hx : x ≤ 4)
    (hb : 0x80 ≤ b.toNat ∧ b.toNat ≤ 0xBF) (hc : 0x80 ≤ c.toNat ∧ c.toNat ≤ 0xBF)
    (hd : 0x80 ≤ d.toNat ∧ d.toNat ≤ 0xBF)
    (hLow : x = 0 → 0x90 ≤ b.toNat) (hHigh : x = 4 → b.toNat ≤ 0x8F) :
    String.utf8EncodeChar (Char.ofNat
      (((x * 64 + (b.toNat - 0x80)) * 64 + (c.toNat - 0x80)) * 64 + (d.toNat - 0x80))) =
        [a, b, c, d] := by
  have hValid : (((x * 64 + (b.toNat - 0x80)) * 64 + (c.toNat - 0x80)) * 64
      + (d.toNat - 0x80)).isValidChar := by
    unfold Nat.isValidChar
    omega
  simp only [String.utf8EncodeChar, val_ofNat hValid]
  rw [if_neg (by omega), if_neg (by omega), if_neg (by omega)]
  rw [ofNat_of_toNat (b := a) (by omega), ofNat_of_toNat (b := b) (by omega),
    ofNat_of_toNat (b := c) (by omega), ofNat_of_toNat (b := d) (by omega)]

end Forms

/-- The bytes of what has been reported. -/
def formOf (items : List Item) : Bytes :=
  Bytes.ofChars (items.filterMap id)

/-- Whether a character that is open has been begun by these bytes. -/
def Stands (state : Option Pending) (read : Bytes) : Prop :=
  match state with
  | none => read = []
  | some p => p.Begins read

theorem begins_two {a : UInt8} {x : Nat} (ha : a.toNat = 0xC0 + x) (hx : 2 ≤ x ∧ x ≤ 0x1F) :
    Pending.Begins ⟨x, 0, 0x80, 0xBF⟩ [a] := by
  rintro (_ | ⟨b, _ | ⟨c, rest⟩⟩) hFits
  · exact hFits.elim
  · simp only [codeFrom_cons]
    exact encode_two ha hx hFits.1
  · simp [Pending.Fits] at hFits

theorem begins_three {a low high : UInt8} {x : Nat} (ha : a.toNat = 0xE0 + x) (hx : x ≤ 0xF)
    (hRange : 0x80 ≤ low.toNat ∧ high.toNat ≤ 0xBF) (hLow : x = 0 → 0xA0 ≤ low.toNat)
    (hHigh : x = 0xD → high.toNat ≤ 0x9F) : Pending.Begins ⟨x, 1, low, high⟩ [a] := by
  rintro (_ | ⟨b, _ | ⟨c, _ | ⟨d, rest⟩⟩⟩) hFits
  · exact hFits.elim
  · simp [Pending.Fits] at hFits
  · simp only [Pending.Fits, UInt8.le_iff_toNat_le, List.mem_singleton, forall_eq] at hFits
    obtain ⟨⟨hbLow, hbHigh⟩, -, hc⟩ := hFits
    simp only [codeFrom_cons]
    exact encode_three ha hx ⟨Nat.le_trans hRange.1 hbLow, Nat.le_trans hbHigh hRange.2⟩ hc
      (fun h => Nat.le_trans (hLow h) hbLow) (fun h => Nat.le_trans hbHigh (hHigh h))
  · simp [Pending.Fits] at hFits

theorem begins_four {a low high : UInt8} {x : Nat} (ha : a.toNat = 0xF0 + x) (hx : x ≤ 4)
    (hRange : 0x80 ≤ low.toNat ∧ high.toNat ≤ 0xBF) (hLow : x = 0 → 0x90 ≤ low.toNat)
    (hHigh : x = 4 → high.toNat ≤ 0x8F) : Pending.Begins ⟨x, 2, low, high⟩ [a] := by
  rintro (_ | ⟨b, _ | ⟨c, _ | ⟨d, _ | ⟨e, rest⟩⟩⟩⟩) hFits
  · exact hFits.elim
  · simp [Pending.Fits] at hFits
  · simp [Pending.Fits] at hFits
  · simp only [Pending.Fits, UInt8.le_iff_toNat_le, List.mem_cons, List.not_mem_nil, or_false,
      forall_eq_or_imp, forall_eq] at hFits
    obtain ⟨⟨hbLow, hbHigh⟩, -, hc, hd⟩ := hFits
    simp only [codeFrom_cons]
    exact encode_four ha hx ⟨Nat.le_trans hRange.1 hbLow, Nat.le_trans hbHigh hRange.2⟩ hc hd
      (fun h => Nat.le_trans (hLow h) hbLow) (fun h => Nat.le_trans hbHigh (hHigh h))
  · simp [Pending.Fits] at hFits

/-- A first byte is a whole character, begins one, or is a fault. -/
theorem stands_of_first {b : UInt8} {state : Option Pending} {items : List Item}
    (h : first b = (state, items)) (hItems : items.all Option.isSome = true) :
    ∃ left, formOf items ++ left = [b] ∧ Stands state left := by
  have hBegun {p : Pending} (hBegins : p.Begins [b]) :
      ∃ left, formOf [] ++ left = [b] ∧ Stands (some p) left := ⟨[b], rfl, hBegins⟩
  simp only [first, UInt8.lt_iff_toNat_lt, UInt8.le_iff_toNat_le, ← UInt8.toNat_inj,
    UInt8.reduceToNat] at h
  -- The ranges are those of the first bytes, from one byte up to four.
  split at h
  next hOne =>
    cases h
    exact ⟨[], by simp [formOf, encode_one hOne], rfl⟩
  split at h
  next hTwo =>
    cases h
    exact hBegun (begins_two (by omega) (by omega))
  split at h
  next hFirst =>
    cases h
    exact hBegun (begins_three hFirst (by decide) (by decide) (by decide) (by decide))
  split at h
  next hSurrogates =>
    cases h
    exact hBegun (begins_three hSurrogates (by decide) (by decide) (by decide) (by decide))
  split at h
  next hFirst hSurrogates hThree =>
    cases h
    exact hBegun (begins_three (by omega) (by omega) (by decide) (by omega) (by omega))
  split at h
  next hFirst =>
    cases h
    exact hBegun (begins_four hFirst (by decide) (by decide) (by decide) (by decide))
  split at h
  next hLast =>
    cases h
    exact hBegun (begins_four hLast (by decide) (by decide) (by decide) (by decide))
  split at h
  next hFirst hLast hFour =>
    cases h
    exact hBegun (begins_four (by omega) (by omega) (by decide) (by omega) (by omega))
  next =>
    cases h
    cases hItems

/-- What has been reported of the bytes so far, and what is open of them, is kept by each byte. -/
theorem stands_of_step {state next : Option Pending} {b : UInt8} {items : List Item} {read : Bytes}
    (h : step state b = (next, items)) (hItems : items.all Option.isSome = true)
    (hRead : Stands state read) :
    ∃ left, formOf items ++ left = read ++ [b] ∧ Stands next left := by
  cases state with
  | none =>
      cases hRead
      exact stands_of_first h hItems
  | some p =>
      simp only [step] at h
      split at h
      next hRange =>
        split at h
        next hMore =>
          cases h
          refine ⟨[], ?_, rfl⟩
          rw [← hRead [b] ⟨hRange, hMore.symm, by simp⟩, List.append_nil]
          simp only [formOf, codeFrom, List.foldl_cons, List.foldl_nil]
          exact List.append_nil _
        next more hMore =>
          cases h
          refine ⟨read ++ [b], rfl, ?_⟩
          rintro (_ | ⟨c, rest⟩) hFits
          · exact hFits.elim
          · obtain ⟨hc, hLength, hRest⟩ := hFits
            rw [List.append_assoc, ← codeFrom_cons]
            refine hRead (b :: c :: rest) ⟨hRange, ?_, ?_⟩
            · rw [hMore, List.length_cons, hLength]
            · rw [List.forall_mem_cons]
              exact ⟨hc, hRest⟩
      next =>
        cases h
        cases hItems

/-- Bytes without fault are those of the characters that they are read as. -/
theorem formOf_scanFrom {state : Option Pending} {bytes read : Bytes}
    (h : (scanFrom state bytes).all Option.isSome = true) (hRead : Stands state read) :
    formOf (scanFrom state bytes) = read ++ bytes := by
  induction bytes generalizing state read with
  | nil =>
      cases state with
      | none =>
          cases hRead
          rfl
      | some p => cases h
  | cons b rest ih =>
      have hScan : scanFrom state (b :: rest) =
          (step state b).2 ++ scanFrom (step state b).1 rest := by
        cases state <;> rfl
      rw [hScan, List.all_append, Bool.and_eq_true] at h
      obtain ⟨left, hLeft, hNext⟩ := stands_of_step (Prod.eta (step state b)).symm h.1 hRead
      rw [hScan, formOf, List.filterMap_append, Bytes.ofChars_append]
      calc formOf (step state b).2 ++ formOf (scanFrom (step state b).1 rest)
          = formOf (step state b).2 ++ (left ++ rest) := by rw [ih h.2 hNext]
        _ = read ++ b :: rest := by rw [← List.append_assoc, hLeft, ← List.append_cons]

/-- The text of bytes has those bytes and no others. -/
theorem ofString_text? {bytes : Bytes} {text : String} (h : text? bytes = some text) :
    Bytes.ofString text = bytes := by
  obtain ⟨chars, hChars, rfl⟩ := Option.map_eq_some_iff.mp h
  simp only [decode?] at hChars
  split at hChars
  next hAll =>
    cases hChars
    rw [Bytes.ofString, String.toList_ofList]
    exact formOf_scanFrom hAll rfl
  next => cases hChars

/-- Bytes that complete a character are read as that character. -/
theorem scanFrom_of_fits {p : Pending} {tail : Bytes} (h : p.Fits tail) (rest : Bytes) :
    scanFrom (some p) (tail ++ rest) =
      some (Char.ofNat (codeFrom p.code tail)) :: scanFrom none rest := by
  induction tail generalizing p with
  | nil => exact h.elim
  | cons b later ih =>
      obtain ⟨hRange, hMore, hLater⟩ := h
      obtain ⟨code, more, low, high⟩ := p
      rw [List.cons_append, scanFrom, step, if_pos hRange, codeFrom_cons]
      cases later with
      | nil =>
          obtain rfl : 0 = more := hMore
          rfl
      | cons c last =>
          obtain rfl : last.length + 1 = more := hMore
          obtain ⟨hNext, hLast⟩ := List.forall_mem_cons.mp hLater
          exact ih ⟨hNext, rfl, hLast⟩

/-- A first byte that opens a character, and bytes that complete it, are read as that character. -/
theorem scanFrom_of_first {a : UInt8} {p : Pending} {tail : Bytes}
    (hFirst : first a = (some p, [])) (hFits : p.Fits tail) (rest : Bytes) :
    scanFrom none (a :: tail ++ rest) =
      some (Char.ofNat (codeFrom p.code tail)) :: scanFrom none rest := by
  rw [List.cons_append, scanFrom, step, hFirst, List.nil_append]
  exact scanFrom_of_fits hFits rest

section Starts

variable {x n : Nat}

theorem first_one (h : n ≤ 127) : first (UInt8.ofNat n) = (none, [some (Char.ofNat n)]) := by
  have hValue : (UInt8.ofNat n).toNat = n := by
    rw [UInt8.toNat_ofNat']
    omega
  rw [first, if_pos, hValue]
  rw [UInt8.lt_iff_toNat_lt, hValue]
  exact Nat.lt_succ_of_le h

theorem first_two (hx : 2 ≤ x ∧ x ≤ 0x1F) :
    first (UInt8.ofNat (x + 0xC0)) = (some ⟨x, 0, 0x80, 0xBF⟩, []) := by
  obtain ⟨hLow, hHigh⟩ := hx
  interval_cases x <;> rfl

theorem first_three (hx : x ≤ 0xF) :
    first (UInt8.ofNat (x + 0xE0)) =
      (some ⟨x, 1, if x = 0 then 0xA0 else 0x80, if x = 0xD then 0x9F else 0xBF⟩, []) := by
  interval_cases x <;> rfl

theorem first_four (hx : x ≤ 4) :
    first (UInt8.ofNat (x + 0xF0)) =
      (some ⟨x, 2, if x = 0 then 0x90 else 0x80, if x = 4 then 0x8F else 0xBF⟩, []) := by
  interval_cases x <;> rfl

theorem toNat_tail (n : Nat) : (UInt8.ofNat (n % 64 + 128)).toNat = n % 64 + 128 := by
  rw [UInt8.toNat_ofNat']
  omega

theorem tail_range (n : Nat) :
    0x80 ≤ UInt8.ofNat (n % 64 + 128) ∧ UInt8.ofNat (n % 64 + 128) ≤ 0xBF := by
  simp only [UInt8.le_iff_toNat_le, toNat_tail, UInt8.reduceToNat]
  omega

end Starts

/-- The form of a character is read as the character, whatever comes behind it. -/
theorem scanFrom_utf8EncodeChar (c : Char) (rest : Bytes) :
    scanFrom none (String.utf8EncodeChar c ++ rest) = some c :: scanFrom none rest := by
  have hValid : c.val.toNat < 0xD800 ∨ 0xDFFF < c.val.toNat ∧ c.val.toNat < 0x110000 := c.valid
  have hSelf {code : Nat} (h : code = c.val.toNat) : Char.ofNat code = c := by
    rw [h]
    exact Char.ofNat_toNat c
  rw [String.utf8EncodeChar]
  generalize c.val.toNat = n at hValid hSelf
  split
  next hOne =>
    rw [List.singleton_append, scanFrom, step, first_one hOne, hSelf rfl]
    rfl
  next hOne =>
    split
    next hTwo =>
      have hFits : Pending.Fits ⟨n / 64, 0, 0x80, 0xBF⟩ [UInt8.ofNat (n % 64 + 128)] :=
        ⟨tail_range n, rfl, List.forall_mem_nil _⟩
      rw [Nat.mod_eq_of_lt (show n / 64 < 32 by omega),
        scanFrom_of_first (first_two (by omega)) hFits]
      simp only [codeFrom, List.foldl_cons, List.foldl_nil, toNat_tail]
      rw [hSelf (by omega)]
    next hTwo =>
      split
      next hThree =>
        have hFits : Pending.Fits ⟨n / 4096, 1, if n / 4096 = 0 then 0xA0 else 0x80,
            if n / 4096 = 0xD then 0x9F else 0xBF⟩
            [UInt8.ofNat (n / 64 % 64 + 128), UInt8.ofNat (n % 64 + 128)] := by
          refine ⟨?_, rfl, List.forall_mem_singleton.mpr (tail_range n)⟩
          -- The ranges are cut where a shorter form or a surrogate would begin.
          simp only [UInt8.le_iff_toNat_le, toNat_tail]
          split <;> split <;> simp only [UInt8.reduceToNat] <;> omega
        rw [Nat.mod_eq_of_lt (show n / 4096 < 16 by omega),
          scanFrom_of_first (first_three (by omega)) hFits]
        simp only [codeFrom, List.foldl_cons, List.foldl_nil, toNat_tail]
        rw [hSelf (by omega)]
      next hThree =>
        have hFits : Pending.Fits ⟨n / 262144, 2, if n / 262144 = 0 then 0x90 else 0x80,
            if n / 262144 = 4 then 0x8F else 0xBF⟩
            [UInt8.ofNat (n / 4096 % 64 + 128), UInt8.ofNat (n / 64 % 64 + 128),
              UInt8.ofNat (n % 64 + 128)] := by
          refine ⟨?_, rfl, List.forall_mem_cons.mpr
            ⟨tail_range (n / 64), List.forall_mem_singleton.mpr (tail_range n)⟩⟩
          simp only [UInt8.le_iff_toNat_le, toNat_tail]
          split <;> split <;> simp only [UInt8.reduceToNat] <;> omega
        rw [Nat.mod_eq_of_lt (show n / 262144 < 8 by omega),
          scanFrom_of_first (first_four (by omega)) hFits]
        simp only [codeFrom, List.foldl_cons, List.foldl_nil, toNat_tail]
        rw [hSelf (by omega)]

/-- Characters are read from their own bytes. -/
theorem scan_ofChars (chars : List Char) : scan (Bytes.ofChars chars) = chars.map some := by
  induction chars with
  | nil => rfl
  | cons c rest ih =>
      rw [Bytes.ofChars_cons, scan, scanFrom_utf8EncodeChar, ← scan, ih, List.map_cons]

/-- A text is read from its own bytes. -/
theorem text?_ofString (text : String) : text? (Bytes.ofString text) = some text := by
  simp [text?, decode?, Bytes.ofString, scan_ofChars]

end Utf8
end Wiretap
