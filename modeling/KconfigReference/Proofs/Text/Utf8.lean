import Mathlib.Tactic.SplitIfs
import KconfigReference.Text.CodePoint
import KconfigReference.Text.Utf8

/-!
Texts in UTF-8. The bytes of a character are read back as that character, whatever comes after
them, so no text is changed by being written and read. A text without halves of surrogate pairs
stands for itself in the names of files.
-/

namespace KconfigReference.Utf8

theorem toNat_ofNat_of_lt {n : Nat} (h : n < 256) : (UInt8.ofNat n).toNat = n := by
  rw [UInt8.toNat_ofNat']
  omega

/-- A code point is below the surrogates or above them. -/
theorem toNat_ranges (c : Char) :
    c.val.toNat < 0xD800 ∨ (0xDFFF < c.val.toNat ∧ c.val.toNat < 0x110000) := c.valid

theorem lead_of_lt {n : Nat} (h : n < 0x80) :
    lead (UInt8.ofNat n) = .character (Char.ofNat n) := by
  unfold lead
  rw [toNat_ofNat_of_lt (by omega)]
  simp [h]

theorem lead_of_two {n : Nat} (hleast : 0xC2 ≤ n) (hmost : n < 0xE0) :
    lead (UInt8.ofNat n) = .beginning ⟨n - 0xC0, 1, 0x80, 0xBF⟩ := by
  unfold lead
  rw [toNat_ofNat_of_lt (by omega), if_neg (by omega), if_neg (by omega), if_pos hmost]

theorem lead_of_three {n : Nat} (hleast : 0xE0 ≤ n) (hmost : n < 0xF0) :
    lead (UInt8.ofNat n) = .beginning
      ⟨n - 0xE0, 2, if n = 0xE0 then 0xA0 else 0x80, if n = 0xED then 0x9F else 0xBF⟩ := by
  unfold lead
  rw [toNat_ofNat_of_lt (by omega), if_neg (by omega), if_neg (by omega), if_neg (by omega)]
  by_cases hfirst : n = 0xE0
  · simp [hfirst]
  · by_cases hsurrogate : n = 0xED
    · simp [hsurrogate]
    · simp [hfirst, hsurrogate, hmost]

theorem lead_of_four {n : Nat} (hleast : 0xF0 ≤ n) (hmost : n ≤ 0xF4) :
    lead (UInt8.ofNat n) = .beginning
      ⟨n - 0xF0, 3, if n = 0xF0 then 0x90 else 0x80, if n = 0xF4 then 0x8F else 0xBF⟩ := by
  unfold lead
  rw [toNat_ofNat_of_lt (by omega), if_neg (by omega), if_neg (by omega), if_neg (by omega),
    if_neg (by omega), if_neg (by omega), if_neg (by omega)]
  by_cases hfirst : n = 0xF0
  · simp [hfirst]
  · by_cases hlast : n = 0xF4
    · simp [hlast]
    · have hlt : n < 0xF4 := by omega
      simp [hfirst, hlast, hlt]

theorem units_beginning {n : Nat} {p : Partial} (h : lead (UInt8.ofNat n) = .beginning p)
    (rest : Bytes) : units none (UInt8.ofNat n :: rest) = units (some p) rest := by
  simp [units, feed, h]

section Continuation

variable {value least greatest n : Nat}

/-- A byte in the middle of a character is six more bits of it. -/
theorem units_middle (owed : Nat) (hleast : least ≤ n + 128) (hmost : n + 128 ≤ greatest)
    (hsize : n < 64) (rest : Bytes) :
    units (some ⟨value, owed + 2, least, greatest⟩) (UInt8.ofNat (n + 128) :: rest) =
      units (some ⟨value * 64 + n, owed + 1, 0x80, 0xBF⟩) rest := by
  rw [units, feed, toNat_ofNat_of_lt (by omega)]
  simp [hleast, hmost]

theorem units_last (hleast : least ≤ n + 128) (hmost : n + 128 ≤ greatest) (hsize : n < 64)
    (rest : Bytes) :
    units (some ⟨value, 1, least, greatest⟩) (UInt8.ofNat (n + 128) :: rest) =
      some (Char.ofNat (value * 64 + n)) :: units none rest := by
  rw [units, feed, toNat_ofNat_of_lt (by omega)]
  simp [hleast, hmost]

end Continuation

/-- The bytes of a character are read back as the character. -/
theorem units_utf8EncodeChar (c : Char) (rest : Bytes) :
    units none (String.utf8EncodeChar c ++ rest) = some c :: units none rest := by
  have hc := toNat_ranges c
  have hback : ∀ n, n = c.val.toNat → Char.ofNat n = c := by
    rintro n rfl
    exact Char.ofNat_toNat c
  unfold String.utf8EncodeChar
  generalize c.val.toNat = v at *
  dsimp only
  split_ifs with hone htwo hthree
  · simp [units, feed, lead_of_lt (show v < 0x80 by omega), hback v rfl]
  · rw [List.cons_append, units_beginning (lead_of_two (by omega) (by omega)), List.cons_append,
      units_last (by omega) (by omega) (by omega), hback _ (by omega)]
    rfl
  · rw [List.cons_append, units_beginning (lead_of_three (by omega) (by omega)), List.cons_append,
      units_middle 0 (by split_ifs <;> omega) (by split_ifs <;> omega) (by omega),
      List.cons_append, units_last (by omega) (by omega) (by omega), hback _ (by omega)]
    rfl
  · rw [List.cons_append, units_beginning (lead_of_four (by omega) (by omega)), List.cons_append,
      units_middle 1 (by split_ifs <;> omega) (by split_ifs <;> omega) (by omega),
      List.cons_append, units_middle 0 (by omega) (by omega) (by omega), List.cons_append,
      units_last (by omega) (by omega) (by omega), hback _ (by omega)]
    rfl

theorem units_encode (t : Text) (rest : Bytes) :
    units none (encode t ++ rest) = t.map some ++ units none rest := by
  induction t with
  | nil => rfl
  | cons c more ih =>
      have hcons : encode (c :: more) = String.utf8EncodeChar c ++ encode more := by
        simp [encode]
      rw [hcons, List.append_assoc, units_utf8EncodeChar, ih]
      rfl

theorem units_encode_self (t : Text) : units none (encode t) = t.map some := by
  simpa [units] using units_encode t []

/-- A text is read back as it was written. -/
theorem decode?_encode (t : Text) : decode? (encode t) = some t := by
  rw [decode?, units_encode_self]
  induction t with
  | nil => rfl
  | cons c more ih =>
      rw [List.map_cons, List.mapM_cons, ih]
      rfl

theorem decodeLenient_encode (t : Text) : decodeLenient (encode t) = t := by
  rw [decodeLenient, units_encode_self, List.map_map]
  exact List.map_id t

end KconfigReference.Utf8

namespace KconfigReference.CodeText

/-- What is read off the code points of a text is read off its characters. -/
theorem mapM_char {α : Type} {f : CodePoint → Option α} {g : Char → α}
    (h : ∀ c, f (.char c) = some (g c)) (t : Text) :
    (t.map CodePoint.char).mapM f = some (t.map g) := by
  induction t with
  | nil => rfl
  | cons c rest ih =>
      rw [List.map_cons, List.mapM_cons, ih, h]
      rfl

/-- A text has no halves of surrogate pairs. -/
theorem plain?_char (t : Text) : plain? (t.map CodePoint.char) = some t := by
  rw [plain?, mapM_char (g := id) fun _ => rfl, List.map_id]

theorem eq_of_plain? {t : CodeText} {text : Text} (h : t.plain? = some text) :
    t = text.map CodePoint.char := by
  unfold plain? at h
  induction t generalizing text with
  | nil =>
      cases h
      rfl
  | cons point rest ih =>
      rw [List.mapM_cons] at h
      cases point with
      | half offset => cases h
      | char c =>
          cases hrest : rest.mapM CodePoint.char? with
          | none =>
              rw [hrest] at h
              cases h
          | some found =>
              rw [hrest] at h
              cases h
              rw [ih hrest]
              rfl

theorem nameBytes?_char (t : Text) : nameBytes? (t.map CodePoint.char) = some (Utf8.encode t) := by
  rw [nameBytes?, mapM_char (g := String.utf8EncodeChar) fun _ => rfl, Option.map_some,
    ← List.flatMap_def, Utf8.encode]

/-- In the name of a file a text stands as it is. -/
theorem inName_char (t : Text) : inName (t.map CodePoint.char) = t := by
  rw [inName, nameBytes?_char, Option.map_some, Option.getD_some, Utf8.decodeLenient_encode]

end KconfigReference.CodeText
