import KconfigReference.Setting.Basic
import Mathlib.Data.List.Basic

/-!
Settings after one of them is given a value: it has that value, and all others keep theirs.
-/

namespace KconfigReference

namespace Setting

theorem eq_of_sameKey_text {key : Setting} {name : CodeText} (h : sameKey key (.text name) = true) :
    key = .text name := by
  cases key with
  | text t => simpa [sameKey, integer?] using h
  | float x => cases hx : x.toInt? <;> simp [sameKey, integer?, hx] at h
  | _ => simp [sameKey, integer?] at h

/-- A name that is given a value has it. -/
theorem find?_insert_text (name : CodeText) (value : Setting) (entries : List (Setting × Setting)) :
    find? (.text name) (insert (.text name) value entries) = some value := by
  have hself : sameKey (.text name) (.text name) = true := by simp [sameKey, integer?]
  induction entries with
  | nil => simp [insert, find?, hself]
  | cons first rest ih =>
      by_cases hkey : sameKey first.1 (.text name) = true
      · simp [insert, find?, hkey]
      · simpa [insert, find?, hkey] using ih

/-- Other names keep theirs. -/
theorem find?_insert_of_ne {name other : CodeText} (h : other ≠ name) (value : Setting)
    (entries : List (Setting × Setting)) :
    find? (.text other) (insert (.text name) value entries) = find? (.text other) entries := by
  have hother : sameKey (.text name) (.text other) = false := by
    simpa [sameKey, integer?] using Ne.symm h
  induction entries with
  | nil => simp [insert, find?, hother]
  | cons first rest ih =>
      by_cases hkey : sameKey first.1 (.text name) = true
      · have hfirst : sameKey first.1 (.text other) = false := by
          rw [eq_of_sameKey_text hkey, hother]
        simp [insert, find?, hkey, hfirst]
      · simp [insert, find?, hkey, ih]

end Setting

namespace Settings

theorem get_update_self (settings : Settings) (name : Text) (value : Setting) :
    (settings.update [(.text name, value)]).get name = value := by
  rw [get]
  show (Setting.find? _ (Setting.insert _ value settings.entries)).getD .null = value
  rw [Setting.find?_insert_text, Option.getD_some]

theorem get_update_of_ne (settings : Settings) {name other : Text} (h : other ≠ name)
    (value : Setting) :
    (settings.update [(.text name, value)]).get other = settings.get other := by
  have hne : (other.map CodePoint.char) ≠ name.map CodePoint.char := by
    intro hmap
    exact h (List.map_injective_iff.2 (fun _ _ hc => CodePoint.char.inj hc) hmap)
  rw [get, get]
  show (Setting.find? _ (Setting.insert _ value settings.entries)).getD .null = _
  rw [Setting.find?_insert_of_ne hne]

end Settings

end KconfigReference
