import KconfigReference.Text.Intake
import Mathlib.Tactic.Common

/-!
Text files while they are read. Whatever the sizes of the parts in which bytes come in, a file whose
bytes are a text is handed out to its end without a fault.
-/

namespace KconfigReference

namespace Utf8

variable {unfinished : Option Partial}

theorem mapM_id_eq_none {units : List (Option Char)} : units.mapM id = none ↔ none ∈ units := by
  induction units with
  | nil => simp
  | cons first rest ih =>
      rw [List.mapM_cons]
      cases first with
      | none => simp
      | some c =>
          cases hrest : rest.mapM id with
          | none => simpa [hrest] using ih
          | some chars => simpa [hrest] using ih

theorem decode?_eq_none {bytes : Bytes} : decode? bytes = none ↔ none ∈ units none bytes :=
  mapM_id_eq_none

/-- A part of bytes without faults is decoded, and there is no fault in those after it. -/
theorem exists_decodePart? {first rest : Bytes} (h : none ∉ units unfinished (first ++ rest)) :
    ∃ text next, decodePart? unfinished first = some (text, next) ∧ none ∉ units next rest := by
  induction first generalizing unfinished with
  | nil => exact ⟨[], unfinished, rfl, h⟩
  | cons byte first ih =>
      rw [List.cons_append, units, List.mem_append, not_or] at h
      obtain ⟨hfed, hmore⟩ := h
      obtain ⟨more, next, hdecoded, hnext⟩ := ih hmore
      obtain ⟨chars, hchars⟩ := Option.ne_none_iff_exists'.1 (mt mapM_id_eq_none.1 hfed)
      refine ⟨chars ++ more, next, ?_, hnext⟩
      simp [decodePart?, hchars, hdecoded]

end Utf8

namespace Intake

/-- There is no fault in the bytes that have not come in. -/
def Faultless (intake : Intake) : Prop := none ∉ Utf8.units intake.unfinished intake.left

variable {intake : Intake}

/-- A part of a file without faults comes in. -/
theorem Faultless.exists_takeIn (h : intake.Faultless) (wanted : Nat) :
    ∃ next goesOn, intake.takeIn wanted = some (next, goesOn) ∧ next.Faultless := by
  unfold Faultless at h
  let size := max partSize (intake.density.mul (.ofInt wanted)).wholePart
  rw [← List.take_append_drop size intake.left] at h
  obtain ⟨text, unfinished, hdecoded, hrest⟩ := Utf8.exists_decodePart? h
  have hend : ((intake.left.take size).isEmpty && unfinished.isSome) = false := by
    by_contra hstopped
    simp only [Bool.not_eq_false, Bool.and_eq_true, List.isEmpty_iff, List.take_eq_nil_iff]
      at hstopped
    have hpositive : 0 < size := Nat.lt_of_lt_of_le (by decide) (Nat.le_max_left partSize _)
    obtain ⟨hsize | hleft, hsome⟩ := hstopped
    · omega
    · simp [hleft, Utf8.units, hsome] at hrest
  simp only [size] at hdecoded hend hrest
  simp only [takeIn, hdecoded, Option.bind_eq_bind, Option.bind_some, hend, Bool.false_eq_true,
    if_false]
  exact ⟨_, _, rfl, hrest⟩

theorem Faultless.exists_prepare (h : intake.Faultless) (bound : Nat) :
    ∃ next, intake.prepare bound = some next ∧ next.Faultless := by
  induction bound generalizing intake with
  | zero => exact ⟨intake, rfl, h⟩
  | succ bound ih =>
      rw [prepare]
      split
      · exact ⟨intake, rfl, h⟩
      · obtain ⟨next, goesOn, htake, hnext⟩ := h.exists_takeIn (pieceSize - intake.ready.length)
        cases goesOn with
        | false => exact ⟨next, by rw [htake], hnext⟩
        | true =>
            rw [htake]
            exact ih hnext

/-- A file without faults is handed out without one. -/
theorem Faultless.piecesFrom (h : intake.Faultless) (bound : Nat) :
    (intake.piecesFrom bound).2 = false := by
  induction bound generalizing intake with
  | zero => rfl
  | succ bound ih =>
      obtain ⟨next, hprepare, hnext⟩ := h.exists_prepare (intake.left.length + 2)
      rw [Intake.piecesFrom, hprepare]
      dsimp only
      split
      · rfl
      · have hlater : Faultless { next with ready := next.ready.drop pieceSize } := hnext
        exact ih hlater

end Intake

/-- Only bytes that are no text show a fault while they are read. -/
theorem Text.decode?_of_pieceWise {bytes : Bytes} (h : (Text.pieceWise bytes).2 = true) :
    Utf8.decode? bytes = none := by
  rw [Utf8.decode?_eq_none]
  by_contra hfaultless
  have hsound : (Intake.ofBytes bytes).Faultless := hfaultless
  exact absurd h (by rw [Text.pieceWise, hsound.piecesFrom]; simp)

end KconfigReference
