import KconfigReference.Kconfig.Line

/-!
Which conditions are open after some lines. Every `endif` line cancels the last `if` line before it
that is not yet cancelled; what that comes to is read off the lines from the last to the first.
-/

namespace KconfigReference

/-- How many `endif` lines are left over for `if` lines before these lines. -/
def surplus : List Line → Nat
  | [] => 0
  | line :: rest =>
      match line.keyword? with
      | some .ifWord => surplus rest - 1
      | some .endIf => surplus rest + 1
      | _ => surplus rest

/-- The conditions of the `if` lines that no `endif` line cancels, outermost first: an `if` line
takes one of the `endif` lines that the lines after it leave over, if they leave any. -/
def openConditions : List Line → List Text
  | [] => []
  | line :: rest =>
      if line.keyword? = some .ifWord ∧ surplus rest = 0 then line.rest :: openConditions rest
      else openConditions rest

section

variable {line last : Line}

theorem surplus_if (h : line.keyword? = some .ifWord) (rest : List Line) :
    surplus (line :: rest) = surplus rest - 1 := by
  simp [surplus, h]

theorem surplus_endIf (h : line.keyword? = some .endIf) (rest : List Line) :
    surplus (line :: rest) = surplus rest + 1 := by
  simp [surplus, h]

theorem surplus_other (h : line.keyword? ≠ some .ifWord) (h' : line.keyword? ≠ some .endIf)
    (rest : List Line) : surplus (line :: rest) = surplus rest := by
  rw [surplus]
  split
  next hif => exact absurd hif h
  next hendif => exact absurd hendif h'
  next => rfl

theorem openConditions_if (h : line.keyword? = some .ifWord) (rest : List Line) :
    openConditions (line :: rest) =
      if surplus rest = 0 then line.rest :: openConditions rest else openConditions rest := by
  simp [openConditions, h]

theorem openConditions_of_ne (h : line.keyword? ≠ some .ifWord) (rest : List Line) :
    openConditions (line :: rest) = openConditions rest := by
  simp [openConditions, h]

/-- The lines that come after count by their surplus only. -/
theorem surplus_append (lines : List Line) {more more' : List Line}
    (h : surplus more = surplus more') : surplus (lines ++ more) = surplus (lines ++ more') := by
  induction lines with
  | nil => exact h
  | cons line rest ih =>
      rw [List.cons_append, List.cons_append, surplus, surplus, ih]

theorem openConditions_append_if (h : last.keyword? = some .ifWord) (lines : List Line) :
    openConditions (lines ++ [last]) = openConditions lines ++ [last.rest] := by
  induction lines with
  | nil => simp [openConditions, surplus, h]
  | cons line rest ih =>
      have hsurplus : surplus (rest ++ [last]) = surplus rest := by
        have hlast : surplus [last] = surplus [] := by simp [surplus, h]
        simpa using surplus_append rest hlast
      rw [List.cons_append, openConditions, openConditions, hsurplus, ih]
      split <;> rfl

theorem openConditions_append_other (h : last.keyword? ≠ some .ifWord)
    (h' : last.keyword? ≠ some .endIf) (lines : List Line) :
    openConditions (lines ++ [last]) = openConditions lines := by
  induction lines with
  | nil => simp [openConditions, h]
  | cons line rest ih =>
      have hsurplus : surplus (rest ++ [last]) = surplus rest := by
        simpa using surplus_append rest (surplus_other h h' [])
      rw [List.cons_append, openConditions, openConditions, hsurplus, ih]

/-- One more `endif` line cancels the innermost open condition, or is left over if none is open. -/
theorem append_endIf (h : last.keyword? = some .endIf) (lines : List Line) :
    openConditions (lines ++ [last]) = (openConditions lines).dropLast ∧
      surplus (lines ++ [last]) =
        if openConditions lines = [] then surplus lines + 1 else surplus lines := by
  induction lines with
  | nil => simp [openConditions, surplus, h]
  | cons line rest ih =>
      obtain ⟨hopen, hsurplus⟩ := ih
      by_cases hif : line.keyword? = some .ifWord
      · rw [List.cons_append, openConditions_if hif, openConditions_if hif, surplus_if hif,
          surplus_if hif, hopen, hsurplus]
        by_cases hnone : openConditions rest = []
        · cases surplus rest <;> simp [hnone]
        · cases surplus rest <;> simp [hnone, List.dropLast_cons_of_ne_nil hnone]
      · have hsame : ∀ more, surplus (line :: more) =
            if line.keyword? = some .endIf then surplus more + 1 else surplus more := by
          intro more
          split
          next hendif => exact surplus_endIf hendif more
          next hendif => exact surplus_other hif hendif more
        rw [List.cons_append, openConditions_of_ne hif, openConditions_of_ne hif, hsame, hsame,
          hopen, hsurplus]
        refine ⟨rfl, ?_⟩
        split <;> split <;> rfl

theorem openConditions_append_endIf (h : last.keyword? = some .endIf) (lines : List Line) :
    openConditions (lines ++ [last]) = (openConditions lines).dropLast := (append_endIf h lines).1

end

end KconfigReference
