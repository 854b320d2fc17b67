import KconfigReference.Check.Page
import KconfigReference.Proofs.Text.LineEnding

/-!
The balance of lists. The tags of a page are those of its text, read without regard to lines, and no
list is unbalanced exactly if the tags lead from no open list to no open list.
-/

namespace KconfigReference.Check

/-- How many lists are open after some tags; none if a list is closed that is not open. -/
def depthAfter (opened : Nat) : List ListTag → Option Nat
  | [] => some opened
  | .opening :: rest => depthAfter (opened + 1) rest
  | .closing :: rest =>
      match opened with
      | 0 => none
      | outer + 1 => depthAfter outer rest

theorem depthAfter_append (opened : Nat) (a b : List ListTag) :
    depthAfter opened (a ++ b) = (depthAfter opened a).bind (depthAfter · b) := by
  induction a generalizing opened with
  | nil => rfl
  | cons tag rest ih =>
      cases tag with
      | opening => exact ih (opened + 1)
      | closing =>
          cases opened with
          | zero => rfl
          | succ outer => exact ih outer

/-- Nothing is unbalanced exactly if all lists that are open come to be closed. -/
theorem unbalanced_eq_nil (opened : List Nat) (tags : List (ListTag × Nat)) :
    unbalanced opened tags = [] ↔ depthAfter opened.length (tags.map (·.1)) = some 0 := by
  induction tags generalizing opened with
  | nil => simp [unbalanced, depthAfter]
  | cons tag rest ih =>
      obtain ⟨tag, number⟩ := tag
      cases tag with
      | opening => simpa [unbalanced, depthAfter] using ih (number :: opened)
      | closing =>
          cases opened with
          | nil => simp [unbalanced, depthAfter]
          | cons start outer => simpa [unbalanced, depthAfter] using ih outer

/-- A token is found before a character that it does not hold, or not at all. -/
theorem isPrefixOf_append_of_not_mem {token : Text} {c : Char} (h : c ∉ token) (a b : Text) :
    token.isPrefixOf (a ++ c :: b) = token.isPrefixOf a := by
  induction token generalizing a with
  | nil => rfl
  | cons d more ih =>
      cases a with
      | nil =>
          have hne : (d == c) = false := beq_false_of_ne fun hd => h (by simp [hd])
          simp [List.isPrefixOf, hne]
      | cons e rest =>
          rw [List.cons_append, List.isPrefixOf, List.isPrefixOf,
            ih fun hmore => h (List.mem_cons_of_mem _ hmore)]

/-- A line feed is in no tag. -/
theorem listTags_append_lineFeed (a b : Text) :
    listTags (a ++ '\n' :: b) = listTags a ++ listTags b := by
  induction a with
  | nil => rfl
  | cons c rest ih =>
      have hopening := isPrefixOf_append_of_not_mem (show '\n' ∉ "<ul>".toList by decide)
        (c :: rest) b
      have hclosing := isPrefixOf_append_of_not_mem (show '\n' ∉ "</ul>".toList by decide)
        (c :: rest) b
      rw [List.cons_append] at hopening hclosing
      rw [List.cons_append, listTags, listTags, hopening, hclosing, ih]
      split
      · rfl
      · split <;> rfl

/-- Every line but the last one of a text ends with a line feed. -/
theorem ends_of_physicalLines {t line : Text} {more : List Text}
    (h : Text.physicalLines t = line :: more) : more = [] ∨ ∃ init, line = init ++ ['\n'] := by
  induction t generalizing line more with
  | nil => simp [Text.physicalLines] at h
  | cons c rest ih =>
      rw [Text.physicalLines] at h
      split at h
      next hc =>
        simp only [List.cons.injEq] at h
        exact .inr ⟨[], by rw [← h.1, hc]; rfl⟩
      next hc =>
        split at h
        next hrest =>
          simp only [List.cons.injEq] at h
          exact .inl h.2.symm
        next first others hrest =>
          simp only [List.cons.injEq] at h
          obtain ⟨rfl, rfl⟩ := h
          rcases ih hrest with hnil | ⟨init, rfl⟩
          · exact .inl hnil
          · exact .inr ⟨c :: init, rfl⟩

/-- The tags in the lines of a text are the tags of the text. -/
theorem listTags_physicalLines (t : Text) :
    (Text.physicalLines t).flatMap listTags = listTags t := by
  induction t with
  | nil => rfl
  | cons c rest ih =>
      have hrest := Text.flatten_physicalLines rest
      rw [Text.physicalLines]
      split
      next hc =>
        rw [List.flatMap_cons, ih, hc]
        rfl
      next hc =>
        cases hlines : Text.physicalLines rest with
        | nil =>
            rw [hlines] at hrest
            simp [← hrest]
        | cons line more =>
            rw [hlines, List.flatten_cons] at hrest
            rw [hlines, List.flatMap_cons, ← hrest] at ih
            rw [← hrest]
            rcases ends_of_physicalLines hlines with rfl | ⟨init, rfl⟩
            · simp
            · have hline : ∀ t, listTags (t ++ ['\n']) = listTags t := fun t => by
                rw [listTags_append_lineFeed, listTags, List.append_nil]
              rw [hline, List.append_assoc, List.singleton_append, listTags_append_lineFeed,
                List.append_cancel_left_eq] at ih
              rw [List.flatMap_cons, ih, ← List.cons_append, hline, List.append_assoc,
                List.singleton_append, ← List.cons_append, listTags_append_lineFeed]

/-- What is found in numbered lines is what is found in the lines. -/
theorem map_fst_zipIdx {α : Type} (find : Text → List α) (lines : List Text) (start : Nat) :
    ((lines.zipIdx start).flatMap fun line => (find line.1).map (·, line.2)).map (·.1) =
      lines.flatMap find := by
  induction lines generalizing start with
  | nil => rfl
  | cons line more ih =>
      rw [List.zipIdx_cons, List.flatMap_cons, List.flatMap_cons, List.map_append, ih,
        List.map_map]
      exact congrArg (· ++ _) (List.map_id _)

/-- No list of some lines is unbalanced exactly if their tags come to close all lists that they
open. -/
theorem balanceIssues_eq_nil (lines : List Text) :
    balanceIssues lines = [] ↔ depthAfter 0 (lines.flatMap listTags) = some 0 := by
  rw [balanceIssues, unbalanced_eq_nil]
  exact iff_of_eq (congrArg (depthAfter 0 · = some 0) (map_fst_zipIdx listTags lines 1))

/-- There is no tag in a text without angle brackets that open one. -/
theorem listTags_append_of_not_mem {t : Text} (h : '<' ∉ t) (rest : Text) :
    listTags (t ++ rest) = listTags rest := by
  induction t with
  | nil => rfl
  | cons c more ih =>
      have hne : (('<' : Char) == c) = false := beq_false_of_ne fun hc => h (by simp [← hc])
      rw [List.cons_append, listTags, ih fun hmore => h (List.mem_cons_of_mem _ hmore)]
      simp [List.isPrefixOf, hne]

/-- Where each of some texts has its own tags, whatever comes after it, their tags stand in their
order. -/
theorem listTags_flatMap {α : Type} {text : α → Text} {tags : α → List ListTag} {items : List α}
    (h : ∀ item ∈ items, ∀ rest, listTags (text item ++ rest) = tags item ++ listTags rest)
    (rest : Text) :
    listTags (items.flatMap text ++ rest) = items.flatMap tags ++ listTags rest := by
  induction items with
  | nil => rfl
  | cons item more ih =>
      have hmore := ih fun other hother => h other (List.mem_cons_of_mem _ hother)
      rw [List.flatMap_cons, List.append_assoc, h item List.mem_cons_self, hmore,
        List.flatMap_cons, List.append_assoc]

/-- Tags do not depend on line endings. -/
theorem listTags_normalizeLineEndings (t : Text) :
    listTags (Text.normalizeLineEndings t) = listTags t := by
  have hopening := Text.isPrefixOf_normalizeLineEndings
    (show '\r' ∉ "<ul>".toList by decide) (show '\n' ∉ "<ul>".toList by decide)
  have hclosing := Text.isPrefixOf_normalizeLineEndings
    (show '\r' ∉ "</ul>".toList by decide) (show '\n' ∉ "</ul>".toList by decide)
  fun_induction Text.normalizeLineEndings t with
  | case1 => rfl
  | case2 rest ih => exact ih
  | case3 c rest hne ih =>
      have hstep : Text.normalizeLineEndings (c :: rest) =
          (if c = '\r' then '\n' else c) :: Text.normalizeLineEndings rest := by
        rw [Text.normalizeLineEndings]
        exact hne
      rw [listTags, listTags, ← hstep, hopening, hclosing, ih]

end KconfigReference.Check
