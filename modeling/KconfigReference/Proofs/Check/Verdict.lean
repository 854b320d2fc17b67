import KconfigReference.Proofs.Check.Finding
import KconfigReference.Proofs.Check.Matching
import Mathlib.Data.Finset.Card

/-!
When the lines of a page pass, and what the verifier says of them in full. Links without an anchor
and unbalanced lists are errors, anchors of one name are not. Main statement: lines pass exactly if
each link that is found in them has an anchor that is found in them and their list tags are a
balanced word; the errors about lists are about the tags that are left over, each once; and there is
one warning for each anchor but the first one of its name.
-/

namespace KconfigReference.Check

/-- No link fails exactly if every target is the name of an anchor, in whatever line. -/
theorem linkIssues_eq_nil (lines : List Text) :
    linkIssues lines = [] ↔
      ∀ line ∈ lines, ∀ target ∈ linkTargets line, ∃ other ∈ lines, target ∈ anchorNames other := by
  have hline : ∀ line ∈ lines, ∃ number, (line, number) ∈ numbered lines := by
    intro line hline
    obtain ⟨place, hplace⟩ := List.mem_iff_getElem?.1 hline
    exact ⟨1 + place, List.mk_add_mem_zipIdx_iff_getElem?.2 hplace⟩
  simp only [linkIssues, List.flatMap_eq_nil_iff, List.map_eq_nil_iff, List.filter_eq_nil_iff,
    Bool.not_eq_true', Bool.not_eq_false, List.contains_iff_mem, List.mem_flatMap]
  constructor
  · intro h line hmem target htarget
    obtain ⟨number, hnumbered⟩ := hline line hmem
    exact h (line, number) hnumbered target htarget
  · rintro h ⟨line, number⟩ hnumbered target htarget
    exact h line ((List.mem_zipIdx hnumbered).2.2 ▸ List.getElem_mem _) target htarget

theorem severity_of_mem_linkIssues {lines : List Text} {issue : Issue}
    (h : issue ∈ linkIssues lines) : issue.severity = .error := by
  obtain ⟨_, -, hissue⟩ := List.mem_flatMap.1 h
  obtain ⟨_, -, rfl⟩ := List.mem_map.1 hissue
  rfl

theorem severity_of_mem_duplicates {seen found : List (Text × Nat)} {issue : Issue}
    (h : issue ∈ duplicates seen found) : issue.severity = .warning := by
  induction found generalizing seen with
  | nil => simp [duplicates] at h
  | cons name rest ih =>
      obtain ⟨name, number⟩ := name
      rw [duplicates] at h
      split at h
      · rcases List.mem_cons.1 h with rfl | h
        · rfl
        · exact ih h
      · exact ih h

theorem severity_of_mem_unbalanced {opened : List Nat} {tags : List (ListTag × Nat)} {issue : Issue}
    (h : issue ∈ unbalanced opened tags) : issue.severity = .error := by
  induction tags generalizing opened with
  | nil =>
      obtain ⟨_, -, rfl⟩ := List.mem_map.1 h
      rfl
  | cons tag rest ih =>
      obtain ⟨tag | tag, number⟩ := tag
      · exact ih h
      · cases opened with
        | nil =>
            rcases List.mem_cons.1 h with rfl | h
            · rfl
            · exact ih h
        | cons start outer => exact ih h

theorem passes_append (found more : List Issue) :
    passes (found ++ more) = (passes found && passes more) := List.all_append

theorem passes_duplicateIssues (lines : List Text) : passes (duplicateIssues lines) = true := by
  rw [passes, List.all_eq_true]
  intro issue hissue
  rw [severity_of_mem_duplicates hissue]
  rfl

/-- Errors alone pass only if there are none. -/
theorem passes_iff_eq_nil {found : List Issue} (h : ∀ issue ∈ found, issue.severity = .error) :
    passes found = true ↔ found = [] := by
  cases found with
  | nil => simp [passes]
  | cons issue more => simp [passes, h issue List.mem_cons_self]

/-- Lines pass exactly if every link has its anchor and all lists that are opened are closed. -/
theorem passes_issues_iff (lines : List Text) :
    passes (issues lines) = true ↔
      (∀ line ∈ lines, ∀ target ∈ linkTargets line, ∃ other ∈ lines, target ∈ anchorNames other) ∧
        depthAfter 0 (lines.flatMap listTags) = some 0 := by
  have hlinks : passes (linkIssues lines) = true ↔ linkIssues lines = [] :=
    passes_iff_eq_nil fun _ => severity_of_mem_linkIssues
  have hlists : passes (balanceIssues lines) = true ↔ balanceIssues lines = [] :=
    passes_iff_eq_nil fun _ => severity_of_mem_unbalanced
  rw [issues, passes_append, passes_append, passes_duplicateIssues, Bool.and_true,
    Bool.and_eq_true, hlinks, hlists, linkIssues_eq_nil, balanceIssues_eq_nil]

/-- What is found in some lines, with the numbers of the lines. -/
def foundIn {α : Type} (find : Text → List α) (lines : List Text) : List (α × Nat) :=
  (numbered lines).flatMap fun (line, number) => (find line).map (·, number)

theorem map_fst_foundIn {α : Type} (find : Text → List α) (lines : List Text) :
    (foundIn find lines).map (·.1) = lines.flatMap find := map_fst_zipIdx find lines 1

/-- The names in a list, each counted once. -/
def nameSet (entries : List (Text × Nat)) : Finset Text := (entries.map (·.1)).toFinset

theorem nameSet_cons (name : Text) (number : Nat) (rest : List (Text × Nat)) :
    nameSet ((name, number) :: rest) = insert name (nameSet rest) := by
  rw [nameSet, List.map_cons, List.toFinset_cons, nameSet]

theorem lookup_isSome_iff {seen : List (Text × Nat)} {name : Text} :
    (seen.lookup name).isSome = true ↔ name ∈ nameSet seen := by
  simp [nameSet, List.lookup_isSome_iff]

theorem card_insert_sdiff {names known : Finset Text} {name : Text} (h : name ∉ known) :
    (insert name names \ known).card = (names \ insert name known).card + 1 := by
  have hsplit : insert name names \ known = insert name (names \ insert name known) := by
    ext other
    by_cases hother : other = name
    · simp [hother, h]
    · simp [hother]
  rw [hsplit, Finset.card_insert_of_notMem (by simp)]

/-- Each occurrence is warned of or is the first one of its name, by induction on the occurrences,
with those met before. -/
theorem length_duplicates_add (seen found : List (Text × Nat)) :
    (duplicates seen found).length + (nameSet found \ nameSet seen).card = found.length := by
  induction found generalizing seen with
  | nil => simp [duplicates, nameSet]
  | cons entry rest ih =>
      obtain ⟨name, number⟩ := entry
      rw [nameSet_cons, duplicates, List.length_cons]
      cases hseen : seen.lookup name with
      | some first =>
          have hmem : name ∈ nameSet seen := lookup_isSome_iff.1 (by rw [hseen]; rfl)
          rw [Finset.insert_sdiff_of_mem _ hmem, List.length_cons, Nat.add_right_comm, ih]
      | none =>
          have hnot : name ∉ nameSet seen := fun hmem => by
            have hsome := lookup_isSome_iff.2 hmem
            rw [hseen] at hsome
            cases hsome
          rw [card_insert_sdiff hnot, ← nameSet_cons name number, ← Nat.add_assoc, ih]

theorem length_duplicateIssues_add (lines : List Text) :
    (duplicateIssues lines).length + (lines.flatMap anchorNames).toFinset.card =
      (lines.flatMap anchorNames).length := by
  have hcount := length_duplicates_add [] (foundIn anchorNames lines)
  have hnone : nameSet [] = ∅ := rfl
  rw [hnone, Finset.sdiff_empty, nameSet, map_fst_foundIn] at hcount
  rw [← map_fst_foundIn anchorNames lines, List.length_map, map_fst_foundIn]
  exact hcount

/-- The warnings are those of anchors. -/
theorem warnings_issues (lines : List Text) :
    (issues lines).filter (·.severity = .warning) = duplicateIssues lines := by
  have hlinks : (linkIssues lines).filter (·.severity = .warning) = [] := by
    rw [List.filter_eq_nil_iff]
    intro issue hissue
    simp [severity_of_mem_linkIssues hissue]
  have hlists : (balanceIssues lines).filter (·.severity = .warning) = [] := by
    rw [List.filter_eq_nil_iff]
    intro issue hissue
    simp [severity_of_mem_unbalanced hissue]
  have hnames : (duplicateIssues lines).filter (·.severity = .warning) = duplicateIssues lines := by
    rw [List.filter_eq_self]
    intro issue hissue
    simp [severity_of_mem_duplicates hissue]
  rw [issues, List.filter_append, List.filter_append, hlinks, hlists, hnames, List.nil_append,
    List.append_nil]

/-- Lines pass exactly if each target that is found in them is the name of an anchor that is found
in them, and the list tags that are found are a balanced word. The errors about lists are those
about the tags that are left over, each once. Warnings are as many as anchors repeat a name, and have
no part in the verdict. -/
theorem issues_exact (lines : List Text) :
    (passes (issues lines) = true ↔
      (∀ line ∈ lines, ∀ target ∈ linkTargets line, ∃ other ∈ lines, target ∈ anchorNames other) ∧
        Balanced (lines.flatMap listTags)) ∧
    (∀ line : Text,
      (∀ found, Finds (valueAfter "href=\"#") line found ↔ found = linkTargets line) ∧
      (∀ found, Finds (valueAfter "name=\"") line found ↔ found = anchorNames line) ∧
      ∀ found, Finds writtenTag line found ↔ found = listTags line) ∧
    (∃ places : List Nat, places.Nodup ∧
      (∀ place, place ∈ places ↔ Unmatched (lines.flatMap listTags) place) ∧
      List.Forall₂ (Reports (foundIn listTags lines)) places (balanceIssues lines)) ∧
    ((issues lines).filter (·.severity = .warning)).length +
      (lines.flatMap anchorNames).toFinset.card = (lines.flatMap anchorNames).length ∧
    passes (issues lines) = passes (linkIssues lines ++ balanceIssues lines) := by
  refine ⟨?_, ?_, ?_, ?_, ?_⟩
  · rw [passes_issues_iff, balanced_iff]
  · intro line
    refine ⟨fun found => ?_, fun found => ?_, fun found => ?_⟩
    · exact (finds_values _ line).iff_eq (unambiguous_valueAfter _)
    · exact (finds_values _ line).iff_eq (unambiguous_valueAfter _)
    · exact (finds_listTags line).iff_eq unambiguous_writtenTag
  · obtain ⟨places, hnodup, hmem, hreports⟩ :=
      exists_pending List.drop_zero (stacked_zero ((foundIn listTags lines).map (·.1))) .nil
    refine ⟨places, hnodup, fun place => ?_, hreports⟩
    rw [hmem, pending_zero, map_fst_foundIn]
  · rw [warnings_issues]
    exact length_duplicateIssues_add lines
  · rw [issues, passes_append, passes_append, passes_append, passes_duplicateIssues,
      Bool.and_true]

end KconfigReference.Check
