import KconfigReference.Proofs.Check.Attribute
import KconfigReference.Proofs.Check.Balance

/-!
Searches for a pattern in a line. From left to right each match is taken where it begins, and the
search goes on behind it. Main statement: the targets of links, the names of anchors and the tags of
lists in a line are what such searches find.
-/

namespace KconfigReference.Check

variable {α : Type} {pattern : Text → α → Prop}

/-- A search goes on behind a match, and otherwise from the next character. -/
inductive Finds (pattern : Text → α → Prop) : Text → List α → Prop where
  | nothing : Finds pattern [] []
  | here {t rest : Text} {a : α} {more : List α} (hmatch : pattern t a)
      (hmore : Finds pattern rest more) : Finds pattern (t ++ rest) (a :: more)
  | onward {c : Char} {rest : Text} {found : List α} (hnone : ∀ t a, pattern t a → ¬t <+: c :: rest)
      (hrest : Finds pattern rest found) : Finds pattern (c :: rest) found

/-- At most one match begins at a place, and it is not empty. -/
structure Unambiguous (pattern : Text → α → Prop) : Prop where
  ne_nil : ∀ {t a}, pattern t a → t ≠ []
  unique : ∀ {t t' rest rest' a a'}, pattern t a → pattern t' a' → t ++ rest = t' ++ rest' →
    t = t' ∧ a = a'

/-- A search finds one list, by induction on one search with the other one in step. -/
theorem Finds.unique_of_eq (hpattern : Unambiguous pattern) {line line' : Text}
    {found found' : List α} (h : Finds pattern line found) (h' : Finds pattern line' found')
    (hline : line = line') : found = found' := by
  induction h generalizing line' found' with
  | nothing =>
      cases h' with
      | nothing => rfl
      | here hmatch hmore =>
          have hnil := List.append_eq_nil_iff.1 hline.symm
          exact absurd hnil.1 (hpattern.ne_nil hmatch)
      | onward hnone hrest => cases hline
  | here hmatch hmore ih =>
      cases h' with
      | nothing =>
          have hnil := List.append_eq_nil_iff.1 hline
          exact absurd hnil.1 (hpattern.ne_nil hmatch)
      | here hmatch' hmore' =>
          obtain ⟨rfl, rfl⟩ := hpattern.unique hmatch hmatch' hline
          rw [ih hmore' (List.append_cancel_left hline)]
      | onward hnone hrest =>
          exact absurd ⟨_, hline⟩ (hnone _ _ hmatch)
  | onward hnone hrest ih =>
      cases h' with
      | nothing => cases hline
      | here hmatch hmore =>
          exact absurd ⟨_, hline.symm⟩ (hnone _ _ hmatch)
      | onward hnone' hrest' =>
          obtain ⟨-, hrest⟩ := List.cons.inj hline
          exact ih hrest' hrest

theorem Finds.iff_eq (hpattern : Unambiguous pattern) {line : Text} {found : List α}
    (h : Finds pattern line found) {found' : List α} :
    Finds pattern line found' ↔ found' = found := by
  constructor
  · intro h'
    exact h'.unique_of_eq hpattern h rfl
  · rintro rfl
    exact h

/-- A value that is not empty, between what opens it and a quotation mark. -/
def valueAfter (opening : Text) : Text → Text → Prop := fun t value =>
  value ≠ [] ∧ '"' ∉ value ∧ t = opening ++ (value ++ ['"'])

theorem unambiguous_valueAfter (opening : Text) : Unambiguous (valueAfter opening) := by
  constructor
  · rintro t value ⟨-, -, rfl⟩ hnil
    simp at hnil
  · rintro t t' rest rest' value value' ⟨-, hquote, rfl⟩ ⟨-, hquote', rfl⟩ heq
    have hboth : value ++ '"' :: rest = value' ++ '"' :: rest' := by simpa using heq
    have hvalue := congrArg quoted hboth
    rw [quoted_append hquote, quoted_append hquote'] at hvalue
    exact ⟨by rw [hvalue], hvalue⟩

/-- The value with which a line begins goes up to the next quotation mark. -/
theorem quoted_of_valueAfter {opening t value line : Text} (h : valueAfter opening t value)
    (hstarts : t <+: line) : opening <+: line ∧ quoted (line.drop opening.length) = value ∧
      (quoted (line.drop opening.length)).length < (line.drop opening.length).length := by
  obtain ⟨-, hquote, rfl⟩ := h
  obtain ⟨rest, rfl⟩ := hstarts
  have hdrop : (opening ++ (value ++ ['"']) ++ rest).drop opening.length =
      value ++ '"' :: rest := by simp
  rw [hdrop, quoted_append hquote]
  exact ⟨⟨value ++ '"' :: rest, by simp⟩, rfl, by simp⟩

theorem finds_values (opening line : Text) :
    Finds (valueAfter opening) line (values opening line) := by
  fun_induction values opening line with
  | case1 => exact .nothing
  | case2 c rest hstarts inside value hvalue ih =>
      simp only [Bool.and_eq_true, decide_eq_true_eq] at hvalue
      obtain ⟨more, hmore⟩ := eq_append_of_quoted hvalue.2
      have hline : c :: rest = opening ++ (value ++ ['"']) ++ more := by
        have hinside : opening ++ inside = c :: rest :=
          List.prefix_iff_eq_append.1 (List.isPrefixOf_iff_prefix.1 hstarts)
        rw [← hinside, hmore]
        simp [value, quoted]
      have hbehind : rest.drop (opening.length + value.length) = more := by
        have hdrop := congrArg (List.drop (opening ++ (value ++ ['"'])).length) hline
        rw [List.drop_left] at hdrop
        simpa [← Nat.add_assoc] using hdrop
      rw [hbehind] at ih ⊢
      rw [hline]
      exact .here ⟨hvalue.1, not_mem_quoted inside, rfl⟩ ih
  | case3 c rest hstarts inside value hvalue ih =>
      refine .onward ?_ ih
      intro t a hmatch hfront
      obtain ⟨-, hquoted, hlength⟩ := quoted_of_valueAfter hmatch hfront
      simp only [Bool.and_eq_true, decide_eq_true_eq, not_and] at hvalue
      have hsame : value = a := hquoted
      exact hvalue (hsame ▸ hmatch.1) hlength
  | case4 c rest hstarts ih =>
      refine .onward ?_ ih
      intro t a hmatch hfront
      obtain ⟨hopening, -⟩ := quoted_of_valueAfter hmatch hfront
      exact hstarts (List.isPrefixOf_iff_prefix.2 hopening)

def ListTag.text : ListTag → Text
  | .opening => "<ul>"
  | .closing => "</ul>"

/-- A list tag as it is written. -/
def writtenTag : Text → ListTag → Prop := fun t tag => t = tag.text

theorem unambiguous_writtenTag : Unambiguous writtenTag := by
  constructor
  · rintro t (_ | _) rfl <;> decide
  · rintro t t' rest rest' (_ | _) (_ | _) rfl rfl heq
    · exact ⟨rfl, rfl⟩
    · simp [ListTag.text] at heq
    · simp [ListTag.text] at heq
    · exact ⟨rfl, rfl⟩

theorem listTags_text (tag : ListTag) (rest : Text) :
    listTags (tag.text ++ rest) = tag :: listTags rest := by
  cases tag with
  | opening =>
      have hrest := listTags_append_of_not_mem (show '<' ∉ "ul>".toList by decide) rest
      rw [← hrest]
      rfl
  | closing =>
      have hrest := listTags_append_of_not_mem (show '<' ∉ "/ul>".toList by decide) rest
      rw [← hrest]
      rfl

theorem listTags_cons_of_none {c : Char} {rest : Text}
    (h : ∀ tag : ListTag, ¬tag.text <+: c :: rest) : listTags (c :: rest) = listTags rest := by
  have hopening : ¬"<ul>".toList.isPrefixOf (c :: rest) = true :=
    fun hstarts => h .opening (List.isPrefixOf_iff_prefix.1 hstarts)
  have hclosing : ¬"</ul>".toList.isPrefixOf (c :: rest) = true :=
    fun hstarts => h .closing (List.isPrefixOf_iff_prefix.1 hstarts)
  rw [listTags, if_neg hopening, if_neg hclosing]

/-- The search goes on behind a tag, while `listTags` goes on inside it; no tag begins there. -/
theorem finds_listTags (line : Text) : Finds writtenTag line (listTags line) := by
  induction hlength : line.length using Nat.strongRecOn generalizing line with
  | ind length ih =>
      cases line with
      | nil => exact .nothing
      | cons c rest =>
          by_cases htag : ∃ tag : ListTag, tag.text <+: c :: rest
          · obtain ⟨tag, more, hmore⟩ := htag
            have hshorter : more.length < length := by
              rw [← hlength, ← hmore, List.length_append]
              exact Nat.lt_add_of_pos_left
                (List.length_pos_iff.2 (unambiguous_writtenTag.ne_nil rfl))
            rw [← hmore, listTags_text]
            exact .here rfl (ih more.length hshorter more rfl)
          · have hnone : ∀ tag : ListTag, ¬tag.text <+: c :: rest := not_exists.1 htag
            rw [listTags_cons_of_none hnone]
            have hshorter : rest.length < length := by
              rw [← hlength]
              exact Nat.lt_succ_self _
            refine .onward ?_ (ih rest.length hshorter rest rfl)
            rintro t tag rfl
            exact hnone tag

end KconfigReference.Check
