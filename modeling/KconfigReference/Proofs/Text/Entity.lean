import KconfigReference.Proofs.Text.Brackets

/-!
Texts with entities, written and read. Main statement: a text can be escaped by replacing `&`, then
`<`, then `>` everywhere in it; the escaped text has no bracket, every `&` in it begins an entity,
and reading its entities from left to right gives back the text.
-/

namespace KconfigReference

namespace CodePoint

/-- A code point is escaped as the entity of its character, or it stands for itself. -/
theorem escapeMarkup_cases (point : CodePoint) :
    (point = .char '&' ∧ point.escapeMarkup = ("&amp;" : CodeText)) ∨
      (point = .char '<' ∧ point.escapeMarkup = ("&lt;" : CodeText)) ∨
      (point = .char '>' ∧ point.escapeMarkup = ("&gt;" : CodeText)) ∨
      (point ≠ .char '&' ∧ point ≠ .char '<' ∧ point ≠ .char '>' ∧
        point.escapeMarkup = [point]) := by
  cases point with
  | half offset => exact .inr (.inr (.inr ⟨nofun, nofun, nofun, rfl⟩))
  | char c =>
      by_cases hand : c = '&'
      · subst hand
        exact .inl ⟨rfl, rfl⟩
      by_cases hless : c = '<'
      · subst hless
        exact .inr (.inl ⟨rfl, rfl⟩)
      by_cases hgreater : c = '>'
      · subst hgreater
        exact .inr (.inr (.inl ⟨rfl, rfl⟩))
      · refine .inr (.inr (.inr ?_))
        simp [escapeMarkup, Text.entity, hand, hless, hgreater]

end CodePoint

namespace CodeText

/-- The text with another text in every place of a character. -/
def replaceAll (c : Char) (new : Text) (t : CodeText) : CodeText :=
  t.flatMap fun point => if point = .char c then new else [point]

/-- The entities of the characters of markup. -/
def entities : List CodeText := ["&amp;", "&lt;", "&gt;"]

/-- The text that a text with entities stands for. From left to right, an entity stands for its
character and everything else for itself. -/
def readEntities : CodeText → CodeText
  | [] => []
  | .char '&' :: .char 'a' :: .char 'm' :: .char 'p' :: .char ';' :: rest =>
      .char '&' :: readEntities rest
  | .char '&' :: .char 'l' :: .char 't' :: .char ';' :: rest => .char '<' :: readEntities rest
  | .char '&' :: .char 'g' :: .char 't' :: .char ';' :: rest => .char '>' :: readEntities rest
  | point :: rest => point :: readEntities rest

theorem escapeMarkup_cons (point : CodePoint) (rest : CodeText) :
    escapeMarkup (point :: rest) = point.escapeMarkup ++ escapeMarkup rest := rfl

theorem escapeMarkup_append (a b : CodeText) :
    escapeMarkup (a ++ b) = escapeMarkup a ++ escapeMarkup b := List.flatMap_append

/-- A text of characters is escaped character by character. -/
theorem escapeMarkup_char (t : Text) :
    escapeMarkup (t.map CodePoint.char) = (Text.escapeMarkup t).map CodePoint.char := by
  rw [escapeMarkup, List.flatMap_map, Text.escapeMarkup, List.map_flatMap]
  rfl

theorem replaceAll_append (c : Char) (new : Text) (a b : CodeText) :
    replaceAll c new (a ++ b) = replaceAll c new a ++ replaceAll c new b := List.flatMap_append

theorem replaceAll_of_ne {c : Char} {point : CodePoint} (h : point ≠ .char c) (new : Text) :
    replaceAll c new [point] = [point] := by
  rw [replaceAll, List.flatMap_singleton, if_neg h]

/-- What is written for `&` has no bracket and what is written for `<` has no `>`, so that no
replacement touches what an earlier one has written. -/
theorem escapeMarkup_eq_replaceAll (t : CodeText) : t.escapeMarkup =
    replaceAll '>' "&gt;" (replaceAll '<' "&lt;" (replaceAll '&' "&amp;" t)) := by
  induction t with
  | nil => rfl
  | cons point rest ih =>
      have hpoint : replaceAll '>' "&gt;" (replaceAll '<' "&lt;" (replaceAll '&' "&amp;" [point])) =
          point.escapeMarkup := by
        rcases point.escapeMarkup_cases with ⟨rfl, -⟩ | ⟨rfl, -⟩ | ⟨rfl, -⟩ |
          ⟨hand, hless, hgreater, h⟩
        · decide
        · decide
        · decide
        · rw [replaceAll_of_ne hand, replaceAll_of_ne hless, replaceAll_of_ne hgreater, h]
      rw [escapeMarkup_cons, ih, ← hpoint, ← replaceAll_append, ← replaceAll_append,
        ← replaceAll_append, List.singleton_append]

/-- A text without brackets does not hold any of them. -/
theorem not_mem_of_brackets {t : CodeText} (h : brackets t = []) {c : Char}
    (hc : Text.isBracket c = true) : .char c ∉ t := by
  intro hmem
  have hchars : c ∈ t.chars := List.mem_filterMap.2 ⟨_, hmem, rfl⟩
  exact List.filter_eq_nil_iff.1 h c hchars hc

theorem readEntities_cons {point : CodePoint} (h : point ≠ .char '&') (rest : CodeText) :
    readEntities (point :: rest) = point :: readEntities rest := by
  rw [readEntities]
  all_goals exact fun _ hpoint => absurd hpoint h

/-- What is written for a code point is read as the code point, whatever comes after it. -/
theorem readEntities_escapeMarkup_append (point : CodePoint) (rest : CodeText) :
    readEntities (point.escapeMarkup ++ rest) = point :: readEntities rest := by
  rcases point.escapeMarkup_cases with ⟨rfl, -⟩ | ⟨rfl, -⟩ | ⟨rfl, -⟩ | ⟨hand, -, -, h⟩
  · rfl
  · rfl
  · rfl
  · rw [h, List.singleton_append, readEntities_cons hand]

theorem readEntities_escapeMarkup (t : CodeText) : t.escapeMarkup.readEntities = t := by
  induction t with
  | nil => rfl
  | cons point rest ih => rw [escapeMarkup_cons, readEntities_escapeMarkup_append, ih]

/-- A text that looks escaped is escaped once more. -/
example : escapeMarkup (("&lt;" : Text) : CodeText) = (("&amp;lt;" : Text) : CodeText) := by
  decide

/-- An end of two lists that begins with an element which the first list does not hold is an end of
the second one. -/
theorem suffix_of_suffix_append {α : Type} {a : α} {before rest tail : List α}
    (hbefore : a ∉ before) (h : a :: tail <:+ before ++ rest) : a :: tail <:+ rest := by
  induction before with
  | nil => exact h
  | cons first more ih =>
      rw [List.mem_cons, not_or] at hbefore
      rcases List.suffix_cons_iff.1 h with heq | hbehind
      · exact absurd (List.cons.inj heq).1 hbefore.1
      · exact ih hbefore.2 hbehind

/-- What is written for a code point has no `&` but at its beginning, and there only as that of an
entity. -/
theorem escapeMarkup_eq_cons (point : CodePoint) : ∃ first more,
    point.escapeMarkup = first :: more ∧ .char '&' ∉ more ∧
      (first = .char '&' → point.escapeMarkup ∈ entities) := by
  rcases point.escapeMarkup_cases with ⟨rfl, -⟩ | ⟨rfl, -⟩ | ⟨rfl, -⟩ | ⟨hand, -, -, h⟩
  · exact ⟨_, _, rfl, by decide, by decide⟩
  · exact ⟨_, _, rfl, by decide, by decide⟩
  · exact ⟨_, _, rfl, by decide, by decide⟩
  · exact ⟨point, [], h, List.not_mem_nil, fun heq => absurd heq hand⟩

/-- Every `&` of an escaped text begins an entity. By induction on the text: the `&` is the first
character written for the first code point, or it stands in what is written for the others. -/
theorem exists_entity_of_suffix {t tail : CodeText} (h : .char '&' :: tail <:+ t.escapeMarkup) :
    ∃ entity ∈ entities, entity <+: .char '&' :: tail := by
  induction t with
  | nil => simp [escapeMarkup] at h
  | cons point rest ih =>
      obtain ⟨first, more, hwritten, hmore, hentity⟩ := escapeMarkup_eq_cons point
      rw [escapeMarkup_cons, hwritten, List.cons_append] at h
      rcases List.suffix_cons_iff.1 h with heq | hbehind
      · have hfirst : first = .char '&' := (List.cons.inj heq).1.symm
        refine ⟨point.escapeMarkup, hentity hfirst, escapeMarkup rest, ?_⟩
        rw [hwritten, List.cons_append, heq]
      · exact ih (suffix_of_suffix_append hmore hbehind)

/-- Escaping is the replacement of `&`, then `<`, then `>`. What it gives has no bracket, every `&`
in it begins an entity, and its entities are read back as the text, so that different texts stay
different. Texts are escaped piece by piece, whether or not they have halves of surrogate pairs. -/
theorem escapeMarkup_lossless (t : CodeText) :
    t.escapeMarkup =
        replaceAll '>' "&gt;" (replaceAll '<' "&lt;" (replaceAll '&' "&amp;" t)) ∧
      .char '<' ∉ t.escapeMarkup ∧ .char '>' ∉ t.escapeMarkup ∧
      (∀ tail, .char '&' :: tail <:+ t.escapeMarkup →
        ∃ entity ∈ entities, entity <+: .char '&' :: tail) ∧
      t.escapeMarkup.readEntities = t ∧
      (∀ other : CodeText, other.escapeMarkup = t.escapeMarkup → other = t) ∧
      (∀ other : CodeText, escapeMarkup (t ++ other) = t.escapeMarkup ++ other.escapeMarkup) ∧
      ∀ plain : Text, t = plain.map CodePoint.char →
        t.escapeMarkup = (Text.escapeMarkup plain).map CodePoint.char := by
  have hbrackets := brackets_escapeMarkup t
  have hread : Function.LeftInverse readEntities escapeMarkup := readEntities_escapeMarkup
  refine ⟨escapeMarkup_eq_replaceAll t, not_mem_of_brackets hbrackets rfl,
    not_mem_of_brackets hbrackets rfl, fun tail => exists_entity_of_suffix, hread t, ?_,
    escapeMarkup_append t, ?_⟩
  · exact fun other hsame => hread.injective hsame
  · rintro plain rfl
    exact escapeMarkup_char plain

end CodeText

end KconfigReference
