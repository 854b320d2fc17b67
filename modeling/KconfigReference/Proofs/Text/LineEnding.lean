import KconfigReference.Text.Basic

/-!
Line endings and parts of texts. Making all line endings line feeds changes nothing between them:
what holds no line ending occurs in the result only where it occurred before. A text that ends a
line cuts the lines of what comes after it off from its own.
-/

namespace KconfigReference.Text

theorem normalizeLineEndings_cons_of_ne {c : Char} (h : c ≠ '\r') (rest : Text) :
    normalizeLineEndings (c :: rest) = c :: normalizeLineEndings rest := by
  rw [normalizeLineEndings, if_neg h]
  intro more hcontra
  exact absurd hcontra h

theorem normalizeLineEndings_pair (rest : Text) :
    normalizeLineEndings ('\r' :: '\n' :: rest) = '\n' :: normalizeLineEndings rest := rfl

theorem normalizeLineEndings_return {rest : Text} (h : rest.head? ≠ some '\n') :
    normalizeLineEndings ('\r' :: rest) = '\n' :: normalizeLineEndings rest := by
  cases rest with
  | nil => rfl
  | cons c more =>
      rw [normalizeLineEndings, if_pos rfl]
      rintro _ _ hc
      simp_all

/-- A text without carriage returns has its line endings already. -/
theorem normalizeLineEndings_of_not_mem {t : Text} (h : '\r' ∉ t) : normalizeLineEndings t = t := by
  induction t with
  | nil => rfl
  | cons c rest ih =>
      have hc : c ≠ '\r' := fun hc => h (by simp [hc])
      rw [normalizeLineEndings_cons_of_ne hc, ih fun hrest => h (List.mem_cons_of_mem _ hrest)]

theorem not_mem_normalizeLineEndings (t : Text) : '\r' ∉ normalizeLineEndings t := by
  fun_induction normalizeLineEndings t with
  | case1 => simp
  | case2 rest ih => simp [ih]
  | case3 c rest hne ih =>
      split
      · simp [ih]
      · next hc => simp [ih, Ne.symm hc]

theorem getLast?_ne_of_cons {c last : Char} {rest : Text}
    (h : (c :: rest).getLast? ≠ some last) : rest.getLast? ≠ some last := by
  intro hlast
  cases rest with
  | nil => simp at hlast
  | cons d more => exact h (by simpa using hlast)

/-- A text that does not end in a carriage return has line endings of its own. -/
theorem normalizeLineEndings_append {a : Text} (h : a.getLast? ≠ some '\r') (b : Text) :
    normalizeLineEndings (a ++ b) = normalizeLineEndings a ++ normalizeLineEndings b := by
  fun_induction normalizeLineEndings a with
  | case1 => rfl
  | case2 rest ih =>
      have hrest := getLast?_ne_of_cons (getLast?_ne_of_cons h)
      rw [List.cons_append, List.cons_append, normalizeLineEndings_pair, ih hrest]
      rfl
  | case3 c rest hne ih =>
      have hrest := getLast?_ne_of_cons h
      by_cases hc : c = '\r'
      · subst hc
        have hhead : (rest ++ b).head? ≠ some '\n' := by
          cases rest with
          | nil => simp at h
          | cons d more =>
              intro hd
              simp only [List.cons_append, List.head?_cons, Option.some.injEq] at hd
              exact hne more rfl (by rw [hd])
        rw [List.cons_append, normalizeLineEndings_return hhead, ih hrest]
        rfl
      · rw [List.cons_append, normalizeLineEndings_cons_of_ne hc, ih hrest, if_neg hc]
        rfl

theorem beq_ending_of_not_mem {c : Char} {more : Text} (hreturn : '\r' ∉ c :: more)
    (hfeed : '\n' ∉ c :: more) : (c == '\r') = false ∧ (c == '\n') = false := by
  constructor
  · exact beq_false_of_ne fun hc => hreturn (by simp [hc])
  · exact beq_false_of_ne fun hc => hfeed (by simp [hc])

/-- Whether a text that holds no line ending comes first does not depend on line endings. -/
theorem isPrefixOf_normalizeLineEndings {token : Text} (hreturn : '\r' ∉ token)
    (hfeed : '\n' ∉ token) (t : Text) :
    token.isPrefixOf (normalizeLineEndings t) = token.isPrefixOf t := by
  fun_induction normalizeLineEndings t generalizing token with
  | case1 => rfl
  | case2 rest ih =>
      cases token with
      | nil => rfl
      | cons c more =>
          have hc := beq_ending_of_not_mem hreturn hfeed
          simp [List.isPrefixOf, hc.1, hc.2]
  | case3 d rest hne ih =>
      cases token with
      | nil => rfl
      | cons c more =>
          have hmore := ih (fun h => hreturn (List.mem_cons_of_mem _ h))
            (fun h => hfeed (List.mem_cons_of_mem _ h))
          by_cases hd : d = '\r'
          · have hc := beq_ending_of_not_mem hreturn hfeed
            simp [List.isPrefixOf, hd, hc.1, hc.2]
          · rw [if_neg hd, List.isPrefixOf, List.isPrefixOf, hmore]

/-- What holds no line ending occurs where it occurred before. -/
theorem infix_of_infix_normalizeLineEndings {token t : Text} (hreturn : '\r' ∉ token)
    (hfeed : '\n' ∉ token) (h : token <:+: normalizeLineEndings t) : token <:+: t := by
  have hprefix := isPrefixOf_normalizeLineEndings hreturn hfeed
  fun_induction normalizeLineEndings t with
  | case1 => exact h
  | case2 rest ih =>
      rcases List.infix_cons_iff.1 h with hfirst | hlater
      · have hcontra := hprefix ('\r' :: '\n' :: rest)
        rw [normalizeLineEndings_pair, List.isPrefixOf_iff_prefix.2 hfirst] at hcontra
        exact (List.isPrefixOf_iff_prefix.1 hcontra.symm).isInfix
      · exact List.infix_cons (List.infix_cons (ih hlater))
  | case3 d rest hcase ih =>
      rcases List.infix_cons_iff.1 h with hfirst | hlater
      · have hcontra := hprefix (d :: rest)
        rw [normalizeLineEndings, List.isPrefixOf_iff_prefix.2 hfirst] at hcontra
        · exact (List.isPrefixOf_iff_prefix.1 hcontra.symm).isInfix
        · exact hcase
      · exact List.infix_cons (ih hlater)

/-- A physical line is the part before its line feed, and the line feed unless it is missing. -/
theorem eq_content_of_mem_physicalLines {t physical : Text} (h : physical ∈ physicalLines t) :
    physical ≠ [] ∧ (physical = physical.takeWhile (· ≠ '\n') ∨
      physical = physical.takeWhile (· ≠ '\n') ++ ['\n']) := by
  induction t generalizing physical with
  | nil => simp [physicalLines] at h
  | cons c rest ih =>
      simp only [physicalLines] at h
      split at h
      next hc =>
        rcases List.mem_cons.1 h with rfl | h
        · simp [hc]
        · exact ih h
      next hc =>
        split at h
        next hrest =>
          simp only [List.mem_singleton] at h
          subst h
          simp [hc]
        next line more hrest =>
          rcases List.mem_cons.1 h with rfl | h
          · have hline := (ih (by simp [hrest] : line ∈ physicalLines rest)).2
            simpa [List.takeWhile_cons, hc] using hline
          · exact ih (by simp [hrest, h])

theorem infix_of_mem_physicalLines {t line : Text} (h : line ∈ physicalLines t) : line <:+: t := by
  obtain ⟨before, after, hsplit⟩ := List.append_of_mem h
  refine ⟨before.flatten, after.flatten, ?_⟩
  rw [← flatten_physicalLines t, hsplit]
  simp

/-- A line feed ends a line, whatever comes after it. -/
theorem physicalLines_append_lineFeed (a b : Text) :
    physicalLines (a ++ '\n' :: b) = physicalLines (a ++ ['\n']) ++ physicalLines b := by
  induction a with
  | nil => rfl
  | cons c rest ih =>
      simp only [List.cons_append, physicalLines, ih]
      split
      · rfl
      · cases hrest : physicalLines (rest ++ ['\n']) with
        | nil =>
            have hflat := flatten_physicalLines (rest ++ ['\n'])
            rw [hrest] at hflat
            simp at hflat
        | cons line more => rfl

/-- What comes first in a text, and holds no line feed, comes first in a line. -/
theorem exists_line_of_prefix {first : Text} (hne : first ≠ []) (hfeed : '\n' ∉ first)
    (rest : Text) : ∃ line ∈ physicalLines (first ++ rest), first <+: line := by
  have hhead : ∀ (first : Text), first ≠ [] → '\n' ∉ first →
      ∃ line more, physicalLines (first ++ rest) = line :: more ∧ first <+: line := by
    intro first
    induction first with
    | nil => exact fun hne _ => absurd rfl hne
    | cons c others ih =>
        intro _ hfeed
        have hc : c ≠ '\n' := fun hc => hfeed (by simp [hc])
        rw [List.cons_append, physicalLines, if_neg hc]
        cases others with
        | nil =>
            cases physicalLines ([] ++ rest) with
            | nil => exact ⟨_, _, rfl, List.prefix_rfl⟩
            | cons line more => exact ⟨_, _, rfl, line, rfl⟩
        | cons d others =>
            obtain ⟨line, more, hlines, hline⟩ := ih (by simp)
              (fun h => hfeed (List.mem_cons_of_mem _ h))
            rw [hlines]
            exact ⟨_, _, rfl, List.cons_prefix_cons.2 ⟨rfl, hline⟩⟩
  obtain ⟨line, more, hlines, hline⟩ := hhead first hne hfeed
  exact ⟨line, by simp [hlines], hline⟩

/-- What stands in a line and ends in something else than a line feed holds none. -/
theorem not_mem_of_infix_line {t line token : Text} (hline : line ∈ physicalLines t)
    {last : Char} (hlast : last ≠ '\n') (h : token ++ [last] <:+: line) : '\n' ∉ token ++ [last] := by
  have hcontent : ∀ content : Text, token ++ [last] <:+: content.takeWhile (· ≠ '\n') →
      '\n' ∉ token ++ [last] := by
    intro content hwithin hmem
    have htake : ∀ t : Text, '\n' ∉ t.takeWhile (· ≠ '\n') := by
      intro t
      induction t with
      | nil => simp
      | cons c rest ih =>
          by_cases hc : c = '\n'
          · simp [hc]
          · simpa [List.takeWhile_cons, hc, Ne.symm hc] using ih
    exact htake content (hwithin.subset hmem)
  rcases (eq_content_of_mem_physicalLines hline).2 with hplain | hended
  · rw [hplain] at h
    exact hcontent line h
  · rw [hended] at h
    obtain ⟨before, after, hsplit⟩ := h
    rcases List.eq_nil_or_concat after with rfl | ⟨init, c, rfl⟩
    · rw [List.append_nil, ← List.append_assoc] at hsplit
      exact absurd (by simpa using (List.append_inj' hsplit rfl).2) hlast
    · rw [List.concat_eq_append, ← List.append_assoc] at hsplit
      exact hcontent line ⟨before, init, (List.append_inj' hsplit rfl).1⟩

/-- Whether a text is empty or ends a line. -/
def EndsLine (t : Text) : Prop := t = [] ∨ t.getLast? = some '\n'

theorem EndsLine.of_last {b : Text} (h : b.getLast? = some '\n') (a : Text) : EndsLine (a ++ b) :=
  .inr (by rw [List.getLast?_append, h]; rfl)

theorem EndsLine.append {a b : Text} (ha : EndsLine a) (hb : EndsLine b) : EndsLine (a ++ b) := by
  rcases hb with rfl | hb
  · simpa using ha
  · exact .of_last hb a

theorem EndsLine.flatMap {α : Type} {text : α → Text} (h : ∀ item, EndsLine (text item))
    (items : List α) : EndsLine (items.flatMap text) := by
  induction items with
  | nil => exact .inl rfl
  | cons item more ih => exact (h item).append ih

theorem EndsLine.physicalLines_append {a : Text} (h : EndsLine a) (b : Text) :
    physicalLines (a ++ b) = physicalLines a ++ physicalLines b := by
  rcases h with rfl | h
  · rfl
  · obtain ⟨init, rfl⟩ := List.getLast?_eq_some_iff.1 h
    rw [List.append_assoc, List.singleton_append, physicalLines_append_lineFeed]

theorem EndsLine.normalizeLineEndings_append {a : Text} (h : EndsLine a) (b : Text) :
    normalizeLineEndings (a ++ b) = normalizeLineEndings a ++ normalizeLineEndings b := by
  apply Text.normalizeLineEndings_append
  rcases h with rfl | h <;> simp_all

/-- What comes first after the end of a line comes first in a line. -/
theorem EndsLine.exists_line {before first : Text} (h : EndsLine before) (hne : first ≠ [])
    (hfeed : '\n' ∉ first) (rest : Text) :
    ∃ line ∈ physicalLines (before ++ (first ++ rest)), first <+: line := by
  obtain ⟨line, hline, hprefix⟩ := exists_line_of_prefix hne hfeed rest
  refine ⟨line, ?_, hprefix⟩
  rw [h.physicalLines_append]
  exact List.mem_append_right _ hline

theorem getLast?_normalizeLineEndings (t : Text) :
    (normalizeLineEndings (t ++ ['\n'])).getLast? = some '\n' := by
  fun_induction normalizeLineEndings t with
  | case1 => rfl
  | case2 rest ih =>
      rw [List.cons_append, List.cons_append, normalizeLineEndings_pair, List.getLast?_cons, ih]
      rfl
  | case3 c rest hne ih =>
      cases rest with
      | nil =>
          by_cases hc : c = '\r'
          · rw [hc]
            rfl
          · rw [List.singleton_append, normalizeLineEndings_cons_of_ne hc]
            rfl
      | cons d more =>
          rw [List.cons_append, normalizeLineEndings, List.getLast?_cons, ih]
          · rfl
          · intro later hc hlater
            simp only [List.cons_append, List.cons.injEq] at hlater
            exact hne more hc (by rw [hlater.1])

theorem EndsLine.normalize {t : Text} (h : EndsLine t) : EndsLine (normalizeLineEndings t) := by
  rcases h with rfl | h
  · exact .inl rfl
  · obtain ⟨init, rfl⟩ := List.getLast?_eq_some_iff.1 h
    exact .inr (getLast?_normalizeLineEndings init)

end KconfigReference.Text
