import KconfigReference.Check.Page
import KconfigReference.Proofs.Text.LineEnding

/-!
The attributes that a check finds. A value that is found stands between its opening and a quotation
mark, and one that comes first in a line, after characters that begin no opening, is found. Links
are looked up by their quotation marks: whether one stands at a quotation mark depends on what is
before and after the mark only, so that a text is scanned part by part.
-/

namespace KconfigReference.Check

/-- The text up to the next quotation mark. -/
def quoted (t : Text) : Text := t.takeWhile (· ≠ '"')

theorem not_mem_quoted (t : Text) : '"' ∉ quoted t := by
  unfold quoted
  induction t with
  | nil => simp
  | cons c rest ih =>
      by_cases hc : c = '"'
      · simp [hc]
      · simpa [List.takeWhile_cons, hc, Ne.symm hc] using ih

theorem quoted_append {value : Text} (h : '"' ∉ value) (rest : Text) :
    quoted (value ++ '"' :: rest) = value := by
  have hall : ∀ c ∈ value, decide (c ≠ '"') = true := by
    intro c hc
    simp only [ne_eq, decide_eq_true_eq]
    rintro rfl
    exact h hc
  rw [quoted, List.takeWhile_append_of_pos hall]
  simp

/-- A quotation mark follows, unless the text ends before it. -/
theorem eq_append_of_quoted {t : Text} (h : (quoted t).length < t.length) :
    ∃ rest, t = quoted t ++ '"' :: rest := by
  unfold quoted at *
  induction t with
  | nil => simp at h
  | cons c rest ih =>
      by_cases hc : c = '"'
      · exact ⟨rest, by simp [hc]⟩
      · have htake : (c :: rest).takeWhile (· ≠ '"') = c :: rest.takeWhile (· ≠ '"') := by
          simp [hc]
        rw [htake] at h ⊢
        obtain ⟨more, hmore⟩ := ih (Nat.lt_of_succ_lt_succ h)
        refine ⟨more, ?_⟩
        rw [List.cons_append, ← hmore]

/-- What is found stands in the line. -/
theorem infix_of_mem_values {opening line value : Text} (h : value ∈ values opening line) :
    '"' ∉ value ∧ opening ++ (value ++ ['"']) <:+: line := by
  fun_induction values opening line with
  | case1 => simp at h
  | case2 c rest hprefix inside found hfound ih =>
      rcases List.mem_cons.1 h with rfl | h
      · obtain ⟨tail, htail⟩ := List.isPrefixOf_iff_prefix.1 hprefix
        have hinside : inside = tail := by simp [inside, ← htail]
        simp only [Bool.and_eq_true, decide_eq_true_eq] at hfound
        obtain ⟨more, hmore⟩ := eq_append_of_quoted hfound.2
        refine ⟨not_mem_quoted inside, [], more, ?_⟩
        rw [List.nil_append, ← htail, ← hinside, List.append_assoc, List.append_assoc,
          List.singleton_append]
        exact congrArg (opening ++ ·) hmore.symm
      · obtain ⟨hquote, hwithin⟩ := ih h
        exact ⟨hquote, List.infix_cons (hwithin.trans (List.drop_suffix _ _).isInfix)⟩
  | case3 c rest hprefix inside found hfound ih =>
      obtain ⟨hquote, hwithin⟩ := ih h
      exact ⟨hquote, List.infix_cons hwithin⟩
  | case4 c rest hprefix ih =>
      obtain ⟨hquote, hwithin⟩ := ih h
      exact ⟨hquote, List.infix_cons hwithin⟩

/-- A value is found after characters that begin no opening. -/
theorem mem_values_of_first {begin : Char} {opening before value rest : Text}
    (hbefore : begin ∉ before) (hne : value ≠ []) (hquote : '"' ∉ value) :
    value ∈ values (begin :: opening)
      (before ++ ((begin :: opening) ++ (value ++ '"' :: rest))) := by
  induction before with
  | nil =>
      have hprefix : (begin :: opening).isPrefixOf
          ((begin :: opening) ++ (value ++ '"' :: rest)) = true :=
        List.isPrefixOf_iff_prefix.2 (List.prefix_append _ _)
      have hdrop : (((begin :: opening) ++ (value ++ '"' :: rest)).drop
          (begin :: opening).length) = value ++ '"' :: rest := List.drop_left
      have hvalue : (value ++ '"' :: rest).takeWhile (· ≠ '"') = value := quoted_append hquote rest
      rw [List.nil_append]
      rw [List.cons_append] at hprefix hdrop ⊢
      rw [values, if_pos hprefix]
      simp only [hdrop, hvalue]
      rw [if_pos (by simp [hne])]
      exact List.mem_cons_self
  | cons c more ih =>
      have hc : (begin :: opening).isPrefixOf
          (c :: (more ++ ((begin :: opening) ++ (value ++ '"' :: rest)))) = false := by
        have hne : begin ≠ c := fun h => hbefore (by simp [h])
        simp [List.isPrefixOf, hne]
      rw [List.cons_append, values, hc, if_neg Bool.false_ne_true]
      exact ih fun h => hbefore (List.mem_cons_of_mem _ h)

/-- What stands before the quotation mark of a link, last character first. -/
def linkStem : Text := "=ferh"

/-- The links in a text that comes after others: at a quotation mark after the stem and before a
number sign there is one. -/
def links (before : Text) : Text → List Text
  | [] => []
  | c :: rest =>
      (if c = '"' && linkStem.isPrefixOf before && rest.head? = some '#' then
        [quoted (rest.drop 1)] else []) ++ links (c :: before) rest

theorem links_cons_of_ne {c : Char} (h : c ≠ '"') (before rest : Text) :
    links before (c :: rest) = links (c :: before) rest := by
  simp [links, h]

/-- There is no link in a text without quotation marks. -/
theorem links_append_of_not_mem {t : Text} (h : '"' ∉ t) (before rest : Text) :
    links before (t ++ rest) = links (t.reverse ++ before) rest := by
  induction t generalizing before with
  | nil => rfl
  | cons c more ih =>
      have hc : c ≠ '"' := fun hc => h (by simp [hc])
      rw [List.cons_append, links_cons_of_ne hc, ih fun hmore => h (List.mem_cons_of_mem _ hmore)]
      simp

/-- Where each of some texts has its own links, whatever stands before and after it, their links
stand in their order. -/
theorem links_flatMap {α : Type} {text : α → Text} {targets : α → List Text} {items : List α}
    (h : ∀ item ∈ items, ∀ before rest, links before (text item ++ rest) =
      targets item ++ links ((text item).reverse ++ before) rest) (before rest : Text) :
    links before (items.flatMap text ++ rest) =
      items.flatMap targets ++ links ((items.flatMap text).reverse ++ before) rest := by
  induction items generalizing before with
  | nil => rfl
  | cons item more ih =>
      have hmore := fun before =>
        ih (fun other hother => h other (List.mem_cons_of_mem _ hother)) before
      rw [List.flatMap_cons, List.append_assoc, h item List.mem_cons_self, hmore,
        List.flatMap_cons, List.append_assoc, List.reverse_append, List.append_assoc]

/-- Every quotation mark of the text comes after a backslash; `previous` is the character before
the text. -/
def Guarded (previous : Char) : Text → Prop
  | [] => True
  | c :: rest => (c = '"' → previous = '\\') ∧ Guarded c rest

/-- There is no link in a text with guarded quotation marks. -/
theorem links_append_of_guarded {previous : Char} {t : Text} (h : Guarded previous t)
    {before : Text} (hbefore : before.head? = some previous) (rest : Text) :
    links before (t ++ rest) = links (t.reverse ++ before) rest := by
  induction t generalizing previous before with
  | nil => rfl
  | cons c more ih =>
      have hlater : links (c :: before) (more ++ rest) =
          links (more.reverse ++ c :: before) rest := ih h.2 rfl
      have hstep : links before (c :: (more ++ rest)) = links (c :: before) (more ++ rest) := by
        by_cases hc : c = '"'
        · obtain rfl := h.1 hc
          obtain ⟨start, rfl⟩ : ∃ start, before = '\\' :: start := by
            cases before with
            | nil => simp at hbefore
            | cons d start => exact ⟨start, by simpa using hbefore⟩
          simp [links, linkStem, List.isPrefixOf]
        · exact links_cons_of_ne hc before _
      rw [List.cons_append, hstep, hlater]
      simp

/-- Links stay where they are when there is something before them. -/
theorem mem_links_append {target before rest : Text} (t : Text)
    (h : target ∈ links (t.reverse ++ before) rest) : target ∈ links before (t ++ rest) := by
  induction t generalizing before with
  | nil => exact h
  | cons c more ih =>
      rw [List.cons_append, links]
      refine List.mem_append_right _ (ih ?_)
      simpa using h

/-- After the stem a quotation mark and a number sign begin a link. -/
theorem links_stem (before rest : Text) :
    links (linkStem ++ before) ('"' :: '#' :: rest) =
      quoted rest :: links ('#' :: '"' :: (linkStem ++ before)) rest := by
  have hstem : linkStem.isPrefixOf (linkStem ++ before) = true :=
    List.isPrefixOf_iff_prefix.2 (List.prefix_append _ _)
  rw [links, links_cons_of_ne (by decide)]
  simp [hstem]

/-- A link that stands in a text is among its links. -/
theorem mem_links_of_infix {t target : Text} (hquote : '"' ∉ target)
    (h : ("href=\"#" : Text) ++ (target ++ ['"']) <:+: t) : target ∈ links [] t := by
  obtain ⟨start, rest, rfl⟩ := h
  have hhere : target ∈ links (linkStem ++ start.reverse)
      ('"' :: '#' :: (target ++ '"' :: rest)) := by
    rw [links_stem, quoted_append hquote]
    exact List.mem_cons_self
  have hthere : target ∈ links [] ((start ++ "href=".toList) ++
      ('"' :: '#' :: (target ++ '"' :: rest))) := by
    apply mem_links_append
    simpa [linkStem] using hhere
  simpa using hthere

end KconfigReference.Check
