import KconfigReference.Kconfig.Entry
import KconfigReference.Proofs.Check.Attribute
import KconfigReference.Proofs.Check.Balance
import KconfigReference.Text.Basic
import KconfigReference.Text.CodePoint

/-!
Quiet texts: parts of a page that neither open nor close a list and link nowhere, whatever stands
around them. Escaped prompts are quiet, because every quotation mark in a prompt comes after a
backslash and every bracket is written as an entity.
-/

namespace KconfigReference

open Check (Guarded linkStem)

/-- What the parts and the separator have, and what joining two texts keeps, a joined text has. -/
theorem Text.join_induction {p : Text → Prop} (hnil : p []) (happend : ∀ a b, p a → p b → p (a ++ b))
    {separator : Text} {parts : List Text} (hseparator : p separator)
    (hparts : ∀ part ∈ parts, p part) : p (Text.join separator parts) := by
  unfold Text.join
  induction parts with
  | nil => exact hnil
  | cons first rest ih =>
      have hfirst := hparts first List.mem_cons_self
      have hrest := ih fun part hpart => hparts part (List.mem_cons_of_mem _ hpart)
      cases rest with
      | nil => simpa using hfirst
      | cons second more =>
          rw [List.intercalate_cons_cons]
          exact happend _ _ (happend _ _ hfirst hseparator) hrest

/-- A text without tags of lists and without links, whatever comes before and after it. -/
structure Quiet (t : Text) : Prop where
  tags : ∀ rest, Check.listTags (t ++ rest) = Check.listTags rest
  links : ∀ before rest, Check.links before (t ++ rest) = Check.links (t.reverse ++ before) rest

namespace Quiet

theorem nil : Quiet [] := ⟨fun _ => rfl, fun _ _ => rfl⟩

theorem append {a b : Text} (ha : Quiet a) (hb : Quiet b) : Quiet (a ++ b) where
  tags rest := by rw [List.append_assoc, ha.tags, hb.tags]
  links before rest := by
    rw [List.append_assoc, ha.links, hb.links, List.reverse_append, List.append_assoc]

theorem of_not_mem {t : Text} (hbracket : '<' ∉ t) (hquote : '"' ∉ t) : Quiet t where
  tags := Check.listTags_append_of_not_mem hbracket
  links := Check.links_append_of_not_mem hquote

/-- A text with guarded quotation marks, the first of which does not come first. -/
theorem of_guarded {c : Char} {t : Text} (hbracket : '<' ∉ c :: t) (hc : c ≠ '"')
    (h : Guarded c t) : Quiet (c :: t) where
  tags := Check.listTags_append_of_not_mem hbracket
  links before rest := by
    have hlater := Check.links_append_of_guarded h (show (c :: before).head? = some c from rfl) rest
    rw [List.cons_append, Check.links_cons_of_ne hc, hlater]
    simp

theorem join {separator : Text} {parts : List Text} (hseparator : Quiet separator)
    (hparts : ∀ part ∈ parts, Quiet part) : Quiet (Text.join separator parts) :=
  Text.join_induction nil (fun _ _ => append) hseparator hparts

end Quiet

namespace Text

/-- A character of a name: no quotation mark, no bracket that opens a tag, and no white space. -/
def isPlain (c : Char) : Bool := c ≠ '"' && c ≠ '<' && !isBlank c

/-- A letter, a digit or an underscore. -/
def isWordChar (c : Char) : Bool := c.isAlphanum || c = '_'

theorem isPlain_of_isWordChar {c : Char} (h : isWordChar c = true) : isPlain c = true := by
  have hrange : (65 ≤ c.toNat ∧ c.toNat ≤ 90) ∨ (97 ≤ c.toNat ∧ c.toNat ≤ 122) ∨
      (48 ≤ c.toNat ∧ c.toNat ≤ 57) ∨ c.toNat = 95 := by
    have hkinds : (decide (65 ≤ c.val ∧ c.val ≤ 90) || decide (97 ≤ c.val) && decide (c.val ≤ 122) ||
        decide (48 ≤ c.val) && decide (c.val ≤ 57) || decide (c = '_')) = true := h
    simp only [Bool.or_eq_true, Bool.and_eq_true, decide_eq_true_eq,
      UInt32.le_iff_toNat_le] at hkinds
    rcases hkinds with ((h | h) | h) | rfl
    · exact .inl h
    · exact .inr (.inl h)
    · exact .inr (.inr (.inl h))
    · exact .inr (.inr (.inr rfl))
  clear h
  have hquote : c ≠ '"' := by
    rintro rfl
    revert hrange
    decide
  have hbracket : c ≠ '<' := by
    rintro rfl
    revert hrange
    decide
  have hblank : isBlank c = false := by
    simp only [isBlank, blankRanges, List.any_cons, List.any_nil, Bool.or_eq_false_iff,
      Bool.and_eq_false_iff, decide_eq_false_iff_not, and_true]
    omega
  simp [isPlain, hquote, hbracket, hblank]

theorem isPlain_of_mem_ofNat {n : Nat} {c : Char} (h : c ∈ ofNat n) : isPlain c = true := by
  have hdigit : c.isDigit = true := Nat.isDigit_of_mem_toDigits (by decide) (by decide) h
  have hword : (c.isAlpha || c.isDigit || decide (c = '_')) = true := by simp [hdigit]
  exact isPlain_of_isWordChar hword

end Text

theorem Quiet.ofNat (n : Nat) : Quiet (Text.ofNat n) :=
  .of_not_mem (fun hmem => absurd (Text.isPlain_of_mem_ofNat hmem) (by decide))
    (fun hmem => absurd (Text.isPlain_of_mem_ofNat hmem) (by decide))

/-- Whether two texts differ where both have characters. -/
def clash : Text → Text → Bool
  | c :: a, d :: b => c ≠ d || clash a b
  | _, _ => false

theorem not_isPrefixOf_of_clash {a b : Text} (h : clash a b = true) (rest : Text) :
    a.isPrefixOf (b ++ rest) = false := by
  induction a generalizing b with
  | nil => simp [clash] at h
  | cons c a ih =>
      cases b with
      | nil => simp [clash] at h
      | cons d b =>
          simp only [clash, Bool.or_eq_true, decide_eq_true_eq] at h
          rcases h with hne | h
          · simp [List.isPrefixOf, hne]
          · simp [List.isPrefixOf, ih h]

/-- Whether every bracket of a text is seen to open no tag of a list. -/
def isTagless : Text → Bool
  | [] => true
  | c :: rest =>
      (c ≠ '<' || clash "<ul>" (c :: rest) && clash "</ul>" (c :: rest)) && isTagless rest

theorem listTags_append_of_isTagless {t : Text} (h : isTagless t = true) (rest : Text) :
    Check.listTags (t ++ rest) = Check.listTags rest := by
  induction t with
  | nil => rfl
  | cons c more ih =>
      simp only [isTagless, Bool.and_eq_true, Bool.or_eq_true, decide_eq_true_eq] at h
      obtain ⟨hbracket, hmore⟩ := h
      rw [List.cons_append, Check.listTags, ih hmore]
      rcases hbracket with hne | ⟨hopening, hclosing⟩
      · have hbeq : (('<' : Char) == c) = false := beq_false_of_ne (Ne.symm hne)
        simp [List.isPrefixOf, hbeq]
      · have h₁ := not_isPrefixOf_of_clash hopening rest
        have h₂ := not_isPrefixOf_of_clash hclosing rest
        rw [List.cons_append] at h₁ h₂
        rw [h₁, h₂, if_neg Bool.false_ne_true, if_neg Bool.false_ne_true]

/-- Whether every quotation mark of a text is seen to open no link; `seen` has the characters
before, last first. -/
def isLinkless (seen : Text) : Text → Bool
  | [] => true
  | c :: rest =>
      (c ≠ '"' || clash linkStem seen || rest ≠ [] && rest.head? ≠ some '#') &&
        isLinkless (c :: seen) rest

theorem links_append_of_isLinkless {seen t : Text} (h : isLinkless seen t = true)
    (before rest : Text) :
    Check.links (seen ++ before) (t ++ rest) =
      Check.links (t.reverse ++ (seen ++ before)) rest := by
  induction t generalizing seen with
  | nil => rfl
  | cons c more ih =>
      simp only [isLinkless, Bool.and_eq_true, Bool.or_eq_true, decide_eq_true_eq] at h
      obtain ⟨hquote, hmore⟩ := h
      have hlater := ih hmore
      rw [List.cons_append] at hlater
      rw [List.cons_append, Check.links, hlater]
      rcases hquote with (hne | hclash) | ⟨hnil, hhead⟩
      · simp [hne]
      · simp [not_isPrefixOf_of_clash hclash before]
      · cases more with
        | nil => simp at hnil
        | cons d more =>
            have hd : d ≠ '#' := fun hd => hhead (by simp [hd])
            simp [hd]

theorem Quiet.of_isQuiet {t : Text} (h : (isTagless t && isLinkless [] t) = true) : Quiet t := by
  obtain ⟨htags, hlinks⟩ := Bool.and_eq_true_iff.1 h
  exact ⟨listTags_append_of_isTagless htags, links_append_of_isLinkless hlinks⟩

namespace Check

theorem Guarded.of_ne {previous other : Char} {t : Text} (hne : previous ≠ '\\')
    (h : Guarded previous t) : Guarded other t := by
  cases t with
  | nil => trivial
  | cons c rest => exact ⟨fun hc => absurd (h.1 hc) hne, h.2⟩

theorem guarded_append {previous last : Char} {a b : Text} (ha : '"' ∉ a)
    (hlast : a.getLast? = some last) (hb : Guarded last b) : Guarded previous (a ++ b) := by
  induction a generalizing previous with
  | nil => simp at hlast
  | cons c rest ih =>
      refine ⟨fun hc => absurd (by simp [hc]) ha, ?_⟩
      cases rest with
      | nil =>
          obtain rfl : c = last := by simpa using hlast
          exact hb
      | cons d more =>
          exact ih (fun hmem => ha (List.mem_cons_of_mem _ hmem)) (by simpa using hlast)

/-- Escaping keeps quotation marks and backslashes where they are. -/
theorem Guarded.escapeMarkup {previous : Char} {t : Text} (h : Guarded previous t) :
    Guarded previous (Text.escapeMarkup t) := by
  induction t generalizing previous with
  | nil => trivial
  | cons c rest ih =>
      have hrest := ih h.2
      have hspecial : c ≠ '\\' → Guarded ';' (Text.escapeMarkup rest) := fun hne => hrest.of_ne hne
      have hsplit : Text.escapeMarkup (c :: rest) = Text.entity c ++ Text.escapeMarkup rest := rfl
      rw [hsplit, Text.entity]
      split
      next hc => exact guarded_append (by decide) (by decide) (hspecial (by simp [hc]))
      next =>
        split
        next hc => exact guarded_append (by decide) (by decide) (hspecial (by simp [hc]))
        next =>
          split
          next hc => exact guarded_append (by decide) (by decide) (hspecial (by simp [hc]))
          next => exact ⟨h.1, hrest⟩

end Check

namespace Text

theorem not_mem_entity {c : Char} : '<' ∉ entity c := by
  unfold entity
  split
  · decide
  · split
    · decide
    · next h =>
        split
        · decide
        · simpa using fun hc => h hc.symm

/-- An escaped text holds no bracket that opens a tag. -/
theorem not_mem_escapeMarkup (t : Text) : '<' ∉ escapeMarkup t := by
  intro h
  obtain ⟨c, -, hc⟩ := List.mem_flatMap.1 h
  exact not_mem_entity hc

/-- An escaped text holds no quotation mark that the text does not hold. -/
theorem quote_not_mem_escapeMarkup {t : Text} (h : '"' ∉ t) : '"' ∉ escapeMarkup t := by
  intro hmem
  obtain ⟨c, hc, hquote⟩ := List.mem_flatMap.1 hmem
  have hne : c ≠ '"' := fun heq => h (heq ▸ hc)
  unfold entity at hquote
  split at hquote
  · exact absurd hquote (by decide)
  · split at hquote
    · exact absurd hquote (by decide)
    · split at hquote
      · exact absurd hquote (by decide)
      · exact hne (List.mem_singleton.1 hquote).symm

end Text

namespace Prompt

theorem elim_map_cons (c : Char) (t : Text) (sides : Option (Text × Text)) :
    (sides.map fun (before, after) => (c :: before, after)).elim (c :: t) Prod.fst =
      c :: sides.elim t Prod.fst := by
  cases sides <;> rfl

/-- What is split off at a quotation mark has its own quotation marks guarded; so has a text that
is not split. -/
theorem guarded_splitAtMark {escaped : Bool} {previous : Char} {t : Text}
    (hescaped : escaped = true → previous = '\\') :
    Guarded previous ((splitAtMark ['"'] escaped t).elim t Prod.fst) := by
  induction t generalizing escaped previous with
  | nil => trivial
  | cons c rest ih =>
      simp only [splitAtMark]
      by_cases hafter : escaped = true
      · rw [if_pos hafter, elim_map_cons]
        exact ⟨fun _ => hescaped hafter, ih (by simp)⟩
      · rw [if_neg hafter]
        by_cases hslash : c = '\\'
        · rw [if_pos hslash, elim_map_cons]
          exact ⟨fun hquote => by simp [hslash] at hquote, ih fun _ => hslash⟩
        · rw [if_neg hslash]
          by_cases hquote : c = '"'
          · rw [if_pos (by rw [hquote])]
            trivial
          · rw [if_neg (by simpa using hquote), elim_map_cons]
            exact ⟨fun hc => absurd hc hquote, ih (by simp)⟩

/-- Every quotation mark in a prompt comes after a backslash. -/
theorem guarded_extract {text prompt : Text} (h : extract text = some prompt) :
    Guarded ' ' prompt := by
  unfold extract at h
  obtain ⟨⟨before, opened⟩, -, rfl⟩ := Option.map_eq_some_iff.1 h
  have hguarded := guarded_splitAtMark (show false = true → ' ' = '\\' by simp) (t := opened)
  cases hsplit : splitAtMark ['"'] false opened with
  | none => simpa [hsplit] using hguarded
  | some sides => simpa [hsplit] using hguarded

end Prompt

/-- A colon before an escaped prompt makes it quiet. -/
theorem Quiet.colon_escapeMarkup {t : Text} (h : Guarded ' ' t) :
    Quiet (": " ++ Text.escapeMarkup t) := by
  have hbracket : '<' ∉ ":".toList ++ (" ".toList ++ Text.escapeMarkup t) := by
    simp [Text.not_mem_escapeMarkup t]
  exact Quiet.of_guarded hbracket (by decide) ⟨by decide, h.escapeMarkup⟩

end KconfigReference
