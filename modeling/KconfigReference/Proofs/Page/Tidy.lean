import KconfigReference.Proofs.Page.Tags
import KconfigReference.Proofs.Streams

/-!
Tidy items: items whose names stand in attributes and whose other texts are quiet once they are
written. An item has the tags of the lists that it opens and closes, and the links that it is made
for, and no others; and it ends its line.
-/

namespace KconfigReference

/-- A text that stands in an attribute: a word of plain characters. -/
structure Text.IsName (t : Text) : Prop where
  ne_nil : t ≠ []
  plain : ∀ c ∈ t, Text.isPlain c = true

namespace Text.IsName

variable {t : Text}

theorem quote_not_mem (h : t.IsName) : '"' ∉ t := fun hmem =>
  absurd (h.plain _ hmem) (by decide)

theorem bracket_not_mem (h : t.IsName) : '<' ∉ t := fun hmem =>
  absurd (h.plain _ hmem) (by decide)

theorem blank_not_mem (h : t.IsName) {c : Char} (hc : Text.isBlank c = true) : c ∉ t := fun hmem =>
  absurd (h.plain c hmem) (by simp [Text.isPlain, hc])

theorem quiet (h : t.IsName) : Quiet t := .of_not_mem h.bracket_not_mem h.quote_not_mem

end Text.IsName

/-- A word and a number make a name. -/
theorem Text.isName_append_ofNat {stem : Text} (hne : stem ≠ [])
    (hstem : stem.all Text.isWordChar = true) (number : Nat) :
    (stem ++ Text.ofNat number).IsName where
  ne_nil := by simp [hne]
  plain c hc := by
    rcases List.mem_append.1 hc with hc | hc
    · exact Text.isPlain_of_isWordChar (List.all_eq_true.1 hstem c hc)
    · exact Text.isPlain_of_mem_ofNat hc

theorem Anchor.isName_menu (number : Nat) : (Anchor.menu number).IsName :=
  Text.isName_append_ofNat (by decide) (by decide) number

theorem Anchor.isName_choice (number : Nat) : (Anchor.choice number).IsName :=
  Text.isName_append_ofNat (by decide) (by decide) number

/-- What an entry is made of does not disturb the page that it is written to. -/
structure Entry.Tidy (entry : Entry) : Prop where
  name : entry.name.IsName
  description : ∀ text, entry.description = some text → Check.Guarded ' ' text
  default : ∀ text, entry.default = some text → '"' ∉ text
  conditions : ∀ text ∈ entry.conditions, '"' ∉ text

namespace Quiet

/-- Digits and dots. -/
theorem number (number : ParagraphNumber) : Quiet number.text := by
  refine join (of_isQuiet (by decide)) fun part hpart => ?_
  obtain ⟨n, -, rfl⟩ := List.mem_map.1 hpart
  exact ofNat n

/-- The kind of a block, with its title. -/
theorem caption {kind : Text} (hkind : Quiet kind) (line : Line) :
    Quiet (Markup.caption kind (Prompt.extract line.rest)) := by
  cases htitle : Prompt.extract line.rest with
  | none => exact hkind
  | some title =>
      cases title with
      | nil => exact hkind
      | cons c rest =>
          have hcolon := colon_escapeMarkup (Prompt.guarded_extract htitle)
          rw [Markup.caption, List.append_assoc]
          · exact hkind.append hcolon
          · simp

theorem label (number : ParagraphNumber) {caption : Text} (h : Quiet caption) :
    Quiet (Markup.label number.text caption) :=
  ((Quiet.number number).append (of_isQuiet (by decide))).append h

theorem description {entry : Entry} (h : entry.Tidy) : Quiet (Markup.description entry) := by
  unfold Markup.description
  cases hdescription : entry.description with
  | none => exact nil
  | some text =>
      cases text with
      | nil => exact nil
      | cons c rest => exact colon_escapeMarkup (h.description _ hdescription)

theorem title {entry : Entry} (h : entry.Tidy) : Quiet entry.title :=
  (((of_isQuiet (by decide)).append h.name.quiet).append (of_isQuiet (by decide))).append
    (description h)

theorem escapeMarkup {t : Text} (h : '"' ∉ t) : Quiet (Text.escapeMarkup t) :=
  of_not_mem (Text.not_mem_escapeMarkup t) (Text.quote_not_mem_escapeMarkup h)

/-- The details of an entry, between the tags of their list. -/
theorem detailLines {entry : Entry} (h : entry.Tidy) {path : Text} (hpath : '"' ∉ path) :
    ∀ line ∈ Markup.detailLines entry path, Quiet line := by
  apply Markup.forall_mem_detailLines
  · intro type _
    have hlabel : Quiet type.label := by cases type <;> exact of_isQuiet (by decide)
    exact ((of_isQuiet (by decide)).append hlabel).append (of_isQuiet (by decide))
  · intro value hvalue
    exact ((of_isQuiet (by decide)).append (escapeMarkup (h.default _ hvalue))).append
      (of_isQuiet (by decide))
  · have hconditions : Quiet (Markup.conditionList entry.conditions) := by
      refine join (of_isQuiet (by decide)) fun part hpart => ?_
      obtain ⟨condition, hcondition, rfl⟩ := List.mem_map.1 hpart
      exact escapeMarkup (h.conditions condition hcondition)
    exact ((of_isQuiet (by decide)).append hconditions).append (of_isQuiet (by decide))
  · exact ((of_isQuiet (by decide)).append (escapeMarkup hpath)).append (of_isQuiet (by decide))
  · exact of_isQuiet (by decide)

end Quiet

namespace Markup

theorem link_eq (anchor label : Text) :
    link anchor label = "<li><a href=\"#" ++ (anchor ++ ("\">" ++ label ++ "</a></li>\n")) := by
  unfold link
  simp only [List.append_assoc]

theorem quiet_linkEnd {label : Text} (h : Quiet label) : Quiet ("\">" ++ label ++ "</a></li>\n") :=
  ((Quiet.of_isQuiet (by decide)).append h).append (.of_isQuiet (by decide))

/-- The first text of a link opens the place of its target. -/
theorem links_linkStart (before rest : Text) :
    Check.links before ("<li><a href=\"#" ++ rest) =
      Check.quoted rest :: Check.links ("<li><a href=\"#".toList.reverse ++ before) rest := by
  have hstem := Check.links_append_of_not_mem (show '"' ∉ "<li><a href=".toList by decide) before
    ('"' :: '#' :: rest)
  have hreverse : "<li><a href=".toList.reverse ++ before =
      Check.linkStem ++ ("<li><a ".toList.reverse ++ before) := by
    rw [← List.append_assoc]
    congr 1
  rw [hreverse, Check.links_stem] at hstem
  exact hstem

/-- A link has its target as its link. -/
theorem links_link {anchor label : Text} (hanchor : '"' ∉ anchor) (hlabel : Quiet label)
    (before rest : Text) :
    Check.links before (link anchor label ++ rest) =
      anchor :: Check.links ((link anchor label).reverse ++ before) rest := by
  have hquoted : Check.quoted (anchor ++ ("\">" ++ label ++ "</a></li>\n" ++ rest)) = anchor :=
    Check.quoted_append hanchor _
  rw [link_eq, List.append_assoc, List.append_assoc, links_linkStart, hquoted,
    Check.links_append_of_not_mem hanchor, (quiet_linkEnd hlabel).links]
  simp only [List.reverse_append, List.append_assoc]

end Markup

namespace TocItem

def Tidy : TocItem → Prop
  | .block anchor _ caption => anchor.IsName ∧ Quiet caption
  | .config entry _ => entry.Tidy
  | .openList => True
  | .closeList => True

theorem Tidy.of_link {item : TocItem} (h : item.Tidy) {link : Link} (hlink : item.link? = some link) :
    link.target.IsName ∧ Quiet link.title := by
  cases item with
  | block anchor number caption =>
      obtain rfl : Link.mk anchor number caption = link := by simpa [link?] using hlink
      exact h
  | config entry number =>
      obtain rfl : Link.mk entry.name number entry.title = link := by simpa [link?] using hlink
      exact ⟨h.name, Quiet.title h⟩
  | openList => simp [link?] at hlink
  | closeList => simp [link?] at hlink

theorem eq_of_no_link {item : TocItem} (hlink : item.link? = none) :
    item = .openList ∨ item = .closeList := by
  cases item <;> simp_all [link?]

theorem Tidy.bare {item : TocItem} (h : item.Tidy) : item.Bare := by
  cases item with
  | block anchor number caption => exact ⟨h.1.quiet.tags, h.2.tags⟩
  | config entry number => exact (Entry.Tidy.name h).quiet.tags
  | openList => trivial
  | closeList => trivial

theorem Tidy.links_text {item : TocItem} (h : item.Tidy) (before rest : Text) :
    Check.links before (item.text ++ rest) =
      (item.link?.map Link.target).toList ++ Check.links (item.text.reverse ++ before) rest := by
  cases hlink : item.link? with
  | some link =>
      obtain ⟨htarget, htitle⟩ := h.of_link hlink
      rw [text_of_link hlink, Link.line, Markup.links_link htarget.quote_not_mem (Quiet.label _ htitle)]
      rfl
  | none =>
      rcases eq_of_no_link hlink with rfl | rfl
      · exact Check.links_append_of_not_mem (by decide) before rest
      · exact Check.links_append_of_not_mem (by decide) before rest

theorem endsLine_text (item : TocItem) : Text.EndsLine item.text := by
  cases item with
  | block anchor number caption => exact .of_last (by decide) _
  | config entry number => exact .of_last (by decide) _
  | openList => exact .inr (by decide)
  | closeList => exact .inr (by decide)

end TocItem

namespace BodyItem

def Tidy : BodyItem → Prop
  | .menu anchor _ caption => anchor.IsName ∧ Quiet caption
  | .choice anchor _ caption => anchor.IsName ∧ Quiet caption
  | .config entry _ => entry.Tidy
  | .details entry path => entry.Tidy ∧ '"' ∉ path
  | .openList => True
  | .closeList => True

theorem Tidy.isName_of_heading {item : BodyItem} (h : item.Tidy) {heading : Heading}
    (hheading : item.heading? = some heading) : heading.link.target.IsName := by
  cases item with
  | menu anchor number caption =>
      simp only [heading?, Option.some.injEq] at hheading
      rw [← hheading]
      exact h.1
  | choice anchor number caption =>
      simp only [heading?, Option.some.injEq] at hheading
      rw [← hheading]
      exact h.1
  | config entry number =>
      cases number with
      | none => simp [heading?] at hheading
      | some number =>
          simp only [heading?, Option.some.injEq] at hheading
          rw [← hheading]
          exact Entry.Tidy.name h
  | details entry path => simp [heading?] at hheading
  | openList => simp [heading?] at hheading
  | closeList => simp [heading?] at hheading

/-- A heading is quiet: its anchor has a name and no link. -/
theorem Tidy.quiet_heading {item : BodyItem} (h : item.Tidy) (htags : item.tags = []) :
    Quiet item.text := by
  cases item with
  | menu anchor number caption =>
      rw [text_menu]
      unfold Markup.menuHeading
      exact ((((Quiet.of_isQuiet (by decide)).append h.1.quiet).append
        (.of_isQuiet (by decide))).append (Quiet.label _ h.2)).append (.of_isQuiet (by decide))
  | choice anchor number caption =>
      rw [text_choice]
      unfold Markup.choiceHeading
      exact ((((Quiet.of_isQuiet (by decide)).append h.1.quiet).append
        (.of_isQuiet (by decide))).append (Quiet.label _ h.2)).append (.of_isQuiet (by decide))
  | config entry number =>
      rw [text_config]
      unfold Markup.entryHeading
      have hnumber : Quiet ((number.map ParagraphNumber.text).elim [] (· ++ [' '])) := by
        cases number with
        | none => exact .nil
        | some number => exact (Quiet.number number).append (.of_isQuiet (by decide))
      have hname := Entry.Tidy.name h
      exact ((((((((Quiet.of_isQuiet (by decide)).append hname.quiet).append
        (.of_isQuiet (by decide))).append hnumber).append (.of_isQuiet (by decide))).append
        hname.quiet).append (.of_isQuiet (by decide))).append (Quiet.description h)).append
        (.of_isQuiet (by decide))
  | details entry path => simp [tags] at htags
  | openList => simp [tags] at htags
  | closeList => simp [tags] at htags

/-- The details of an entry are quiet between the tags of their list. -/
theorem Tidy.quiet_details {entry : Entry} {path : Text} (h : (details entry path).Tidy) :
    Quiet (Text.join ['\n'] (Markup.detailLines entry path) ++ "\n") :=
  (Quiet.join (.of_isQuiet (by decide)) (Quiet.detailLines h.1 h.2)).append
    (.of_isQuiet (by decide))

theorem Tidy.bare {item : BodyItem} (h : item.Tidy) : item.Bare := by
  cases item with
  | menu anchor number caption => exact ⟨h.1.quiet.tags, h.2.tags⟩
  | choice anchor number caption => exact ⟨h.1.quiet.tags, h.2.tags⟩
  | config entry number => exact (Entry.Tidy.name h).quiet.tags
  | details entry path => trivial
  | openList => trivial
  | closeList => trivial

theorem Tidy.links_text {item : BodyItem} (h : item.Tidy) (before rest : Text) :
    Check.links before (item.text ++ rest) = Check.links (item.text.reverse ++ before) rest := by
  cases item with
  | menu anchor number caption => exact (h.quiet_heading rfl).links before rest
  | choice anchor number caption => exact (h.quiet_heading rfl).links before rest
  | config entry number => exact (h.quiet_heading rfl).links before rest
  | details entry path =>
      have hopening := Check.links_append_of_not_mem (show '"' ∉ Markup.openList by decide)
      have hclosing := Check.links_append_of_not_mem (show '"' ∉ Markup.closeList by decide)
      rw [text_details, Markup.entryDetails, List.append_assoc, List.append_assoc Markup.openList,
        List.append_assoc, hopening, h.quiet_details.links, hclosing]
      simp only [List.reverse_append, List.append_assoc]
  | openList => exact Check.links_append_of_not_mem (by decide) before rest
  | closeList => exact Check.links_append_of_not_mem (by decide) before rest

theorem endsLine_text (item : BodyItem) : Text.EndsLine item.text := by
  cases item with
  | menu anchor number caption => exact .of_last (by decide) _
  | choice anchor number caption => exact .of_last (by decide) _
  | config entry number => exact .of_last (by decide) _
  | details entry path => exact .of_last (by decide) _
  | openList => exact .inr (by decide)
  | closeList => exact .inr (by decide)

end BodyItem

end KconfigReference
