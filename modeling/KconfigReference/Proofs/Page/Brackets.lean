import KconfigReference.Page.Item
import KconfigReference.Proofs.Text.Brackets

/-!
The brackets of what is written. Prompts, titles, defaults, conditions and paths add none, because
they are escaped; the name of an entry stands as it is, twice in its link and twice in its heading.
-/

namespace KconfigReference

open Text (brackets Sheds)

/-- The same entry after every character of markup in its values is replaced. -/
structure Entry.Masked (e e' : Entry) : Prop where
  name : Text.Masked e.name e'.name
  type : e'.type = e.type
  description : Option.Rel Text.Masked e.description e'.description
  default : Option.Rel Text.Masked e.default e'.default
  hasHelp : e'.hasHelp = e.hasHelp
  conditions : List.Forall₂ Text.Masked e.conditions e'.conditions

theorem Entry.Masked.isHidden_eq {e e' : Entry} (h : e.Masked e') : e'.isHidden = e.isHidden := by
  have hprompt : ∀ prompt prompt', Option.Rel Text.Masked prompt prompt' →
      (prompt'.getD [] = [] ↔ prompt.getD [] = []) := by
    rintro _ _ (hmasked | _)
    · exact hmasked.eq_nil_iff
    · exact Iff.rfl
  simp only [isHidden, hprompt _ _ h.description]

namespace Markup

variable {e e' : Entry}

/-- Escaped texts have the same brackets, which is none. -/
theorem sheds_escapeMarkup (t t' : Text) : Sheds 0 (Text.escapeMarkup t) (Text.escapeMarkup t') :=
  .of_eq (by rw [Text.brackets_escapeMarkup, Text.brackets_escapeMarkup])

theorem brackets_caption (kind : Text) (title : Option Text) :
    brackets (caption kind title) = brackets kind := by
  have hcolon : brackets ": " = [] := by rfl
  unfold caption
  split
  next => rfl
  next => rfl
  next =>
    rw [Text.brackets_append, Text.brackets_append, Text.brackets_escapeMarkup, hcolon,
      List.append_nil, List.append_nil]

theorem sheds_caption (kind : Text) (title title' : Option Text) :
    Sheds 0 (caption kind title) (caption kind title') :=
  .of_eq (by rw [brackets_caption, brackets_caption])

theorem brackets_description (entry : Entry) : brackets (description entry) = [] := by
  have hcolon : brackets ": " = [] := by rfl
  unfold description
  split
  next => rfl
  next => rfl
  next => rw [Text.brackets_append, Text.brackets_escapeMarkup, hcolon, List.append_nil]

theorem sheds_description (e e' : Entry) : Sheds 0 (description e) (description e') :=
  .of_eq (by rw [brackets_description, brackets_description])

theorem sheds_label {caption caption' : Text} {n : Nat} (h : Sheds n caption caption')
    (number : Text) : Sheds n (label number caption) (label number caption') := by
  have hsteps := ((Sheds.refl number).append (.refl " ")).append h
  rwa [Nat.zero_add] at hsteps

theorem sheds_entryLink (h : e.Masked e') (number : Text) :
    Sheds (2 * (brackets e.name).length) (entryLink e number) (entryLink e' number) := by
  have hfirst := ((Sheds.refl "<li><a href=\"#").append h.name.sheds).append (.refl "\">")
  have hlast := (((hfirst.append (.refl number)).append (.refl " <code>CONFIG_")).append
    h.name.sheds).append (.refl "</code>")
  have hsteps := (hlast.append (sheds_description e e')).append (.refl "</a></li>\n")
  rw [Nat.zero_add] at hsteps
  rw [Nat.two_mul]
  exact hsteps

theorem sheds_entryHeading (h : e.Masked e') (number : Option Text) :
    Sheds (2 * (brackets e.name).length) (entryHeading e number) (entryHeading e' number) := by
  have hfirst := ((Sheds.refl "<h3><a name=\"").append h.name.sheds).append (.refl "\">")
  have hlast := (((hfirst.append (.refl (number.elim [] (· ++ [' '])))).append
    (.refl "<code>CONFIG_")).append h.name.sheds).append (.refl "</code>")
  have hsteps := (hlast.append (sheds_description e e')).append (.refl "</a></h3>\n")
  rw [Nat.zero_add] at hsteps
  rw [Nat.two_mul]
  exact hsteps

theorem brackets_conditionList (conditions : List Text) :
    brackets (conditionList conditions) = [] := by
  have hcomma : brackets ", " = [] := by rfl
  rw [conditionList, Text.brackets_join hcomma, List.map_map]
  simp [Function.comp_def]

/-- The details of an entry have a line for each value that it has. -/
theorem sheds_detailLines (h : e.Masked e') (path path' : Text) :
    List.Forall₂ (Sheds 0) (detailLines e path) (detailLines e' path') := by
  have hdefault : ∀ value value', Option.Rel Text.Masked value value' →
      List.Forall₂ (Sheds 0)
        (value.elim [] fun value =>
          ["  <li><i>Default</i>:      " ++ Text.escapeMarkup value ++ "</li>"])
        (value'.elim [] fun value =>
          ["  <li><i>Default</i>:      " ++ Text.escapeMarkup value ++ "</li>"]) := by
    rintro _ _ (_ | _)
    · exact .cons ((sheds_escapeMarkup _ _).around _ _) .nil
    · exact .nil
  have hconditions : ∀ conditions conditions', List.Forall₂ Text.Masked conditions conditions' →
      List.Forall₂ (Sheds 0)
        (if conditions = [] then []
          else ["  <li><i>Dependencies</i>: " ++ conditionList conditions ++ "</li>"])
        (if conditions' = [] then []
          else ["  <li><i>Dependencies</i>: " ++ conditionList conditions' ++ "</li>"]) := by
    rintro _ _ (_ | _)
    · exact .nil
    · have hlist (a b : List Text) : Sheds 0 (conditionList a) (conditionList b) :=
        .of_eq (by rw [brackets_conditionList, brackets_conditionList])
      exact .cons ((hlist _ _).around _ _) .nil
  have hpath := (sheds_escapeMarkup path path').around "  <li><i>Kconfig file</i>: <code>"
    "</code></li>"
  have hsame (lines : List Text) : List.Forall₂ (Sheds 0) lines lines :=
    List.forall₂_same.2 fun line _ => .refl line
  unfold detailLines
  rw [h.type, h.hasHelp, h.isHidden_eq]
  exact List.rel_append (List.rel_append (List.rel_append (List.rel_append (hsame _)
    (hdefault _ _ h.default)) (hconditions _ _ h.conditions)) (.cons hpath .nil)) (hsame _)

theorem sheds_entryDetails (h : e.Masked e') (path path' : Text) :
    Sheds 0 (entryDetails e path) (entryDetails e' path') := by
  have hfeed : brackets ['\n'] = [] := by rfl
  exact (((Sheds.refl openList).append (.join hfeed (sheds_detailLines h path path'))).append
    (.refl "\n")).append (.refl closeList)

end Markup

/-- The name that an item of the table of contents gives. -/
def TocItem.name? : TocItem → Option Text
  | .config entry _ => some entry.name
  | _ => none

/-- The name that stands over an entry in the body. -/
def BodyItem.name? : BodyItem → Option Text
  | .config entry _ => some entry.name
  | _ => none

/-- An item that has lost the brackets of its name and no others. -/
def TocItem.Sheds (item item' : TocItem) : Prop :=
  Text.Sheds (2 * Text.strays item.name?.toList) item.text item'.text

def BodyItem.Sheds (item item' : BodyItem) : Prop :=
  Text.Sheds (2 * Text.strays item.name?.toList) item.text item'.text

section Items

variable {e e' : Entry} {caption caption' : Text} {n : Nat}

theorem TocItem.sheds_block (h : Text.Sheds n caption caption') (anchor : Text)
    (number : ParagraphNumber) :
    Text.Sheds n (block anchor number caption).text (block anchor number caption').text :=
  (Markup.sheds_label h number.text).around _ _

theorem BodyItem.sheds_menu (h : Text.Sheds n caption caption') (anchor : Text)
    (number : ParagraphNumber) :
    Text.Sheds n (menu anchor number caption).text (menu anchor number caption').text :=
  (Markup.sheds_label h number.text).around _ _

theorem BodyItem.sheds_choice (h : Text.Sheds n caption caption') (anchor : Text)
    (number : ParagraphNumber) :
    Text.Sheds n (choice anchor number caption).text (choice anchor number caption').text :=
  (Markup.sheds_label h number.text).around _ _

theorem TocItem.sheds_config (h : e.Masked e') (number : ParagraphNumber) :
    (config e number).Sheds (config e' number) := by
  show Text.Sheds (2 * Text.strays [e.name]) _ _
  rw [Text.strays_singleton]
  exact Markup.sheds_entryLink h number.text

theorem BodyItem.sheds_config (h : e.Masked e') (number : Option ParagraphNumber) :
    (config e number).Sheds (config e' number) := by
  show Text.Sheds (2 * Text.strays [e.name]) _ _
  rw [Text.strays_singleton]
  exact Markup.sheds_entryHeading h (number.map ParagraphNumber.text)

theorem BodyItem.sheds_details (h : e.Masked e') (path path' : Text) :
    (details e path).Sheds (details e' path') :=
  Markup.sheds_entryDetails h path path'

end Items

end KconfigReference
