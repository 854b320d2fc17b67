import KconfigReference.Page.Markup

/-!
The two streams of the reference, as values: what is written to the table of contents and what is
written to the body. Each item has one text.
-/

namespace KconfigReference

/-- The counters of a paragraph number, from the outermost to the innermost. -/
abbrev ParagraphNumber := List Nat

def ParagraphNumber.text (number : ParagraphNumber) : Text :=
  Text.join ['.'] (number.map Text.ofNat)

/-- An item of the table of contents. -/
inductive TocItem where
  /-- The link to a menu or choice. -/
  | block (anchor : Text) (number : ParagraphNumber) (caption : Text)
  /-- The link to an entry. -/
  | config (entry : Entry) (number : ParagraphNumber)
  | openList
  | closeList
deriving Repr, DecidableEq

def TocItem.text : TocItem → Text
  | .block anchor number caption => Markup.link anchor (Markup.label number.text caption)
  | .config entry number => Markup.entryLink entry number.text
  | .openList => Markup.openList
  | .closeList => Markup.closeList

namespace TocItem

@[simp] theorem text_block (anchor : Text) (number : ParagraphNumber) (caption : Text) :
    (block anchor number caption).text =
      Markup.link anchor (Markup.label number.text caption) := rfl

@[simp] theorem text_config (entry : Entry) (number : ParagraphNumber) :
    (config entry number).text = Markup.entryLink entry number.text := rfl

@[simp] theorem text_openList : openList.text = Markup.openList := rfl

@[simp] theorem text_closeList : closeList.text = Markup.closeList := rfl

end TocItem

/-- An item of the body. -/
inductive BodyItem where
  | menu (anchor : Text) (number : ParagraphNumber) (caption : Text)
  | choice (anchor : Text) (number : ParagraphNumber) (caption : Text)
  | config (entry : Entry) (number : Option ParagraphNumber)
  | details (entry : Entry) (path : Text)
  | openList
  | closeList
deriving Repr, DecidableEq

def BodyItem.text : BodyItem → Text
  | .menu anchor number caption => Markup.menuHeading anchor (Markup.label number.text caption)
  | .choice anchor number caption => Markup.choiceHeading anchor (Markup.label number.text caption)
  | .config entry number => Markup.entryHeading entry (number.map ParagraphNumber.text)
  | .details entry path => Markup.entryDetails entry path
  | .openList => Markup.openList
  | .closeList => Markup.closeList

namespace BodyItem

@[simp] theorem text_menu (anchor : Text) (number : ParagraphNumber) (caption : Text) :
    (menu anchor number caption).text =
      Markup.menuHeading anchor (Markup.label number.text caption) := rfl

@[simp] theorem text_choice (anchor : Text) (number : ParagraphNumber) (caption : Text) :
    (choice anchor number caption).text =
      Markup.choiceHeading anchor (Markup.label number.text caption) := rfl

@[simp] theorem text_config (entry : Entry) (number : Option ParagraphNumber) :
    (config entry number).text =
      Markup.entryHeading entry (number.map ParagraphNumber.text) := rfl

@[simp] theorem text_details (entry : Entry) (path : Text) :
    (details entry path).text = Markup.entryDetails entry path := rfl

@[simp] theorem text_openList : openList.text = Markup.openList := rfl

@[simp] theorem text_closeList : closeList.text = Markup.closeList := rfl

end BodyItem

end KconfigReference
