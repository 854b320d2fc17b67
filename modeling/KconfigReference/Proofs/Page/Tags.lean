import KconfigReference.Page.Item
import KconfigReference.Proofs.Page.Quiet

/-!
The tags of the two streams. Titles, descriptions, defaults, conditions and paths are escaped, so
that an item has the tags of the lists that it opens and closes and no others, unless an anchor or
the name of an entry brings some of its own.
-/

namespace KconfigReference

/-- A text without tags of lists, whatever comes after it. -/
def Tagless (t : Text) : Prop := ∀ rest, Check.listTags (t ++ rest) = Check.listTags rest

namespace Tagless

theorem nil : Tagless [] := fun _ => rfl

theorem append {a b : Text} (ha : Tagless a) (hb : Tagless b) : Tagless (a ++ b) := fun rest => by
  rw [List.append_assoc, ha, hb]

theorem of_not_mem {t : Text} (h : '<' ∉ t) : Tagless t := Check.listTags_append_of_not_mem h

theorem of_isTagless {t : Text} (h : isTagless t = true) : Tagless t :=
  listTags_append_of_isTagless h

theorem escapeMarkup (t : Text) : Tagless (Text.escapeMarkup t) :=
  of_not_mem (Text.not_mem_escapeMarkup t)

theorem ofNat (n : Nat) : Tagless (Text.ofNat n) := (Quiet.ofNat n).tags

theorem join {separator : Text} {parts : List Text} (hseparator : Tagless separator)
    (hparts : ∀ part ∈ parts, Tagless part) : Tagless (Text.join separator parts) :=
  Text.join_induction nil (fun _ _ => append) hseparator hparts

theorem number (number : ParagraphNumber) : Tagless number.text := by
  apply join (of_isTagless (by decide))
  intro part hpart
  obtain ⟨n, -, rfl⟩ := List.mem_map.1 hpart
  exact ofNat n

theorem label (number : ParagraphNumber) {caption : Text} (h : Tagless caption) :
    Tagless (Markup.label number.text caption) :=
  ((Tagless.number number).append (of_isTagless (by decide))).append h

/-- A title brings no tags, whatever it is. -/
theorem caption {kind : Text} (hkind : Tagless kind) (title : Option Text) :
    Tagless (Markup.caption kind title) := by
  unfold Markup.caption
  split
  · exact hkind
  · exact hkind
  · exact (hkind.append (of_isTagless (by decide))).append (escapeMarkup _)

theorem description (entry : Entry) : Tagless (Markup.description entry) := by
  unfold Markup.description
  split
  · exact nil
  · exact nil
  · exact (of_isTagless (by decide)).append (escapeMarkup _)

theorem conditionList (conditions : List Text) : Tagless (Markup.conditionList conditions) := by
  apply join (of_isTagless (by decide))
  intro part hpart
  obtain ⟨condition, -, rfl⟩ := List.mem_map.1 hpart
  exact escapeMarkup condition

end Tagless

namespace Markup

/-- What holds of each kind of line holds of all details of an entry. -/
theorem forall_mem_detailLines {p : Text → Prop} {entry : Entry} {path : Text}
    (htype : ∀ type ∈ entry.type, p ("  <li><i>Type</i>:         " ++ type.label ++ "</li>"))
    (hdefault : ∀ value ∈ entry.default,
      p ("  <li><i>Default</i>:      " ++ Text.escapeMarkup value ++ "</li>"))
    (hconditions : p ("  <li><i>Dependencies</i>: " ++ conditionList entry.conditions ++ "</li>"))
    (hpath : p ("  <li><i>Kconfig file</i>: <code>" ++ Text.escapeMarkup path ++ "</code></li>"))
    (hhidden : p hiddenNote) : ∀ line ∈ detailLines entry path, p line := by
  intro line hline
  unfold detailLines at hline
  simp only [List.mem_append, List.mem_singleton] at hline
  rcases hline with (((hline | hline) | hline) | rfl) | hline
  · cases htyped : entry.type with
    | none => simp [htyped] at hline
    | some type =>
        simp only [htyped, Option.elim_some, List.mem_singleton] at hline
        exact hline ▸ htype type htyped
  · cases hvalue : entry.default with
    | none => simp [hvalue] at hline
    | some value =>
        simp only [hvalue, Option.elim_some, List.mem_singleton] at hline
        exact hline ▸ hdefault value hvalue
  · split at hline
    · simp at hline
    · exact List.mem_singleton.1 hline ▸ hconditions
  · exact hpath
  · split at hline
    · exact List.mem_singleton.1 hline ▸ hhidden
    · simp at hline

/-- The details of an entry have no tags but those of their list. -/
theorem tagless_detailLines (entry : Entry) (path : Text) :
    ∀ line ∈ detailLines entry path, Tagless line := by
  apply forall_mem_detailLines
  · intro type _
    have hlabel : Tagless type.label := by cases type <;> exact .of_isTagless (by decide)
    exact ((Tagless.of_isTagless (by decide)).append hlabel).append (.of_isTagless (by decide))
  · intro value _
    exact ((Tagless.of_isTagless (by decide)).append (.escapeMarkup value)).append
      (.of_isTagless (by decide))
  · exact ((Tagless.of_isTagless (by decide)).append (.conditionList _)).append
      (.of_isTagless (by decide))
  · exact ((Tagless.of_isTagless (by decide)).append (.escapeMarkup path)).append
      (.of_isTagless (by decide))
  · exact .of_isTagless (by decide)

theorem tagless_link {anchor label : Text} (hanchor : Tagless anchor) (hlabel : Tagless label) :
    Tagless (link anchor label) :=
  ((((Tagless.of_isTagless (by decide)).append hanchor).append (.of_isTagless (by decide))).append
    hlabel).append (.of_isTagless (by decide))

theorem tagless_entryLink {entry : Entry} (hname : Tagless entry.name) (number : ParagraphNumber) :
    Tagless (entryLink entry number.text) := by
  unfold entryLink
  exact ((((((((Tagless.of_isTagless (by decide)).append hname).append
    (.of_isTagless (by decide))).append (.number number)).append (.of_isTagless (by decide))).append
    hname).append (.of_isTagless (by decide))).append (.description entry)).append
    (.of_isTagless (by decide))

theorem tagless_entryHeading {entry : Entry} (hname : Tagless entry.name)
    (number : Option ParagraphNumber) :
    Tagless (entryHeading entry (number.map ParagraphNumber.text)) := by
  have hnumber : Tagless ((number.map ParagraphNumber.text).elim [] (· ++ [' '])) := by
    cases number with
    | none => exact .nil
    | some number => exact (Tagless.number number).append (.of_isTagless (by decide))
  unfold entryHeading
  exact ((((((((Tagless.of_isTagless (by decide)).append hname).append
    (.of_isTagless (by decide))).append hnumber).append (.of_isTagless (by decide))).append
    hname).append (.of_isTagless (by decide))).append (.description entry)).append
    (.of_isTagless (by decide))

theorem tagless_menuHeading {anchor label : Text} (hanchor : Tagless anchor)
    (hlabel : Tagless label) : Tagless (menuHeading anchor label) :=
  ((((Tagless.of_isTagless (by decide)).append hanchor).append (.of_isTagless (by decide))).append
    hlabel).append (.of_isTagless (by decide))

theorem tagless_choiceHeading {anchor label : Text} (hanchor : Tagless anchor)
    (hlabel : Tagless label) : Tagless (choiceHeading anchor label) :=
  ((((Tagless.of_isTagless (by decide)).append hanchor).append (.of_isTagless (by decide))).append
    hlabel).append (.of_isTagless (by decide))

theorem listTags_openList (rest : Text) :
    Check.listTags (openList ++ rest) = .opening :: Check.listTags rest := rfl

theorem listTags_closeList (rest : Text) :
    Check.listTags (closeList ++ rest) = .closing :: Check.listTags rest := rfl

end Markup

namespace TocItem

/-- The tags of the lists that an item opens and closes. -/
def tags : TocItem → List Check.ListTag
  | .block _ _ _ => []
  | .config _ _ => []
  | .openList => [.opening]
  | .closeList => [.closing]

/-- No anchor, caption or name of an item brings tags of its own. -/
def Bare : TocItem → Prop
  | .block anchor _ caption => Tagless anchor ∧ Tagless caption
  | .config entry _ => Tagless entry.name
  | .openList => True
  | .closeList => True

theorem Bare.listTags_text {item : TocItem} (h : item.Bare) (rest : Text) :
    Check.listTags (item.text ++ rest) = item.tags ++ Check.listTags rest := by
  cases item with
  | block anchor number caption => exact Markup.tagless_link h.1 (.label number h.2) rest
  | config entry number => exact Markup.tagless_entryLink h number rest
  | openList => rfl
  | closeList => rfl

/-- The tags of bare items are those of the lists that they open and close, in their order. -/
theorem listTags_items {items : List TocItem} (h : ∀ item ∈ items, item.Bare) (rest : Text) :
    Check.listTags (items.flatMap text ++ rest) = items.flatMap tags ++ Check.listTags rest :=
  Check.listTags_flatMap (fun item hitem => (h item hitem).listTags_text) rest

end TocItem

namespace BodyItem

def tags : BodyItem → List Check.ListTag
  | .menu _ _ _ => []
  | .choice _ _ _ => []
  | .config _ _ => []
  | .details _ _ => [.opening, .closing]
  | .openList => [.opening]
  | .closeList => [.closing]

def Bare : BodyItem → Prop
  | .menu anchor _ caption => Tagless anchor ∧ Tagless caption
  | .choice anchor _ caption => Tagless anchor ∧ Tagless caption
  | .config entry _ => Tagless entry.name
  | .details _ _ => True
  | .openList => True
  | .closeList => True

theorem Bare.listTags_text {item : BodyItem} (h : item.Bare) (rest : Text) :
    Check.listTags (item.text ++ rest) = item.tags ++ Check.listTags rest := by
  cases item with
  | menu anchor number caption => exact Markup.tagless_menuHeading h.1 (.label number h.2) rest
  | choice anchor number caption => exact Markup.tagless_choiceHeading h.1 (.label number h.2) rest
  | config entry number => exact Markup.tagless_entryHeading h number rest
  | details entry path =>
      have hlines : Tagless (Text.join ['\n'] (Markup.detailLines entry path) ++ "\n") :=
        (Tagless.join (.of_isTagless (by decide)) (Markup.tagless_detailLines entry path)).append
          (.of_isTagless (by decide))
      rw [text_details, Markup.entryDetails, List.append_assoc, List.append_assoc Markup.openList,
        List.append_assoc, Markup.listTags_openList, hlines, Markup.listTags_closeList]
      rfl
  | openList => rfl
  | closeList => rfl

theorem listTags_items {items : List BodyItem} (h : ∀ item ∈ items, item.Bare) (rest : Text) :
    Check.listTags (items.flatMap text ++ rest) = items.flatMap tags ++ Check.listTags rest :=
  Check.listTags_flatMap (fun item hitem => (h item hitem).listTags_text) rest

end BodyItem

end KconfigReference
