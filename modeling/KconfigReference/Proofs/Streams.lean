import KconfigReference.Proofs.Page.Staging
import KconfigReference.Proofs.Walk.Run
import Mathlib.Data.List.Basic

/-!
The two streams of a reference. A line of the table of contents that links somewhere and the heading
that it links to are written in one step, so that they agree in target, number and title; the
entries inside choices have a heading without a number and no link. Main statement: links and
numbered headings are the same sequence in every run, also in one that fails, and so they stand in
the document.
-/

namespace KconfigReference

/-- Where the items that show something have its text, their texts are those of what they show. -/
theorem map_filter_isSome {α β γ : Type} {shown? : α → Option β} {text : α → γ} {written : β → γ}
    (h : ∀ item shown, shown? item = some shown → text item = written shown) (items : List α) :
    (items.filter fun item => (shown? item).isSome).map text =
      (items.filterMap shown?).map written := by
  induction items with
  | nil => rfl
  | cons item more ih =>
      cases hshown : shown? item with
      | none => simpa [hshown] using ih
      | some shown => simpa [hshown, h item shown hshown] using ih

/-- What a line of the table of contents and the heading that it links to have in common. -/
structure Link where
  target : Text
  number : ParagraphNumber
  title : Text
deriving Repr, DecidableEq

/-- The name of an entry as it is shown, and its description. -/
def Entry.title (entry : Entry) : Text :=
  "<code>CONFIG_" ++ entry.name ++ "</code>" ++ Markup.description entry

/-- The line of a link in the table of contents. -/
def Link.line (link : Link) : Text :=
  Markup.link link.target (Markup.label link.number.text link.title)

private theorem space_eq : (" " : Text) = [' '] := by decide

private theorem codeTag_space : (" <code>CONFIG_" : Text) = " " ++ "<code>CONFIG_" := by decide

/-- Where an item of the table of contents links to. -/
def TocItem.link? : TocItem → Option Link
  | .block anchor number caption => some ⟨anchor, number, caption⟩
  | .config entry number => some ⟨entry.name, number, entry.title⟩
  | .openList => none
  | .closeList => none

/-- The text of an item that links somewhere shows target, number and title. -/
theorem TocItem.text_of_link {item : TocItem} {link : Link} (h : item.link? = some link) :
    item.text = link.line := by
  cases item with
  | block anchor number caption =>
      simp only [link?, Option.some.injEq] at h
      subst h
      rfl
  | config entry number =>
      simp only [link?, Option.some.injEq] at h
      subst h
      rw [text_config]
      unfold Link.line Markup.entryLink Markup.link Markup.label Entry.title
      simp only [codeTag_space, List.append_assoc]
  | openList => simp [link?] at h
  | closeList => simp [link?] at h

inductive HeadingKind where
  | menu
  | choice
  | entry
deriving Repr, DecidableEq

/-- A heading with a number, as something to link to. -/
structure Heading where
  kind : HeadingKind
  link : Link
deriving Repr, DecidableEq

/-- What stands before the anchor of a heading and after its title. -/
def HeadingKind.tags : HeadingKind → Text × Text
  | .menu => ("\n<h1><a name=\"", "</a></h1>\n")
  | .choice => ("\n<h3><a name=\"", "</a></h3>\n")
  | .entry => ("<h3><a name=\"", "</a></h3>\n")

/-- A heading as it stands in the body. -/
def Heading.lines (heading : Heading) : Text :=
  heading.kind.tags.1 ++ heading.link.target ++ "\">" ++
    Markup.label heading.link.number.text heading.link.title ++ heading.kind.tags.2

namespace BodyItem

/-- The heading that an item of the body is, if it has a number. -/
def heading? : BodyItem → Option Heading
  | .menu anchor number caption => some ⟨.menu, ⟨anchor, number, caption⟩⟩
  | .choice anchor number caption => some ⟨.choice, ⟨anchor, number, caption⟩⟩
  | .config entry (some number) => some ⟨.entry, ⟨entry.name, number, entry.title⟩⟩
  | .config _ none => none
  | .details _ _ => none
  | .openList => none
  | .closeList => none

/-- The text of a heading shows target, number and title. -/
theorem text_of_heading {item : BodyItem} {heading : Heading} (h : item.heading? = some heading) :
    item.text = heading.lines := by
  cases item with
  | menu anchor number caption =>
      simp only [heading?, Option.some.injEq] at h
      subst h
      rw [text_menu]
      unfold Heading.lines Markup.menuHeading HeadingKind.tags
      rfl
  | choice anchor number caption =>
      simp only [heading?, Option.some.injEq] at h
      subst h
      rw [text_choice]
      unfold Heading.lines Markup.choiceHeading HeadingKind.tags
      rfl
  | config entry number? =>
      cases number? with
      | none => simp [heading?] at h
      | some number =>
          simp only [heading?, Option.some.injEq] at h
          subst h
          rw [text_config]
          unfold Heading.lines Markup.entryHeading Markup.label HeadingKind.tags Entry.title
          simp only [Option.map_some, Option.elim_some, List.append_assoc, space_eq]
  | details entry path => simp [heading?] at h
  | openList => simp [heading?] at h
  | closeList => simp [heading?] at h

/-- How many choices are open after an item of the body: only choices have lists of their own
there. -/
def countChoices (opened : Nat) : BodyItem → Nat
  | .openList => opened + 1
  | .closeList => opened - 1
  | _ => opened

/-- How many choices are open after items of the body. -/
def openChoices (items : List BodyItem) : Nat := items.foldl countChoices 0

@[simp] theorem openChoices_append_singleton (items : List BodyItem) (item : BodyItem) :
    openChoices (items ++ [item]) = countChoices (openChoices items) item := by
  simp [openChoices]

/-- The targets of the headings of a kind. -/
def targets (kind : HeadingKind) (items : List BodyItem) : List Text :=
  ((items.filterMap heading?).filter (·.kind = kind)).map (·.link.target)

theorem targets_append_singleton (kind : HeadingKind) (items : List BodyItem) (item : BodyItem) :
    targets kind (items ++ [item]) = targets kind items ++ targets kind [item] := by
  simp [targets]

/-- The entries without a number are those that come while a choice is open. -/
def UnnumberedInChoices (items : List BodyItem) : Prop :=
  ∀ before entry number after, items = before ++ .config entry number :: after →
    (number = none ↔ 0 < openChoices before)

theorem UnnumberedInChoices.append {items : List BodyItem} (h : UnnumberedInChoices items)
    {item : BodyItem}
    (hitem : ∀ entry number, item = .config entry number →
      (number = none ↔ 0 < openChoices items)) :
    UnnumberedInChoices (items ++ [item]) := by
  intro before entry number after hsplit
  rcases List.eq_nil_or_concat' after with rfl | ⟨init, last, rfl⟩
  · obtain ⟨rfl, hlast⟩ := List.append_inj' hsplit rfl
    exact hitem entry number (by simpa using hlast)
  · rw [← List.cons_append, ← List.append_assoc] at hsplit
    obtain ⟨rfl, -⟩ := List.append_inj' hsplit rfl
    exact h before entry number init rfl

end BodyItem

/-- The streams agree: so many menus and choices have taken their anchors, and so many choices are
open. -/
structure Agree (toc : List TocItem) (body : List BodyItem) (menus choices opened : Nat) :
    Prop where
  links : toc.filterMap TocItem.link? = (body.filterMap BodyItem.heading?).map Heading.link
  menuTargets : BodyItem.targets .menu body = (List.range menus).map Anchor.menu
  choiceTargets : BodyItem.targets .choice body = (List.range choices).map Anchor.choice
  unnumbered : BodyItem.UnnumberedInChoices body
  opened_eq : opened = BodyItem.openChoices body

namespace Agree

variable {toc : List TocItem} {body : List BodyItem} {menus choices opened : Nat}

theorem empty : Agree [] [] 0 0 0 where
  links := rfl
  menuTargets := rfl
  choiceTargets := rfl
  unnumbered := by
    intro before entry number after h
    simp at h
  opened_eq := rfl

/-- An item of the table of contents that links nowhere changes nothing. -/
theorem writeToc (h : Agree toc body menus choices opened) {item : TocItem}
    (hitem : item.link? = none) : Agree (toc ++ [item]) body menus choices opened where
  links := by simpa [hitem] using h.links
  menuTargets := h.menuTargets
  choiceTargets := h.choiceTargets
  unnumbered := h.unnumbered
  opened_eq := h.opened_eq

/-- An item of the body that is no heading changes the number of open choices only. -/
theorem writeBody (h : Agree toc body menus choices opened) {item : BodyItem}
    (hitem : item.heading? = none) (hentry : ∀ entry, item = .config entry none → 0 < opened) :
    Agree toc (body ++ [item]) menus choices (item.countChoices opened) where
  links := by simpa [hitem] using h.links
  menuTargets := by simpa [BodyItem.targets, hitem] using h.menuTargets
  choiceTargets := by simpa [BodyItem.targets, hitem] using h.choiceTargets
  unnumbered := by
    refine h.unnumbered.append fun entry number heq => ?_
    cases number with
    | some number => simp [heq, BodyItem.heading?] at hitem
    | none => simpa [h.opened_eq] using hentry entry heq
  opened_eq := by rw [BodyItem.openChoices_append_singleton, h.opened_eq]

/-- A menu takes the next anchor of the menus. -/
theorem menu (h : Agree toc body menus choices opened) (number : ParagraphNumber)
    (caption : Text) :
    Agree (toc ++ [.block (Anchor.menu menus) number caption])
      (body ++ [.menu (Anchor.menu menus) number caption]) (menus + 1) choices opened where
  links := by simp [h.links, TocItem.link?, BodyItem.heading?]
  menuTargets := by
    rw [BodyItem.targets_append_singleton, h.menuTargets, List.range_succ]
    simp [BodyItem.targets, BodyItem.heading?]
  choiceTargets := by
    rw [BodyItem.targets_append_singleton, h.choiceTargets]
    simp [BodyItem.targets, BodyItem.heading?]
  unnumbered := h.unnumbered.append (by simp)
  opened_eq := by
    rw [BodyItem.openChoices_append_singleton, h.opened_eq]
    rfl

/-- A choice takes the next anchor of the choices. -/
theorem choice (h : Agree toc body menus choices opened) (number : ParagraphNumber)
    (caption : Text) :
    Agree (toc ++ [.block (Anchor.choice choices) number caption])
      (body ++ [.choice (Anchor.choice choices) number caption]) menus (choices + 1) opened where
  links := by simp [h.links, TocItem.link?, BodyItem.heading?]
  menuTargets := by
    rw [BodyItem.targets_append_singleton, h.menuTargets]
    simp [BodyItem.targets, BodyItem.heading?]
  choiceTargets := by
    rw [BodyItem.targets_append_singleton, h.choiceTargets, List.range_succ]
    simp [BodyItem.targets, BodyItem.heading?]
  unnumbered := h.unnumbered.append (by simp)
  opened_eq := by
    rw [BodyItem.openChoices_append_singleton, h.opened_eq]
    rfl

/-- An entry outside all choices has a link and a heading with a number. -/
theorem entry (h : Agree toc body menus choices 0) (entry : Entry) (number : ParagraphNumber) :
    Agree (toc ++ [.config entry number]) (body ++ [.config entry (some number)])
      menus choices 0 where
  links := by simp [h.links, TocItem.link?, BodyItem.heading?]
  menuTargets := by
    rw [BodyItem.targets_append_singleton, h.menuTargets]
    simp [BodyItem.targets, BodyItem.heading?]
  choiceTargets := by
    rw [BodyItem.targets_append_singleton, h.choiceTargets]
    simp [BodyItem.targets, BodyItem.heading?]
  unnumbered := by
    refine h.unnumbered.append fun entry' number' heq => ?_
    simp only [BodyItem.config.injEq] at heq
    simp [← heq.2, ← h.opened_eq]
  opened_eq := by
    rw [BodyItem.openChoices_append_singleton, ← h.opened_eq]
    rfl

end Agree

namespace Walk

/-- The streams of a state agree, and its counters know how many anchors and choices there are. -/
def InStep (s : WalkState) : Prop :=
  Agree s.toc.toList s.body.toList s.nesting.menuNumber s.nesting.choiceNumber
    s.nesting.inChoice ∧ s.nesting.counters ≠ []

/-- The streams of a state agree. -/
def Agreed (s : WalkState) : Prop :=
  ∃ menus choices opened, Agree s.toc.toList s.body.toList menus choices opened

theorem InStep.agreed {s : WalkState} (h : InStep s) : Agreed s := ⟨_, _, _, h.1⟩

/-- The link, the heading and the opened list of a menu are written together. -/
theorem agree_announceMenu {s : WalkState} (hs : InStep s) (title : Option Text) :
    let t := s.announceMenu title
    Agree t.toc.toList t.body.toList t.nesting.menuNumber t.nesting.choiceNumber
      t.nesting.inChoice := by
  have hlist := (hs.1.menu s.number (Markup.caption "Menu" title)).writeToc
    (show TocItem.openList.link? = none from rfl)
  simpa [WalkState.announceMenu, Nesting.menuAnchor, Nesting.pastMenuAnchor] using hlist

/-- The link, the heading and the opened list of a choice are written together; the choice itself
counts as open once it is entered. -/
theorem agree_announceChoice {s : WalkState} (hs : InStep s) (title : Option Text) :
    let t := s.announceChoice title
    Agree t.toc.toList t.body.toList t.nesting.menuNumber t.nesting.choiceNumber
      (t.nesting.inChoice + 1) := by
  have hlist := (hs.1.choice s.number (Markup.caption "Choice" title)).writeBody
    (show BodyItem.openList.heading? = none from rfl) (by simp)
  simpa [WalkState.announceChoice, Nesting.choiceAnchor, Nesting.pastChoiceAnchor,
    BodyItem.countChoices] using hlist

/-- The end of a list of links changes no link and no heading. -/
theorem agree_closeToc {s : WalkState} (hs : InStep s) :
    let t := s.writeToc .closeList
    Agree t.toc.toList t.body.toList t.nesting.menuNumber t.nesting.choiceNumber
      t.nesting.inChoice := by
  have hlist := hs.1.writeToc (show TocItem.closeList.link? = none from rfl)
  simpa [WalkState.writeToc] using hlist

/-- The end of a list of entries closes a choice. -/
theorem agree_closeBody {s : WalkState} (hs : InStep s) :
    let t := (s.writeBody .closeList).leaveChoice
    Agree t.toc.toList t.body.toList t.nesting.menuNumber t.nesting.choiceNumber
      t.nesting.inChoice := by
  have hlist := hs.1.writeBody (show BodyItem.closeList.heading? = none from rfl) (by simp)
  simpa [WalkState.writeBody, WalkState.leaveChoice, BodyItem.countChoices] using hlist

/-- The details of an entry change no heading. -/
theorem agree_writeDetails {s : WalkState}
    (hs : Agree s.toc.toList s.body.toList s.nesting.menuNumber s.nesting.choiceNumber
      s.nesting.inChoice) (entry : Entry) (path : Text) :
    let t := s.writeBody (.details entry path)
    Agree t.toc.toList t.body.toList t.nesting.menuNumber t.nesting.choiceNumber
      t.nesting.inChoice := by
  have hdetails := hs.writeBody (show (BodyItem.details entry path).heading? = none from rfl)
    (by simp)
  simpa [WalkState.writeBody, BodyItem.countChoices] using hdetails

/-- An entry outside all choices has its link and its heading. -/
theorem agree_listEntry {s : WalkState} (hs : InStep s) (hchoice : s.nesting.inChoice = 0)
    (entry : Entry) (counters : List Nat) :
    let t := listEntry s entry counters
    Agree t.toc.toList t.body.toList t.nesting.menuNumber t.nesting.choiceNumber
      t.nesting.inChoice := by
  have hentry := (hchoice ▸ hs.1).entry entry s.number
  simpa [listEntry, WalkState.writeBody, WalkState.writeToc, hchoice] using hentry

/-- An entry inside a choice has a heading without a number. -/
theorem agree_writeEntry {s : WalkState} (hs : InStep s) (hchoice : s.nesting.inChoice ≠ 0)
    (entry : Entry) :
    let t := s.writeBody (.config entry none)
    Agree t.toc.toList t.body.toList t.nesting.menuNumber t.nesting.choiceNumber
      t.nesting.inChoice := by
  have hentry := hs.1.writeBody (show (BodyItem.config entry none).heading? = none from rfl)
    (fun _ _ => Nat.pos_of_ne_zero hchoice)
  simpa [WalkState.writeBody, BodyItem.countChoices] using hentry

/-- Every step keeps the streams in step. Outside a choice nothing can fail between the link of an
entry and its heading, because some block is open. -/
theorem steady_inStep (ctx : WalkContext) : Steady ctx InStep Agreed where
  stop _ hs := hs.agreed
  note _ _ hs := hs
  opened _ _ hs := hs
  unread _ _ hs := hs
  openMenu _ := by
    refine .openMenu (fun s hs => ?_) (fun s hs => ?_)
    · exact ⟨agree_announceMenu hs _, List.cons_ne_nil _ _⟩
    · exact ⟨_, _, _, agree_announceMenu hs _⟩
  closeMenu _ := by
    refine .closeMenu (fun s last counter outer hs _ => ?_) (fun s counters hs => ?_)
    · exact ⟨agree_closeToc hs, List.cons_ne_nil _ _⟩
    · exact ⟨_, _, _, agree_closeToc hs⟩
  openChoice _ := by
    refine .openChoice (fun s hs => ?_) (fun s hs => ?_)
    · exact ⟨agree_announceChoice hs _, List.cons_ne_nil _ _⟩
    · exact ⟨_, _, _, agree_announceChoice hs _⟩
  closeChoice _ := by
    refine .closeChoice (fun s last counter outer hs _ => ?_) (fun s counters hs => ?_)
    · exact ⟨agree_closeBody hs, List.cons_ne_nil _ _⟩
    · exact ⟨_, _, _, agree_closeBody hs⟩
  pushCondition _ := .pushCondition (fun _ hs => hs.agreed) (fun _ _ hs _ => hs)
  popCondition _ := .popCondition (fun _ hs => hs.agreed) (fun _ _ hs _ => hs)
  renderEntry entry := by
    refine .renderEntry (fun _ _ hs _ => hs) ?_ ?_ ?_
    · intro s hs _ hnil
      exact absurd hnil hs.2
    · intro s counter outer hs hchoice _
      have hlisted := agree_listEntry hs hchoice entry ((counter + 1) :: outer)
      exact ⟨⟨_, _, _, hlisted⟩, fun path _ =>
        ⟨agree_writeDetails hlisted entry path, List.cons_ne_nil _ _⟩⟩
    · intro s hs hchoice
      have hlisted := agree_writeEntry hs hchoice entry
      exact ⟨⟨_, _, _, hlisted⟩, fun path _ => ⟨agree_writeDetails hlisted entry path, hs.2⟩⟩

/-- The root has the first menu anchor. -/
theorem inStep_rooted (maxLevels maxConditions : Limit) (showInternal : Bool) (banner : Text) :
    InStep (.rooted maxLevels maxConditions showInternal banner) :=
  ⟨Agree.empty.menu [1] banner, List.cons_ne_nil _ _⟩

theorem agreed_fresh (maxLevels maxConditions : Limit) (showInternal : Bool) :
    Agreed (.fresh maxLevels maxConditions showInternal) := ⟨0, 0, 0, .empty⟩

theorem agreed_numbered (maxLevels maxConditions : Limit) (showInternal : Bool) :
    Agreed (.numbered maxLevels maxConditions showInternal) := ⟨0, 0, 0, .empty⟩

theorem InStep.agreed_closed {s : WalkState} (hs : InStep s) : Agreed s.closed :=
  ⟨_, _, _, agree_closeToc hs⟩

/-- The streams agree in whatever state a run stops. -/
theorem agreed_run (ctx : WalkContext) (root : Option Text) (maxLevels maxConditions : Limit)
    (showInternal : Bool) :
    Agreed (stateAfter (run ctx root) (.fresh maxLevels maxConditions showInternal)) :=
  (steady_inStep ctx).stateAfter_run (agreed_fresh _ _ _) (agreed_numbered _ _ _)
    (inStep_rooted _ _ _) (fun _ hs => hs.agreed_closed) root

end Walk

end KconfigReference
