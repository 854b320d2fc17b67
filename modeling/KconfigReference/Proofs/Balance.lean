import KconfigReference.Proofs.Coverage
import KconfigReference.Proofs.Page.Tags
import KconfigReference.Proofs.Walk.Recorded

/-!
Closing lines and open lists. A closing line of either kind closes the innermost block, but it ends
a list of its own kind: `endmenu` in the table of contents and `endchoice` in the body. The end of a
run looks at the number of open blocks only. Main statement: where that number is right, the lists
are balanced exactly if the lines of each kind are, on their own.
-/

namespace KconfigReference

open Check (ListTag depthAfter listTags)

namespace Line

variable {line : Line} {kind other : BlockKind}

theorem countOf_opening (h : line.keyword? = some kind.opening) (opened : Nat) :
    line.countOf kind opened = depthAfter opened [.opening] := by
  unfold countOf
  rw [if_pos h]
  rfl

theorem countOf_closing (h : line.keyword? = some kind.closing) (opened : Nat) :
    line.countOf kind opened = depthAfter opened [.closing] := by
  have hopening : line.keyword? ≠ some kind.opening := by
    rw [h]
    simpa using kind.opening_ne_closing.symm
  unfold countOf
  rw [if_neg hopening, if_pos h]
  cases opened <;> rfl

theorem countOf_other (hopening : line.keyword? ≠ some kind.opening)
    (hclosing : line.keyword? ≠ some kind.closing) (opened : Nat) :
    line.countOf kind opened = depthAfter opened [] := by
  unfold countOf
  rw [if_neg hopening, if_neg hclosing]
  rfl

/-- A line that neither opens nor closes a block counts for no kind. -/
theorem keyword_ne_of_onward (h : line.turn = .onward) (kind : BlockKind) :
    line.keyword? ≠ some kind.opening ∧ line.keyword? ≠ some kind.closing := by
  constructor
  · intro hk
    rw [turn_of_opening hk] at h
    cases h
  · intro hk
    rw [turn_of_closing hk] at h
    cases h

end Line

/-- No item that was written brings tags of its own. -/
structure WalkState.Bare (s : WalkState) : Prop where
  toc : ∀ item ∈ s.toc.toList, item.Bare
  body : ∀ item ∈ s.body.toList, item.Bare

namespace WalkState

/-- The tags of the table of contents. -/
def tocTags (s : WalkState) : List ListTag := s.toc.toList.flatMap TocItem.tags

def bodyTags (s : WalkState) : List ListTag := s.body.toList.flatMap BodyItem.tags

@[simp] theorem tocTags_writeToc (s : WalkState) (item : TocItem) :
    (s.writeToc item).tocTags = s.tocTags ++ item.tags := by
  simp [tocTags, writeToc]

@[simp] theorem bodyTags_writeBody (s : WalkState) (item : BodyItem) :
    (s.writeBody item).bodyTags = s.bodyTags ++ item.tags := by
  simp [bodyTags, writeBody]

@[simp] theorem tocTags_announceMenu (s : WalkState) (title : Option Text) :
    (s.announceMenu title).tocTags = s.tocTags ++ [.opening] := by
  simp [tocTags, announceMenu, TocItem.tags]

@[simp] theorem bodyTags_announceMenu (s : WalkState) (title : Option Text) :
    (s.announceMenu title).bodyTags = s.bodyTags := by
  simp [bodyTags, announceMenu, BodyItem.tags]

@[simp] theorem tocTags_announceChoice (s : WalkState) (title : Option Text) :
    (s.announceChoice title).tocTags = s.tocTags := by
  simp [tocTags, announceChoice, TocItem.tags]

@[simp] theorem bodyTags_announceChoice (s : WalkState) (title : Option Text) :
    (s.announceChoice title).bodyTags = s.bodyTags ++ [.opening] := by
  simp [bodyTags, announceChoice, BodyItem.tags]

namespace Bare

variable {s t : WalkState}

theorem of_eq (h : s.Bare) (htoc : t.toc = s.toc) (hbody : t.body = s.body) : t.Bare :=
  ⟨htoc ▸ h.toc, hbody ▸ h.body⟩

theorem writeToc (h : s.Bare) {item : TocItem} (hitem : item.Bare) : (s.writeToc item).Bare :=
  ⟨forall_mem_writeToc h.toc hitem, h.body⟩

theorem writeBody (h : s.Bare) {item : BodyItem} (hitem : item.Bare) : (s.writeBody item).Bare :=
  ⟨h.toc, forall_mem_writeBody h.body hitem⟩

theorem announceMenu (h : s.Bare) (title : Option Text) : (s.announceMenu title).Bare := by
  have hanchor : Tagless s.nesting.menuAnchor :=
    (Tagless.of_isTagless (by decide)).append (.ofNat s.nesting.menuNumber)
  have hcaption : Tagless (Markup.caption "Menu" title) :=
    .caption (.of_isTagless (by decide)) title
  have hlink : (s.writeToc (.block s.nesting.menuAnchor s.number _)).Bare :=
    h.writeToc ⟨hanchor, hcaption⟩
  have hlist : ((s.writeToc _).writeToc .openList).Bare := hlink.writeToc trivial
  have hheading : (((s.writeToc _).writeToc .openList).writeBody
      (.menu s.nesting.menuAnchor s.number _)).Bare := hlist.writeBody ⟨hanchor, hcaption⟩
  exact hheading.of_eq rfl rfl

theorem announceChoice (h : s.Bare) (title : Option Text) : (s.announceChoice title).Bare := by
  have hanchor : Tagless s.nesting.choiceAnchor :=
    (Tagless.of_isTagless (by decide)).append (.ofNat s.nesting.choiceNumber)
  have hcaption : Tagless (Markup.caption "Choice" title) :=
    .caption (.of_isTagless (by decide)) title
  have hlink : (s.writeToc (.block s.nesting.choiceAnchor s.number _)).Bare :=
    h.writeToc ⟨hanchor, hcaption⟩
  have hheading : ((s.writeToc _).writeBody (.choice s.nesting.choiceAnchor s.number _)).Bare :=
    hlink.writeBody ⟨hanchor, hcaption⟩
  have hlist : (((s.writeToc _).writeBody _).writeBody .openList).Bare := hheading.writeBody trivial
  exact hlist.of_eq rfl rfl

theorem listEntry (h : s.Bare) {entry : Entry} (hname : Tagless entry.name) (counters : List Nat) :
    (Walk.listEntry s entry counters).Bare := by
  have hlink : (s.writeToc (.config entry s.number)).Bare := h.writeToc hname
  have hcounters : ((s.writeToc (.config entry s.number)).withCounters counters).Bare :=
    hlink.of_eq rfl rfl
  exact hcounters.writeBody hname

/-- The tags of the table of contents are those of its items. -/
theorem listTags_tocText (h : s.Bare) : listTags s.tocText = s.tocTags := by
  have htags := TocItem.listTags_items h.toc []
  rw [List.append_nil] at htags
  exact htags.trans (List.append_nil _)

theorem listTags_bodyText (h : s.Bare) : listTags s.bodyText = s.bodyTags := by
  have htags := BodyItem.listTags_items h.body []
  rw [List.append_nil] at htags
  exact htags.trans (List.append_nil _)

end Bare

end WalkState

namespace Walk

/-- The state after a history of lines: the lists that are open in the two streams are those of the
menus and of the choices, each counted on its own; the level counts them together. -/
structure Lists (history : List Line) (s : WalkState) : Prop where
  bare : s.Bare
  menus : depthAfter 1 s.tocTags = openOfKind .menu 1 history
  choices : depthAfter 0 s.bodyTags = openOfKind .choice 0 history
  inChoice : ∀ opened, openOfKind .choice 0 history = some opened → s.nesting.inChoice = opened
  level : s.nesting.level + (closings .menu history + closings .choice history) =
    1 + (openings .menu history + openings .choice history)

variable {ctx : WalkContext} {directory : Text} {history : List Line} {line : Line}
  {s t : WalkState}

namespace Lists

theorem of_eq (h : Lists history s) (htoc : t.toc = s.toc) (hbody : t.body = s.body)
    (hnesting : t.nesting = s.nesting) : Lists history t := by
  have htags : t.tocTags = s.tocTags := by rw [WalkState.tocTags, WalkState.tocTags, htoc]
  have htags' : t.bodyTags = s.bodyTags := by rw [WalkState.bodyTags, WalkState.bodyTags, hbody]
  constructor
  · exact h.bare.of_eq htoc hbody
  · rw [htags, h.menus]
  · rw [htags', h.choices]
  · rw [hnesting]
    exact h.inChoice
  · rw [hnesting]
    exact h.level

/-- A line that writes the tags for which it counts, and changes the level as it counts. -/
theorem step (h : Lists history s) (tocTags bodyTags : List ListTag) (hbare : t.Bare)
    (htoc : t.tocTags = s.tocTags ++ tocTags) (hbody : t.bodyTags = s.bodyTags ++ bodyTags)
    (hmenus : ∀ opened, line.countOf .menu opened = depthAfter opened tocTags)
    (hchoices : ∀ opened, line.countOf .choice opened = depthAfter opened bodyTags)
    (hinChoice : ∀ opened next, line.countOf .choice opened = some next →
      s.nesting.inChoice = opened → t.nesting.inChoice = next)
    (hlevel : t.nesting.level + (closings .menu [line] + closings .choice [line]) =
      s.nesting.level + (openings .menu [line] + openings .choice [line])) :
    Lists (history ++ [line]) t := by
  have hone : ∀ kind opened, openOfKind kind opened [line] = line.countOf kind opened := by
    intro kind opened
    rw [openOfKind_cons]
    exact Option.bind_fun_some _
  constructor
  · exact hbare
  · rw [htoc, Check.depthAfter_append, h.menus, openOfKind_append]
    simp only [hone, hmenus]
  · rw [hbody, Check.depthAfter_append, h.choices, openOfKind_append]
    simp only [hone, hchoices]
  · intro next hnext
    rw [openOfKind_append, Option.bind_eq_some_iff] at hnext
    obtain ⟨opened, hopened, hcount⟩ := hnext
    rw [hone] at hcount
    exact hinChoice opened next hcount (h.inChoice opened hopened)
  · have := h.level
    simp only [closings_append, openings_append]
    omega

/-- A line that neither opens nor closes a block changes no list, whatever entry it writes. -/
theorem onward (h : Lists history s) (hturn : line.turn = .onward) (hbare : t.Bare)
    (htoc : t.tocTags = s.tocTags)
    (hbody : t.bodyTags = s.bodyTags ∨ t.bodyTags = s.bodyTags ++ [.opening, .closing])
    (hinChoice : t.nesting.inChoice = s.nesting.inChoice)
    (hlevel : t.nesting.level = s.nesting.level) : Lists (history ++ [line]) t := by
  have hother := line.keyword_ne_of_onward hturn
  have hcount : ∀ kind opened, line.countOf kind opened = some opened := fun kind opened =>
    Line.countOf_other (hother kind).1 (hother kind).2 opened
  have hlevels : t.nesting.level + (closings .menu [line] + closings .choice [line]) =
      s.nesting.level + (openings .menu [line] + openings .choice [line]) := by
    simp [openings, closings, hother, hlevel]
  have hin : ∀ opened next, line.countOf .choice opened = some next →
      s.nesting.inChoice = opened → t.nesting.inChoice = next := by
    intro opened next hnext hopened
    rw [hcount] at hnext
    rw [hinChoice, hopened, Option.some.inj hnext]
  have htoc' : t.tocTags = s.tocTags ++ [] := by rw [htoc, List.append_nil]
  rcases hbody with hbody | hbody
  · have hbody' : t.bodyTags = s.bodyTags ++ [] := by rw [hbody, List.append_nil]
    exact h.step [] [] hbare htoc' hbody' (hcount .menu) (hcount .choice) hin hlevels
  · exact h.step [] _ hbare htoc' hbody (hcount .menu) (hcount .choice) hin hlevels

end Lists

theorem lists_openMenu (hk : line.keyword? = some .menu) :
    Leads (Lists history) (Lists (history ++ [line])) Anywhere (openMenu line) := by
  refine .openMenu (fun s hs => ?_) fun _ _ => trivial
  have hchoice : ∀ opened, line.countOf .choice opened = some opened :=
    Line.countOf_other (by simp [hk, BlockKind.opening]) (by simp [hk, BlockKind.closing])
  have hbare := hs.bare.announceMenu (Prompt.extract line.rest)
  apply hs.step [.opening] [] (hbare.of_eq (by rfl) (by rfl))
  · exact WalkState.tocTags_announceMenu s _
  · exact (WalkState.bodyTags_announceMenu s _).trans (List.append_nil _).symm
  · exact Line.countOf_opening hk
  · exact hchoice
  · intro opened next hnext hopened
    rw [hchoice] at hnext
    exact hopened.trans (Option.some.inj hnext)
  · simp [Nesting.level, openings, closings, hk, BlockKind.opening, BlockKind.closing]

theorem lists_openChoice (hk : line.keyword? = some .choice) :
    Leads (Lists history) (Lists (history ++ [line])) Anywhere (openChoice line) := by
  refine .openChoice (fun s hs => ?_) fun _ _ => trivial
  have hbare := hs.bare.announceChoice (Prompt.extract line.rest)
  have hchoice : ∀ opened, line.countOf .choice opened = depthAfter opened [.opening] :=
    Line.countOf_opening hk
  apply hs.step [] [.opening] (hbare.of_eq (by rfl) (by rfl))
  · exact (WalkState.tocTags_announceChoice s _).trans (List.append_nil _).symm
  · exact WalkState.bodyTags_announceChoice s _
  · exact Line.countOf_other (by simp [hk, BlockKind.opening]) (by simp [hk, BlockKind.closing])
  · exact hchoice
  · intro opened next hnext hopened
    rw [hchoice] at hnext
    rw [← Option.some.inj hnext, ← hopened]
    rfl
  · simp [Nesting.level, WalkState.enterChoice, openings, closings, hk, BlockKind.opening,
      BlockKind.closing]

theorem lists_closeMenu (hk : line.keyword? = some .endMenu) :
    Leads (Lists history) (Lists (history ++ [line])) Anywhere (closeMenu line) := by
  refine .closeMenu (fun s last counter outer hs hcounters => ?_) fun _ _ _ => trivial
  have hchoice : ∀ opened, line.countOf .choice opened = some opened :=
    Line.countOf_other (by simp [hk, BlockKind.opening]) (by simp [hk, BlockKind.closing])
  have hbare : (s.writeToc .closeList).Bare := hs.bare.writeToc trivial
  apply hs.step [.closing] [] (hbare.of_eq (by rfl) (by rfl))
  · exact WalkState.tocTags_writeToc s .closeList
  · exact (List.append_nil _).symm
  · exact Line.countOf_closing hk
  · exact hchoice
  · intro opened next hnext hopened
    rw [hchoice] at hnext
    exact hopened.trans (Option.some.inj hnext)
  · simp [Nesting.level, hcounters, openings, closings, hk, BlockKind.opening, BlockKind.closing]

theorem lists_closeChoice (hk : line.keyword? = some .endChoice) :
    Leads (Lists history) (Lists (history ++ [line])) Anywhere (closeChoice line) := by
  refine .closeChoice (fun s last counter outer hs hcounters => ?_) fun _ _ _ => trivial
  have hbare : (s.writeBody .closeList).Bare := hs.bare.writeBody trivial
  have hchoice : ∀ opened, line.countOf .choice opened = depthAfter opened [.closing] :=
    Line.countOf_closing hk
  apply hs.step [] [.closing] (hbare.of_eq (by rfl) (by rfl))
  · exact (List.append_nil _).symm
  · exact WalkState.bodyTags_writeBody s .closeList
  · exact Line.countOf_other (by simp [hk, BlockKind.opening]) (by simp [hk, BlockKind.closing])
  · exact hchoice
  · intro opened next hnext hopened
    rw [hchoice] at hnext
    cases opened with
    | zero => cases hnext
    | succ outer =>
        obtain rfl : outer = next := Option.some.inj hnext
        simp [WalkState.leaveChoice, WalkState.writeBody, hopened]
  · simp [Nesting.level, hcounters, openings, closings, hk, BlockKind.opening, BlockKind.closing]

theorem lists_renderEntry {entry : Entry} (hturn : line.turn = .onward)
    (hname : Tagless entry.name) :
    Leads (Lists history) (Lists (history ++ [line])) Anywhere (renderEntry ctx entry) := by
  apply Leads.renderEntry
  · exact fun _ s hs _ =>
      hs.onward hturn (hs.bare.of_eq rfl rfl) rfl (.inl rfl) rfl rfl
  · exact fun _ _ _ _ => trivial
  · intro s counter outer hs _ hcounters
    refine ⟨trivial, fun path _ => ?_⟩
    have hbare :
        ((listEntry s entry ((counter + 1) :: outer)).writeBody (.details entry path)).Bare :=
      (hs.bare.listEntry hname _).writeBody trivial
    apply hs.onward hturn hbare
    · exact (WalkState.tocTags_writeToc s (.config entry s.number)).trans (List.append_nil _)
    · right
      simp [listEntry, BodyItem.tags, WalkState.bodyTags, WalkState.writeBody, WalkState.writeToc]
    · rfl
    · simp [listEntry, Nesting.level, WalkState.writeBody, hcounters]
  · intro s hs _
    refine ⟨trivial, fun path _ => ?_⟩
    have hheading : (s.writeBody (.config entry none)).Bare := hs.bare.writeBody hname
    have hbare : ((s.writeBody (.config entry none)).writeBody (.details entry path)).Bare :=
      hheading.writeBody trivial
    apply hs.onward hturn hbare rfl
    · right
      simp [BodyItem.tags]
    · rfl
    · rfl

/-- What one line does to the lists. -/
theorem lists_line (hname : line.declares → Tagless (Text.firstWord line.rest)) (after : List Line) :
    Leads (Lists history) (Lists (history ++ [line])) Anywhere
      (effect ctx (fun _ => pure ()) directory line after) := by
  have hnote : ∀ {history : List Line} record s, Lists history s → Lists history (s.note record) :=
    fun _ _ hs => hs.of_eq rfl rfl rfl
  have hsame : line.turn = .onward → ∀ s t : WalkState, Lists history s → t.toc = s.toc →
      t.body = s.body → t.nesting = s.nesting → Lists (history ++ [line]) t := by
    intro hturn s t hs htoc hbody hnesting
    have ht := hs.of_eq htoc hbody hnesting
    exact ht.onward hturn ht.bare rfl (.inl rfl) rfl rfl
  apply Leads.effect hnote hnote
  · exact fun hidle s hs => hsame hidle.turn_eq s s hs rfl rfl rfl
  · intro hk
    have hsource : Keeps (Lists history) Anywhere (sourceLine ctx (fun _ => pure ()) line) :=
      .sourceLine hnote (fun _ _ => trivial) (fun _ => .pure ()) line
    exact hsource.mono fun s hs => hsame (by simp [Line.turn, hk]) s s hs rfl rfl rfl
  · exact lists_openMenu
  · exact lists_openChoice
  · exact lists_closeMenu
  · exact lists_closeChoice
  · intro hk
    exact .pushCondition (fun _ _ => trivial) fun s _ hs _ =>
      hsame (by simp [Line.turn, hk]) s _ hs rfl rfl rfl
  · intro hk
    exact .popCondition (fun _ _ => trivial) fun s _ hs _ =>
      hsame (by simp [Line.turn, hk]) s _ hs rfl rfl rfl
  · intro hdeclares conditions s hs
    have hentry : Tagless (line.entry directory conditions after).name := by
      rw [Line.entry, Entry.name_withLines]
      exact hname hdeclares
    exact lists_renderEntry (by simp [Line.turn, hdeclares.1]) hentry s hs.1

/-- What one step does to the lists. -/
theorem lists_step {step : Step}
    (hnames : ∀ line ∈ step.lines, line.declares → Tagless (Text.firstWord line.rest)) :
    Leads (Lists history) (Lists (history ++ step.lines)) Anywhere (perform ctx step) := by
  have hnote : ∀ record s, Lists history s → Lists history (s.note record) :=
    fun _ _ hs => hs.of_eq rfl rfl rfl
  cases step with
  | line directory line after => exact lists_line (hnames line (by simp [Step.lines])) after
  | enter directory =>
      have hopen : Keeps (Lists history) Anywhere (openFile ctx directory) :=
        .openFile hnote (fun _ _ => trivial) (fun _ _ => trivial) fun _ s _ hs =>
          hs.of_eq rfl rfl rfl
      simp only [Step.lines, List.append_nil]
      exact hopen.map _
  | leave unread =>
      simp only [Step.lines, List.append_nil]
      exact .change fun s hs => hs.of_eq rfl rfl rfl
  | endless => exact .throw (fun _ _ => trivial) _

/-- What steps do to the lists, by induction on the steps. -/
theorem lists_follow {steps : List Step}
    (hnames : ∀ line ∈ steps.flatMap Step.lines,
      line.declares → Tagless (Text.firstWord line.rest)) :
    Leads (Lists history) (Lists (history ++ steps.flatMap Step.lines)) Anywhere
      (follow ctx steps) := by
  induction steps generalizing history with
  | nil => exact fun s hs => by simpa using hs
  | cons step steps ih =>
      simp only [List.flatMap_cons, List.mem_append] at hnames
      rw [follow_cons]
      refine .bind (lists_step fun line hline => hnames line (.inl hline)) fun _ => ?_
      rw [List.flatMap_cons, ← List.append_assoc]
      exact ih fun line hline => hnames line (.inr hline)

theorem lists_rooted (maxLevels maxConditions : Limit) (showInternal : Bool) {banner : Text}
    (hbanner : '<' ∉ banner) :
    Lists [] (.rooted maxLevels maxConditions showInternal banner) := by
  have hanchor : Tagless (Anchor.menu 0) := (Tagless.of_isTagless (by decide)).append (.ofNat 0)
  constructor
  · constructor
    · simp only [WalkState.rooted, List.mem_singleton, forall_eq]
      exact ⟨hanchor, .of_not_mem hbanner⟩
    · simp only [WalkState.rooted, List.mem_singleton, forall_eq]
      exact ⟨hanchor, .of_not_mem hbanner⟩
  · rfl
  · rfl
  · intro opened hopened
    rw [← Option.some.inj hopened]
    rfl
  · rfl

/-- The end of a run warns where the level is not the first. -/
theorem level_of_unwarned {s : WalkState}
    (h : ∀ record ∈ s.closed.log.toList, record.level ≠ .warning) : s.nesting.level = 1 := by
  by_contra hlevel
  have hremarks : ∀ record ∈ closingRemarks (s.writeToc .closeList), record.level ≠ .warning := by
    intro record hrecord
    apply h record
    rw [WalkState.closed, Array.toList_append]
    exact List.mem_append_right _ hrecord
  have hsame : (s.writeToc .closeList).nesting.level = s.nesting.level := rfl
  rw [closingRemarks, hsame, if_neg hlevel] at hremarks
  exact hremarks _ List.mem_cons_self rfl

/-- The lists of a run that ends at the first level, with the list around the table of contents, are
balanced exactly if the lines of each kind are. -/
theorem Lists.balanced_iff (h : Lists history s) (hlevel : s.nesting.level = 1) :
    (s.nesting.inChoice = 0 ∧ depthAfter 1 (s.tocTags ++ [.closing]) = some 0 ∧
        depthAfter 0 s.bodyTags = some 0) ↔
      openOfKind .choice 0 history = some 0 ∧ (openOfKind .menu 1 history).isSome := by
  rw [Check.depthAfter_append, h.menus, h.choices]
  constructor
  · rintro ⟨-, htoc, hbody⟩
    obtain ⟨menus, hmenus, -⟩ := Option.bind_eq_some_iff.1 htoc
    exact ⟨hbody, by rw [hmenus]; rfl⟩
  · rintro ⟨hchoices, hmenus⟩
    obtain ⟨menus, hmenus⟩ := Option.isSome_iff_exists.1 hmenus
    refine ⟨h.inChoice 0 hchoices, ?_, hchoices⟩
    -- The level counts both kinds: with the choices all closed, so are the menus.
    have hone : menus = 1 := by
      have := openOfKind_count hchoices
      have := openOfKind_count hmenus
      have := h.level
      omega
    rw [hmenus, hone]
    rfl

/-- What the check at the end of a run comes to. A run that ends without a warning has closed all
choices, and both its streams are balanced, the table of contents with the list around it, exactly
if the `choice` and `endchoice` lines, in the order in which they were dispatched, close every choice
and none that is not open, and no `endmenu` line comes where neither a menu nor the list around the
table of contents is open. Neither the banner nor the names of entries may hold tags. -/
theorem run_balanced_iff {root : Option Text} {maxLevels maxConditions : Limit}
    {showInternal : Bool} {t : WalkState}
    (hbanner : ∀ banner, ctx.bannerText = .ok banner → '<' ∉ banner)
    (hnames : ∀ line ∈ (itinerary ctx
        (depthBound ctx (.numbered maxLevels maxConditions showInternal))
        (startDirectory ctx root)).flatMap Step.lines,
      line.declares → '<' ∉ Text.firstWord line.rest)
    (hrun : run ctx root (.fresh maxLevels maxConditions showInternal) = .ok () t)
    (hunwarned : ∀ record ∈ t.log.toList, record.level ≠ .warning) :
    let lines := (itinerary ctx
      (depthBound ctx (.numbered maxLevels maxConditions showInternal))
      (startDirectory ctx root)).flatMap Step.lines
    (t.nesting.inChoice = 0 ∧
        depthAfter 0 (listTags (Markup.openList ++ t.tocText)) = some 0 ∧
        depthAfter 0 (listTags t.bodyText) = some 0) ↔
      openOfKind .choice 0 lines = some 0 ∧ (openOfKind .menu 1 lines).isSome := by
  intro lines
  obtain ⟨banner, s, hshown, rfl, hfollow⟩ := follow_of_run_ok hrun
  have hrooted := lists_rooted maxLevels maxConditions showInternal (hbanner banner hshown)
  have hlists := (lists_follow fun line hline hdeclares =>
    Tagless.of_not_mem (hnames line hline hdeclares)).of_ok hrooted hfollow
  rw [List.nil_append] at hlists
  have hclosed : (s.writeToc .closeList).Bare := hlists.bare.writeToc trivial
  have htoc : listTags (Markup.openList ++ s.closed.tocText) =
      .opening :: (s.tocTags ++ [.closing]) := by
    have hsame : s.closed.tocText = (s.writeToc .closeList).tocText := rfl
    rw [hsame, Markup.listTags_openList, hclosed.listTags_tocText, WalkState.tocTags_writeToc]
    rfl
  have hbody : listTags s.closed.bodyText = s.bodyTags := hlists.bare.listTags_bodyText
  rw [htoc, hbody]
  exact hlists.balanced_iff (level_of_unwarned hunwarned)

/-- A choice that is closed as a menu. -/
def miscalledTree : FileTree where
  root := .directory [("Kconfig", .file (Utf8.encode "choice \"C\"\nendmenu\n"))]
  home := []

/-- A run may end without a warning and leave a choice and its list open, and the table of contents
with one closing tag too many. -/
theorem run_ends_unbalanced :
    ∃ t, run (.ofSettings .builtIn miscalledTree ".") none (.ofSettings .builtIn) = .ok () t ∧
      (∀ record ∈ t.log.toList, record.level ≠ .warning) ∧ t.nesting.inChoice = 1 ∧
      depthAfter 0 (listTags (Markup.openList ++ t.tocText)) = none ∧
      depthAfter 0 (listTags t.bodyText) = some 1 := by
  have hends : endsWith (run (.ofSettings .builtIn miscalledTree ".") none)
      (fun t => decide ((∀ record ∈ t.log.toList, record.level ≠ .warning) ∧
        t.nesting.inChoice = 1 ∧
        depthAfter 0 (listTags (Markup.openList ++ t.tocText)) = none ∧
        depthAfter 0 (listTags t.bodyText) = some 1)) (.ofSettings .builtIn) = true := by
    decide +kernel
  obtain ⟨_, t, hrun, ht⟩ := exists_of_endsWith hends
  exact ⟨t, hrun, of_decide_eq_true ht⟩

/-- A choice in a menu, with an entry. -/
def nestedTree : FileTree where
  root := .directory
    [("Kconfig", .file (Utf8.encode
      "menu \"M\"\nchoice\nconfig X\n\tbool \"<ul>\"\nendchoice\nendmenu\n"))]
  home := []

theorem run_balanced_iff_sample :
    ∃ t, run (.ofSettings .builtIn nestedTree ".") none (.ofSettings .builtIn) = .ok () t ∧
      (∀ record ∈ t.log.toList, record.level ≠ .warning) ∧ t.nesting.inChoice = 0 ∧
      depthAfter 0 (listTags (Markup.openList ++ t.tocText)) = some 0 ∧
      depthAfter 0 (listTags t.bodyText) = some 0 := by
  have hbanner : ∀ banner, (WalkContext.ofSettings .builtIn nestedTree ".").bannerText =
      .ok banner → '<' ∉ banner := by
    intro banner hshown
    have htext : (WalkContext.ofSettings .builtIn nestedTree ".").bannerText =
        .ok "NuttX Configuration Variables" := by rfl
    rw [htext] at hshown
    cases hshown
    decide
  have hends : endsWith (run (.ofSettings .builtIn nestedTree ".") none)
      (fun t => decide (∀ record ∈ t.log.toList, record.level ≠ .warning))
      (.ofSettings .builtIn) = true := by decide +kernel
  obtain ⟨_, t, hrun, ht⟩ := exists_of_endsWith hends
  have hunwarned : ∀ record ∈ t.log.toList, record.level ≠ .warning := of_decide_eq_true ht
  have hbalanced := run_balanced_iff hbanner (by decide +kernel) hrun hunwarned
  exact ⟨t, hrun, hunwarned, hbalanced.2 (by decide +kernel)⟩

end Walk

end KconfigReference
