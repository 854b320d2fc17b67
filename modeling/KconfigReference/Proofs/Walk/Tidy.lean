import KconfigReference.Proofs.Kconfig.Tidy
import KconfigReference.Proofs.Walk.Growth
import KconfigReference.Proofs.Walk.Run

/-!
Walks over tidy trees write tidy items. Menus open their lists in the table of contents and choices
theirs in the body, so that the lists that are open in the two streams are counted by the open
blocks of each kind. Main statement: the walk of a file leaves as many lists open as it found.
-/

namespace KconfigReference

open Check (ListTag depthAfter)

/-- What is written is tidy, and the lists that are open are those of the open blocks; the table of
contents is itself a list. -/
structure WalkState.Tidy (opened : List BlockKind) (s : WalkState) : Prop where
  toc : ∀ item ∈ s.toc.toList, item.Tidy
  body : ∀ item ∈ s.body.toList, item.Tidy
  conditions : ∀ text ∈ s.conditions.stack, '"' ∉ text
  menus : depthAfter 1 (s.toc.toList.flatMap TocItem.tags) = some (opened.count .menu + 1)
  choices : depthAfter 0 (s.body.toList.flatMap BodyItem.tags) = some (opened.count .choice)

namespace WalkState.Tidy

variable {s t : WalkState} {opened next : List BlockKind}

theorem of_eq (h : s.Tidy opened) (htoc : t.toc = s.toc) (hbody : t.body = s.body)
    (hconditions : t.conditions = s.conditions) : t.Tidy opened where
  toc := htoc ▸ h.toc
  body := hbody ▸ h.body
  conditions := hconditions ▸ h.conditions
  menus := htoc ▸ h.menus
  choices := hbody ▸ h.choices

/-- An item of the table of contents is tidy, and its tags lead to the menus that are open then. -/
theorem writeToc (h : s.Tidy opened) {item : TocItem} (hitem : item.Tidy)
    (hmenus : depthAfter (opened.count .menu + 1) item.tags = some (next.count .menu + 1))
    (hchoices : next.count .choice = opened.count .choice) :
    (s.writeToc item).Tidy next where
  toc := forall_mem_writeToc h.toc hitem
  body := h.body
  conditions := h.conditions
  menus := by
    simp only [WalkState.writeToc, Array.toList_push, List.flatMap_append, List.flatMap_cons,
      List.flatMap_nil, List.append_nil, Check.depthAfter_append, h.menus, Option.bind_some]
    exact hmenus
  choices := by
    rw [hchoices]
    exact h.choices

theorem writeBody (h : s.Tidy opened) {item : BodyItem} (hitem : item.Tidy)
    (hchoices : depthAfter (opened.count .choice) item.tags = some (next.count .choice))
    (hmenus : next.count .menu = opened.count .menu) :
    (s.writeBody item).Tidy next where
  toc := h.toc
  body := forall_mem_writeBody h.body hitem
  conditions := h.conditions
  menus := by
    rw [hmenus]
    exact h.menus
  choices := by
    simp only [WalkState.writeBody, Array.toList_push, List.flatMap_append, List.flatMap_cons,
      List.flatMap_nil, List.append_nil, Check.depthAfter_append, h.choices, Option.bind_some]
    exact hchoices

theorem writePlainBody (h : s.Tidy opened) {item : BodyItem} (hitem : item.Tidy)
    (htags : item.tags = []) : (s.writeBody item).Tidy opened :=
  h.writeBody hitem (by rw [htags]; rfl) rfl

theorem withCounters (h : s.Tidy opened) (counters : List Nat) :
    (s.withCounters counters).Tidy opened := h.of_eq rfl rfl rfl

/-- A menu has its link and its heading, and a list for the links to what is in it. -/
theorem announceMenu (h : s.Tidy opened) (line : Line) :
    (s.announceMenu (Prompt.extract line.rest)).Tidy (.menu :: opened) := by
  have hcaption : Quiet (Markup.caption "Menu" (Prompt.extract line.rest)) :=
    .caption (.of_isQuiet (by decide)) line
  have hanchor := Anchor.isName_menu s.nesting.menuNumber
  have hlink : (s.writeToc (.block s.nesting.menuAnchor s.number _)).Tidy opened :=
    h.writeToc ⟨hanchor, hcaption⟩ rfl rfl
  have hlist : ((s.writeToc _).writeToc .openList).Tidy (.menu :: opened) :=
    hlink.writeToc trivial (by simp [TocItem.tags, depthAfter]) (by simp)
  have hheading : (((s.writeToc _).writeToc .openList).writeBody
      (.menu s.nesting.menuAnchor s.number _)).Tidy (.menu :: opened) :=
    hlist.writePlainBody ⟨hanchor, hcaption⟩ rfl
  exact hheading.of_eq rfl rfl rfl

/-- A choice has its link and its heading, and a list for the entries in it. -/
theorem announceChoice (h : s.Tidy opened) (line : Line) :
    (s.announceChoice (Prompt.extract line.rest)).Tidy (.choice :: opened) := by
  have hcaption : Quiet (Markup.caption "Choice" (Prompt.extract line.rest)) :=
    .caption (.of_isQuiet (by decide)) line
  have hanchor := Anchor.isName_choice s.nesting.choiceNumber
  have hlink : (s.writeToc (.block s.nesting.choiceAnchor s.number _)).Tidy opened :=
    h.writeToc ⟨hanchor, hcaption⟩ rfl rfl
  have hheading : ((s.writeToc _).writeBody (.choice s.nesting.choiceAnchor s.number _)).Tidy opened :=
    hlink.writePlainBody ⟨hanchor, hcaption⟩ rfl
  have hlist : (((s.writeToc _).writeBody _).writeBody .openList).Tidy (.choice :: opened) :=
    hheading.writeBody trivial (by simp [BodyItem.tags, depthAfter]) (by simp)
  exact hlist.of_eq rfl rfl rfl

theorem closeMenu (h : s.Tidy (.menu :: opened)) : (s.writeToc .closeList).Tidy opened :=
  h.writeToc trivial (by simp [TocItem.tags, depthAfter]) (by simp)

theorem closeChoice (h : s.Tidy (.choice :: opened)) : (s.writeBody .closeList).Tidy opened :=
  h.writeBody trivial (by simp [BodyItem.tags, depthAfter]) (by simp)

theorem listEntry (h : s.Tidy opened) {entry : Entry} (hentry : entry.Tidy) (counters : List Nat) :
    (Walk.listEntry s entry counters).Tidy opened := by
  have hlink : (s.writeToc (.config entry s.number)).Tidy opened := h.writeToc hentry rfl rfl
  exact (hlink.withCounters counters).writePlainBody hentry rfl

theorem writeDetails (h : s.Tidy opened) {entry : Entry} (hentry : entry.Tidy) {path : Text}
    (hpath : '"' ∉ path) : (s.writeBody (.details entry path)).Tidy opened :=
  h.writeBody ⟨hentry, hpath⟩ rfl rfl

end WalkState.Tidy

namespace Walk

variable {ctx : WalkContext} {s t : WalkState} {opened next : List BlockKind}

theorem leads_renderEntry (hlayout : ctx.layout.Tidy) {entry : Entry} (hentry : entry.Tidy)
    (hdirectory : '"' ∉ entry.directory) :
    Keeps (WalkState.Tidy opened) Anywhere (renderEntry ctx entry) := by
  refine .renderEntry (fun _ _ hs _ => hs.of_eq rfl rfl rfl) (fun _ _ _ _ => trivial) ?_ ?_
  · intro s counter outer hs _ _
    refine ⟨trivial, fun path hpath => ?_⟩
    exact (hs.listEntry hentry _).writeDetails hentry (hlayout.filePath hdirectory hpath)
  · intro s hs _
    have hheading : (s.writeBody (.config entry none)).Tidy opened := hs.writePlainBody hentry rfl
    refine ⟨trivial, fun path hpath => ?_⟩
    exact hheading.writeDetails hentry (hlayout.filePath hdirectory hpath)

theorem leads_openMenu (line : Line) :
    Leads (WalkState.Tidy opened) (WalkState.Tidy (.menu :: opened)) Anywhere (openMenu line) := by
  refine .openMenu (fun s hs => ?_) (fun _ _ => trivial)
  exact (hs.announceMenu line).withCounters _

theorem leads_openChoice (line : Line) :
    Leads (WalkState.Tidy opened) (WalkState.Tidy (.choice :: opened)) Anywhere
      (openChoice line) := by
  refine .openChoice (fun s hs => ?_) (fun _ _ => trivial)
  exact (hs.announceChoice line).of_eq rfl rfl rfl

theorem leads_closeMenu (line : Line) :
    Leads (WalkState.Tidy (.menu :: opened)) (WalkState.Tidy opened) Anywhere (closeMenu line) := by
  refine .closeMenu (fun s last counter outer hs _ => ?_) (fun _ _ _ => trivial)
  exact hs.closeMenu.withCounters _

theorem leads_closeChoice (line : Line) :
    Leads (WalkState.Tidy (.choice :: opened)) (WalkState.Tidy opened) Anywhere
      (closeChoice line) := by
  refine .closeChoice (fun s last counter outer hs _ => ?_) (fun _ _ _ => trivial)
  exact hs.closeChoice.of_eq rfl rfl rfl

theorem leads_pushCondition {line : Line} (hline : '"' ∉ line.rest) :
    Keeps (WalkState.Tidy opened) Anywhere (pushCondition line) := by
  refine .pushCondition (fun _ _ => trivial) fun s conditions hs hpush => ?_
  have hstack : conditions.stack = line.rest :: s.conditions.stack := by
    unfold Conditions.push at hpush
    rcases hreached : s.conditions.capacity.reached s.conditions.height with m | _ | _
    · simp [hreached] at hpush
    · simp only [hreached, Except.ok.injEq] at hpush
      rw [← hpush]
    · simp [hreached] at hpush
  refine ⟨hs.toc, hs.body, fun text htext => ?_, hs.menus, hs.choices⟩
  rw [hstack] at htext
  rcases List.mem_cons.1 htext with rfl | htext
  · exact hline
  · exact hs.conditions text htext

theorem leads_popCondition (line : Line) :
    Keeps (WalkState.Tidy opened) Anywhere (popCondition line) := by
  refine .popCondition (fun _ _ => trivial) fun s popped hs hpop => ?_
  have hstack : s.conditions.stack = popped.1 :: popped.2.stack := by
    unfold Conditions.pop at hpop
    cases hconditions : s.conditions.stack with
    | nil => simp [hconditions] at hpop
    | cons condition outer =>
        simp only [hconditions, Except.ok.injEq] at hpop
        rw [← hpop]
  refine ⟨hs.toc, hs.body, fun text htext => ?_, hs.menus, hs.choices⟩
  exact hs.conditions text (hstack ▸ List.mem_cons_of_mem _ htext)

theorem leads_note (record : LogRecord) : Keeps (WalkState.Tidy opened) Anywhere (note record) :=
  .change fun _ hs => hs.of_eq rfl rfl rfl

section

variable {visit : Text → Walk Unit} {directory : Text} {line : Line} {after : List Line}

/-- A line that opens a block has its effect, and then it is said which block is entered. -/
theorem leads_opening {kind : BlockKind} (hk : line.keyword? = some kind.opening) :
    Leads (WalkState.Tidy opened) (WalkState.Tidy (kind :: opened)) Anywhere
      (effect ctx visit directory line after) := by
  cases kind with
  | menu =>
      rw [effect_menu after hk]
      exact .bind (leads_openMenu line) fun _ => .bind .get fun _ => leads_note _
  | choice =>
      rw [effect_choice after hk]
      exact .bind (leads_openChoice line) fun _ => .bind .get fun _ => leads_note _

theorem leads_closing {kind : BlockKind} (hk : line.keyword? = some kind.closing) :
    Leads (WalkState.Tidy (kind :: opened)) (WalkState.Tidy opened) Anywhere
      (effect ctx visit directory line after) := by
  cases kind with
  | menu =>
      rw [effect_endMenu after hk]
      exact leads_closeMenu line
  | choice =>
      rw [effect_endChoice after hk]
      exact leads_closeChoice line

/-- The entry that a tidy line declares is written tidily, under whatever conditions are in force. -/
theorem leads_declared (hlayout : ctx.layout.Tidy) (hdirectory : '"' ∉ directory)
    (hline : line.Tidy) (hafter : ∀ other ∈ after, other.Tidy) (hdeclares : line.declares)
    (conditions : List Text) :
    Leads (fun s => s.Tidy opened ∧ s.conditions.inForce = conditions) (WalkState.Tidy opened)
      Anywhere (renderEntry ctx (line.entry directory conditions after)) := by
  rintro s ⟨hs, rfl⟩
  have hconditions : ∀ text ∈ s.conditions.inForce, '"' ∉ text := fun text htext =>
    hs.conditions text (List.mem_reverse.1 htext)
  have hentry := hline.entry hdeclares hconditions hafter directory
  have hplace : '"' ∉ (line.entry directory s.conditions.inForce after).directory := by
    rw [Line.entry, Entry.directory_withLines]
    exact hdirectory
  exact leads_renderEntry hlayout hentry hplace s hs

/-- A line that leaves the open blocks as they are keeps a state tidy, when what it sources does. -/
theorem tidy_onward (hlayout : ctx.layout.Tidy) (hdirectory : '"' ∉ directory)
    (hvisit : ∀ d u, '"' ∉ d → u.Tidy opened → visit d u = .ok () t → t.Tidy opened)
    (hline : line.Tidy) (hafter : ∀ other ∈ after, other.Tidy) (hs : s.Tidy opened)
    (hturn : line.turn = .onward) (h : effect ctx visit directory line after s = .ok () t) :
    t.Tidy opened := by
  -- What is sourced is known to be tidy where the walk ends in `t` only, so it stands apart.
  by_cases hsource : line.keyword? = some .source
  · rw [effect_source after hsource] at h
    rcases sourceLine_ok_cases h with ⟨record, rfl⟩ | ⟨resolved, record, hresolve, hvisited⟩
    · exact hs.of_eq rfl rfl rfl
    · have hpath : ∀ path ∈ Layout.dequote (Text.firstWord line.rest), '"' ∉ path := by
        simpa only [Line.Tidy, hsource] using hline
      have hnoted : (s.note record).Tidy opened := hs.of_eq rfl rfl rfl
      exact hvisit _ _ (hlayout.resolve hpath hresolve) hnoted hvisited
  · have hnote : ∀ record s, WalkState.Tidy opened s → WalkState.Tidy opened (s.note record) :=
      fun _ _ hs => hs.of_eq rfl rfl rfl
    have hkept : Keeps (WalkState.Tidy opened) Anywhere (effect ctx visit directory line after) := by
      apply Leads.effect hnote hnote
      · exact fun _ _ hs => hs
      · exact fun hk => absurd hk hsource
      · exact fun hk => by simp [Line.turn, hk] at hturn
      · exact fun hk => by simp [Line.turn, hk] at hturn
      · exact fun hk => by simp [Line.turn, hk] at hturn
      · exact fun hk => by simp [Line.turn, hk] at hturn
      · intro hk
        have hrest : '"' ∉ line.rest := by simpa only [Line.Tidy, hk] using hline
        exact leads_pushCondition hrest
      · exact fun _ => leads_popCondition line
      · exact leads_declared hlayout hdirectory hline hafter
    exact hkept.of_ok hs h

/-- What a line does to a tidy state, when what it sources keeps states tidy. -/
theorem tidy_effect (hlayout : ctx.layout.Tidy) (hdirectory : '"' ∉ directory)
    (hvisit : ∀ d u, '"' ∉ d → u.Tidy opened → visit d u = .ok () t → t.Tidy opened)
    (hline : line.Tidy) (hafter : ∀ other ∈ after, other.Tidy) (hs : s.Tidy opened)
    (hwithin : line.within opened = some next)
    (h : effect ctx visit directory line after s = .ok () t) : t.Tidy next := by
  rcases Line.within_cases hwithin with ⟨kind, hk, rfl⟩ | ⟨kind, hk, rfl⟩ | ⟨hturn, rfl⟩
  · exact (leads_opening hk).of_ok hs h
  · exact (leads_closing hk).of_ok hs h
  · exact tidy_onward hlayout hdirectory hvisit hline hafter hs hturn h

end

/-- All files that were opened are orderly. -/
def OpenedOrderly (ctx : WalkContext) (s : WalkState) : Prop :=
  ∀ path ∈ s.opened.toList, ctx.Orderly path

theorem OpenedOrderly.of_extends (h : OpenedOrderly ctx t) (hst : s.Extends t) :
    OpenedOrderly ctx s := fun path hpath => h path (hst.opened.subset hpath)

/-- What the walk of a file has to keep. -/
def KeepsTidy (ctx : WalkContext) (visit : Text → Walk Unit) : Prop :=
  ∀ opened directory s t, '"' ∉ directory → s.Tidy opened → visit directory s = .ok () t →
    OpenedOrderly ctx t → t.Tidy opened

/-- The lines of an orderly file close all blocks that they open, by induction on how many lines are
left. The blocks in `outer` are those of the files around this one. -/
theorem tidy_flatLines {depth : Nat} {directory : Text} {lines left : List Line}
    {outer : List BlockKind} (hlayout : ctx.layout.Tidy) (hdirectory : '"' ∉ directory)
    (hvisit : KeepsTidy ctx (file ctx depth)) (hnested : blocksAfter opened lines = some [])
    (hlines : ∀ line ∈ lines, line.Tidy) (hs : s.Tidy (opened ++ outer))
    (h : flatLines ctx (file ctx depth) directory opened.length lines s = .ok left t)
    (hopened : OpenedOrderly ctx t) : t.Tidy outer := by
  induction hlength : lines.length using Nat.strongRecOn generalizing lines opened s with
  | ind length ih =>
      subst hlength
      cases lines with
      | nil =>
          obtain rfl : opened = [] := Option.some.inj hnested
          rw [flatLines_nil, pure_apply, EStateM.Result.ok.injEq] at h
          rw [← h.2]
          exact hs
      | cons line after =>
          rw [flatLines_cons] at h
          obtain ⟨_, u, heffect, hrest⟩ := exists_of_bind_ok h
          rw [blocksAfter_cons] at hnested
          obtain ⟨next, hwithin, hnext⟩ := Option.bind_eq_some_iff.1 hnested
          have hleft : flatLines ctx (file ctx depth) directory next.length (line.behind after) u =
              .ok left t := by
            rcases Line.within_cases hwithin with ⟨kind, hk, rfl⟩ | ⟨kind, hk, rfl⟩ | ⟨hturn, rfl⟩
            · simpa only [Line.turn_of_opening hk, List.length_cons] using hrest
            · simpa only [Line.turn_of_closing hk, List.length_cons] using hrest
            · simpa only [hturn] using hrest
          have hgrown : u.Extends t :=
            ((steady_extends ctx u).flatLines ((steady_extends ctx u).file depth) _ _).of_ok
              (.refl u) hleft
          have hafter : ∀ other ∈ after, other.Tidy := fun other hother =>
            hlines other (List.mem_cons_of_mem _ hother)
          have hu : u.Tidy (next ++ outer) :=
            tidy_effect hlayout hdirectory
              (fun d v hd hv hvisited => hvisit _ d v u hd hv hvisited (hopened.of_extends hgrown))
              (hlines line List.mem_cons_self) hafter hs (Line.within_append hwithin outer) heffect
          have hshorter : (line.behind after).length < (line :: after).length :=
            Nat.lt_succ_of_le (line.length_behind_le after)
          exact ih _ hshorter (by rw [blocksAfter_behind, hnext])
            (fun other hother => hafter other ((line.behind_sublist after).mem hother)) hu hleft rfl

/-- The walk of a file leaves as many lists open as it found, by induction on how many files may be
open. -/
theorem tidy_file (hlayout : ctx.layout.Tidy) (depth : Nat) : KeepsTidy ctx (file ctx depth) := by
  induction depth with
  | zero =>
      intro opened directory s t _ _ h
      simp [file] at h
  | succ depth ih =>
      intro opened directory s t hdirectory hs h hopened
      rw [file_succ] at h
      obtain ⟨lines, u, hopen, hwalk⟩ := exists_of_bind_ok h
      obtain ⟨left, v, hlines, hunread⟩ := exists_of_bind_ok hwalk
      rw [modify_apply, EStateM.Result.ok.injEq] at hunread
      obtain ⟨path, text, -, htext, hcut, hu⟩ := eq_of_openFile_ok hopen
      have hut : u.Tidy opened :=
        hs.of_eq (by rw [hu]; rfl) (by rw [hu]; rfl) (by rw [hu]; rfl)
      have hgrown : u.Extends v :=
        ((steady_extends ctx u).blockLines ((steady_extends ctx u).file depth) lines).of_ok
          (.refl u) hlines
      have hv : OpenedOrderly ctx v := by
        rw [← hunread.2] at hopened
        exact hopened
      have hpath : path ∈ v.opened.toList := hgrown.opened.subset (by simp [hu])
      obtain ⟨hnested, htidy⟩ := (hv path hpath).of_lines htext hcut
      rw [blockLines_eq_flatLines] at hlines
      have hvt := tidy_flatLines hlayout hdirectory ih hnested htidy hut hlines hv
      exact hvt.of_eq (by rw [← hunread.2]) (by rw [← hunread.2]) (by rw [← hunread.2])

theorem tidy_rooted (maxLevels maxConditions : Limit) (showInternal : Bool) {banner : Text}
    (hbanner : Quiet banner) :
    (WalkState.rooted maxLevels maxConditions showInternal banner).Tidy [] where
  toc := by
    simp only [WalkState.rooted, List.mem_singleton, forall_eq]
    exact ⟨Anchor.isName_menu 0, hbanner⟩
  body := by
    simp only [WalkState.rooted, List.mem_singleton, forall_eq]
    exact ⟨Anchor.isName_menu 0, hbanner⟩
  conditions := by simp [WalkState.rooted, WalkState.numbered, WalkState.fresh, Conditions.fresh]
  menus := rfl
  choices := rfl

/-- A run that ends has written tidy items, which close all lists that they open and the one around
the table of contents. -/
theorem tidy_run {root : Option Text} {maxLevels maxConditions : Limit} {showInternal : Bool}
    (hlayout : ctx.layout.Tidy) (hbanner : ∀ banner, ctx.bannerText = .ok banner → Quiet banner)
    (hroot : '"' ∉ startDirectory ctx root)
    (h : run ctx root (.fresh maxLevels maxConditions showInternal) = .ok () t)
    (hopened : OpenedOrderly ctx t) :
    (∀ item ∈ t.toc.toList, item.Tidy) ∧ (∀ item ∈ t.body.toList, item.Tidy) ∧
      depthAfter 1 (t.toc.toList.flatMap TocItem.tags ++ t.body.toList.flatMap BodyItem.tags) =
        some 0 := by
  obtain ⟨banner, u, hshown, rfl, hwalk⟩ := processFile_of_run_ok h
  obtain ⟨_, v, hget, hfile⟩ := exists_of_bind_ok hwalk
  rw [get_apply, EStateM.Result.ok.injEq] at hget
  rw [← hget.2] at hfile
  have hrooted := tidy_rooted maxLevels maxConditions showInternal (hbanner banner hshown)
  have hu : OpenedOrderly ctx u := hopened
  have hwalked := tidy_file hlayout _ [] _ _ _ hroot hrooted hfile hu
  have hlist : ∀ item ∈ (u.writeToc .closeList).toc.toList, item.Tidy :=
    WalkState.forall_mem_writeToc hwalked.toc trivial
  refine ⟨hlist, hwalked.body, ?_⟩
  have hmenus := hwalked.menus
  have hchoices := hwalked.choices
  simp only [List.count_nil, Nat.zero_add] at hmenus hchoices
  simp only [WalkState.closed, WalkState.writeToc, Array.toList_push, List.flatMap_append,
    List.flatMap_cons, List.flatMap_nil, Check.depthAfter_append, hmenus, Option.bind_some,
    TocItem.tags, depthAfter, List.append_nil]
  exact hchoices

end Walk

end KconfigReference
