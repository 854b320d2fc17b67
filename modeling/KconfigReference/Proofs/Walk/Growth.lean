import KconfigReference.Proofs.Walk.Flat

/-!
A walk only adds to what was written and to the files that were opened, also where it fails.
-/

namespace KconfigReference

/-- A later state has the streams and the opened files of an earlier one, and maybe more. -/
structure WalkState.Extends (s t : WalkState) : Prop where
  toc : s.toc.toList <+: t.toc.toList
  body : s.body.toList <+: t.body.toList
  opened : s.opened.toList <+: t.opened.toList

namespace WalkState.Extends

variable {s t u : WalkState}

theorem refl (s : WalkState) : s.Extends s :=
  ⟨List.prefix_rfl, List.prefix_rfl, List.prefix_rfl⟩

theorem trans (h : s.Extends t) (h' : t.Extends u) : s.Extends u :=
  ⟨h.toc.trans h'.toc, h.body.trans h'.body, h.opened.trans h'.opened⟩

/-- What is said of a state, its numbering and its conditions may change. -/
theorem of_eq (htoc : t.toc = s.toc) (hbody : t.body = s.body) (hopened : t.opened = s.opened) :
    s.Extends t :=
  ⟨htoc ▸ List.prefix_rfl, hbody ▸ List.prefix_rfl, hopened ▸ List.prefix_rfl⟩

theorem writeToc (s : WalkState) (item : TocItem) : s.Extends (s.writeToc item) :=
  ⟨by simp [WalkState.writeToc], List.prefix_rfl, List.prefix_rfl⟩

theorem writeBody (s : WalkState) (item : BodyItem) : s.Extends (s.writeBody item) :=
  ⟨List.prefix_rfl, by simp [WalkState.writeBody], List.prefix_rfl⟩

theorem announceMenu (s : WalkState) (title : Option Text) : s.Extends (s.announceMenu title) :=
  ⟨by simp [WalkState.announceMenu], by simp [WalkState.announceMenu], List.prefix_rfl⟩

theorem announceChoice (s : WalkState) (title : Option Text) :
    s.Extends (s.announceChoice title) :=
  ⟨by simp [WalkState.announceChoice], by simp [WalkState.announceChoice], List.prefix_rfl⟩

theorem listEntry (s : WalkState) (entry : Entry) (counters : List Nat) :
    s.Extends (Walk.listEntry s entry counters) := by
  have htoc := writeToc s (.config entry s.number)
  have hcounters : (s.writeToc (.config entry s.number)).Extends
      ((s.writeToc (.config entry s.number)).withCounters counters) := of_eq rfl rfl rfl
  exact (htoc.trans hcounters).trans (writeBody _ _)

end WalkState.Extends

namespace Walk

/-- A walk only adds to the state in which it starts. -/
theorem steady_extends (ctx : WalkContext) (start : WalkState) :
    Steady ctx start.Extends start.Extends where
  stop _ hs := hs
  note _ _ hs := hs.trans (.of_eq rfl rfl rfl)
  opened _ _ hs := hs.trans ⟨List.prefix_rfl, List.prefix_rfl, by simp⟩
  unread _ _ hs := hs.trans (.of_eq rfl rfl rfl)
  openMenu _ := by
    refine .openMenu (fun s hs => ?_) (fun s hs => ?_)
    · exact (hs.trans (.announceMenu s _)).trans (.of_eq rfl rfl rfl)
    · exact hs.trans (.announceMenu s _)
  closeMenu _ := by
    refine .closeMenu (fun s last counter outer hs _ => ?_) (fun s counters hs => ?_)
    · exact (hs.trans (.writeToc s .closeList)).trans (.of_eq rfl rfl rfl)
    · exact (hs.trans (.writeToc s .closeList)).trans (.of_eq rfl rfl rfl)
  openChoice _ := by
    refine .openChoice (fun s hs => ?_) (fun s hs => ?_)
    · exact (hs.trans (.announceChoice s _)).trans (.of_eq rfl rfl rfl)
    · exact hs.trans (.announceChoice s _)
  closeChoice _ := by
    refine .closeChoice (fun s last counter outer hs _ => ?_) (fun s counters hs => ?_)
    · exact (hs.trans (.writeBody s .closeList)).trans (.of_eq rfl rfl rfl)
    · exact (hs.trans (.writeBody s .closeList)).trans (.of_eq rfl rfl rfl)
  pushCondition _ := .pushCondition (fun _ hs => hs) (fun _ _ hs _ => hs.trans (.of_eq rfl rfl rfl))
  popCondition _ := .popCondition (fun _ hs => hs) (fun _ _ hs _ => hs.trans (.of_eq rfl rfl rfl))
  renderEntry entry := by
    refine .renderEntry (fun _ _ hs _ => hs.trans (.of_eq rfl rfl rfl)) ?_ ?_ ?_
    · intro s hs _ _
      exact hs.trans (.writeToc s _)
    · intro s counter outer hs _ _
      have hlisted := hs.trans (.listEntry s entry ((counter + 1) :: outer))
      exact ⟨hlisted, fun _ _ => hlisted.trans (.writeBody _ _)⟩
    · intro s hs _
      have hlisted := hs.trans (.writeBody s (.config entry none))
      exact ⟨hlisted, fun _ _ => hlisted.trans (.writeBody _ _)⟩

end Walk

end KconfigReference
