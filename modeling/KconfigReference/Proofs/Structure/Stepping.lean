import KconfigReference.Proofs.Structure.Rendering

/-!
A walk along a structure. A place in the structure determines the numbering and the conditions of a
state; each line takes the walk from the state of one place to that of the next, and writes its part
of the rendering.
-/

namespace KconfigReference

/-- Whether counts from 0 up to a height may be entered, one after the other. -/
def Limit.Admits (limit : Limit) (height : Nat) : Prop :=
  ∀ count < height, limit.reached count = .ok false

/-- A number is a limit up to which heights are admitted. -/
theorem Limit.admits_count {n : Int} {height : Nat} :
    (Limit.count n).Admits height ↔ height ≤ n.toNat := by
  simp only [Admits, reached_count, Except.ok.injEq, decide_eq_false_iff_not]
  constructor
  · intro h
    refine Nat.le_of_not_lt fun hlt => h n.toNat hlt ?_
    omega
  · intro h count hcount
    omega

theorem Limit.Admits.mono {limit : Limit} {height lower : Nat} (h : limit.Admits height)
    (hle : lower ≤ height) : limit.Admits lower :=
  fun count hcount => h count (Nat.lt_of_lt_of_le hcount hle)

/-- The state of a walk at a place. -/
structure Stands (maxLevels maxConditions : Limit) (showInternal : Bool) (around : Surroundings)
    (taken : Taken) (s : WalkState) : Prop where
  nesting : s.nesting = ⟨maxLevels, (taken.paragraphs + 1) :: around.outer.reverse, around.choices,
    taken.menus, taken.choices⟩
  conditions : s.conditions = ⟨maxConditions, around.conditions.reverse⟩
  showInternal : s.showInternal = showInternal

/-- From one state to another a rendering was written. -/
structure Wrote (s t : WalkState) (written : Rendering) : Prop where
  toc : t.toc.toList = s.toc.toList ++ written.toc
  body : t.body.toList = s.body.toList ++ written.body

namespace Wrote

variable {s t u : WalkState} {first second : Rendering}

theorem nothing (htoc : t.toc = s.toc) (hbody : t.body = s.body) : Wrote s t .empty :=
  ⟨by simp [htoc, Rendering.empty], by simp [hbody, Rendering.empty]⟩

/-- What was noted in between does not matter. -/
theorem of_note {record : Option LogRecord} (h : Wrote (record.elim s s.note) t first) :
    Wrote s t first := by
  cases record with
  | none => exact h
  | some record => exact ⟨h.toc, h.body⟩

theorem trans (h : Wrote s t first) (h' : Wrote t u second) : Wrote s u (first ++ second) :=
  ⟨by simp [h'.toc, h.toc], by simp [h'.body, h.body]⟩

theorem announceMenu (s : WalkState) (title : Option Text) :
    Wrote s (s.announceMenu title)
      (BlockKind.menu.opened s.nesting.menuAnchor s.number (Markup.caption "Menu" title)) :=
  ⟨by simp [WalkState.announceMenu, BlockKind.opened],
    by simp [WalkState.announceMenu, BlockKind.opened]⟩

theorem announceChoice (s : WalkState) (title : Option Text) :
    Wrote s (s.announceChoice title)
      (BlockKind.choice.opened s.nesting.choiceAnchor s.number (Markup.caption "Choice" title)) :=
  ⟨by simp [WalkState.announceChoice, BlockKind.opened],
    by simp [WalkState.announceChoice, BlockKind.opened]⟩

end Wrote

namespace Stands

variable {maxLevels maxConditions : Limit} {showInternal : Bool} {around : Surroundings}
  {taken : Taken} {s : WalkState}

theorem number_eq (h : Stands maxLevels maxConditions showInternal around taken s) :
    s.number = around.number taken := by
  simp [WalkState.number, Surroundings.number, h.nesting]

theorem level_eq (h : Stands maxLevels maxConditions showInternal around taken s) :
    s.nesting.level = around.outer.length + 1 := by
  simp [Nesting.level, h.nesting]

/-- What a state says about itself does not matter. -/
theorem note (h : Stands maxLevels maxConditions showInternal around taken s)
    (record : LogRecord) : Stands maxLevels maxConditions showInternal around taken (s.note record) :=
  ⟨h.nesting, h.conditions, h.showInternal⟩

theorem noteIf (h : Stands maxLevels maxConditions showInternal around taken s)
    (record : Option LogRecord) :
    Stands maxLevels maxConditions showInternal around taken (record.elim s s.note) := by
  cases record with
  | none => exact h
  | some record => exact h.note record

/-- The directory of a place is not in the state. -/
theorem inFile (h : Stands maxLevels maxConditions showInternal around taken s)
    (directory : Text) :
    Stands maxLevels maxConditions showInternal (around.inFile directory) taken s :=
  ⟨h.nesting, h.conditions, h.showInternal⟩

end Stands

namespace Walk

variable {ctx : WalkContext} {visit : Text → Walk Unit} {directory : Text}
  {maxLevels maxConditions : Limit} {showInternal : Bool} {around : Surroundings} {taken : Taken}
  {s : WalkState}

/-- The walk after a line that opens a block: its items, and then what comes after them. -/
theorem blockLines_opening {kind : BlockKind} {line : Line} {after : List Line} {t : WalkState}
    (hk : line.keyword? = some kind.opening)
    (h : effect ctx visit directory line after s = .ok () t) :
    blockLines ctx visit directory (line :: after) s =
      (blockLines ctx visit directory after >>= blockLines ctx visit directory) t := by
  have hturn := Line.turn_of_opening hk
  rw [blockLines_cons, bind_apply, h, Line.behind_of_turn_ne (by simp [hturn])]
  simp only [hturn, proceed]

/-- The walk after a line that closes a block. -/
theorem blockLines_closing {kind : BlockKind} {line : Line} {after : List Line} {t : WalkState}
    (hk : line.keyword? = some kind.closing)
    (h : effect ctx visit directory line after s = .ok () t) :
    blockLines ctx visit directory (line :: after) s = .ok after t := by
  have hturn := Line.turn_of_closing hk
  rw [blockLines_cons, bind_apply, h, Line.behind_of_turn_ne (by simp [hturn])]
  simp only [hturn, proceed, pure_apply]

/-- The walk after a line that neither opens nor closes a block. -/
theorem blockLines_onward {line : Line} {after : List Line} {t : WalkState}
    (hturn : line.turn = .onward) (h : effect ctx visit directory line after s = .ok () t) :
    blockLines ctx visit directory (line :: after) s =
      blockLines ctx visit directory (line.behind after) t := by
  rw [blockLines_cons, bind_apply, h]
  simp only [hturn, proceed]

/-- The walk after a line that neither opens nor closes a block and takes no lines after it. -/
theorem blockLines_plain {line : Line} {after : List Line} {t : WalkState}
    (hplain : line.turn = .onward ∧ ¬line.declares)
    (h : effect ctx visit directory line after s = .ok () t) :
    blockLines ctx visit directory (line :: after) s = blockLines ctx visit directory after t := by
  rw [blockLines_onward hplain.1 h, Line.behind, if_neg hplain.2]

/-- The walk of a block with its lines, up to the lines after it. -/
theorem blockLines_block {kind : BlockKind} {opener closer : Line} {inner after : List Line}
    {t u v : WalkState} (hopener : opener.keyword? = some kind.opening)
    (hcloser : closer.keyword? = some kind.closing)
    (hopen : effect ctx visit directory opener (inner ++ closer :: after) s = .ok () t)
    (hinner : blockLines ctx visit directory (inner ++ closer :: after) t =
      blockLines ctx visit directory (closer :: after) u)
    (hclose : effect ctx visit directory closer after u = .ok () v) :
    blockLines ctx visit directory (opener :: (inner ++ closer :: after)) s =
      blockLines ctx visit directory after v := by
  have hinside : blockLines ctx visit directory (inner ++ closer :: after) t = .ok after v :=
    hinner.trans (blockLines_closing hcloser hclose)
  rw [blockLines_opening hopener hopen, bind_apply, hinside]

section Steps

variable (ctx visit directory)

/-- An opening line leads into its block. -/
theorem opening_step {kind : BlockKind} {line : Line} (hk : line.keyword? = some kind.opening)
    (hs : Stands maxLevels maxConditions showInternal around taken s)
    (hlevel : maxLevels.reached (around.outer.length + 1) = .ok false) (after : List Line) :
    ∃ t, effect ctx visit directory line after s = .ok () t ∧
      Stands maxLevels maxConditions showInternal (around.within kind (around.number taken))
        (taken.entering kind) t ∧
      Wrote s t (kind.opened (kind.anchor (taken.blocks kind)) (around.number taken)
        (Markup.caption kind.word (Prompt.extract line.rest))) := by
  have hreached : s.nesting.maxLevels.reached s.nesting.level = .ok false := by
    rw [hs.level_eq, hs.nesting]
    exact hlevel
  have hnumber := hs.number_eq
  cases kind with
  | menu =>
      have hanchor : s.nesting.menuAnchor = Anchor.menu taken.menus := by
        rw [hs.nesting]
        rfl
      have hwrote := Wrote.announceMenu s (Prompt.extract line.rest)
      rw [hanchor, hnumber] at hwrote
      rw [effect_menu after hk]
      simp only [bind_apply, openMenu_apply, hreached, get_apply, debug_apply]
      refine ⟨_, rfl, ⟨?_, hs.conditions, hs.showInternal⟩, ⟨hwrote.toc, hwrote.body⟩⟩
      simp [WalkState.note, WalkState.withCounters, WalkState.announceMenu,
        Nesting.pastMenuAnchor, hs.nesting, Surroundings.within, Surroundings.number,
        Taken.entering]
  | choice =>
      have hanchor : s.nesting.choiceAnchor = Anchor.choice taken.choices := by
        rw [hs.nesting]
        rfl
      have hwrote := Wrote.announceChoice s (Prompt.extract line.rest)
      rw [hanchor, hnumber] at hwrote
      rw [effect_choice after hk]
      simp only [bind_apply, openChoice_apply, hreached, get_apply, debug_apply]
      refine ⟨_, rfl, ⟨?_, hs.conditions, hs.showInternal⟩, ⟨hwrote.toc, hwrote.body⟩⟩
      simp [WalkState.note, WalkState.withCounters, WalkState.announceChoice,
        WalkState.enterChoice, Nesting.pastChoiceAnchor, hs.nesting, Surroundings.within,
        Surroundings.number, Taken.entering]

/-- A closing line leads out of its block, and uses up the number of the block. -/
theorem closing_step {kind : BlockKind} {line : Line} (hk : line.keyword? = some kind.closing)
    {atEnd : Taken} (hs : Stands maxLevels maxConditions showInternal
      (around.within kind (around.number taken)) atEnd s) (after : List Line) :
    ∃ t, effect ctx visit directory line after s = .ok () t ∧
      Stands maxLevels maxConditions showInternal around (taken.leaving atEnd) t ∧
      Wrote s t kind.closed := by
  have hcounters : s.nesting.counters =
      (atEnd.paragraphs + 1) :: (taken.paragraphs + 1) :: around.outer.reverse := by
    simp [hs.nesting, Surroundings.within, Surroundings.number]
  cases kind with
  | menu =>
      rw [effect_endMenu after hk, closeMenu_apply, hcounters]
      refine ⟨_, rfl, ⟨?_, hs.conditions, hs.showInternal⟩, ⟨?_, ?_⟩⟩
      · simp [WalkState.withCounters, WalkState.writeToc, hs.nesting, Surroundings.within,
          Taken.leaving]
      · simp [WalkState.writeToc, BlockKind.closed]
      · simp [WalkState.writeToc, BlockKind.closed]
  | choice =>
      rw [effect_endChoice after hk, closeChoice_apply, hcounters]
      refine ⟨_, rfl, ⟨?_, hs.conditions, hs.showInternal⟩, ⟨?_, ?_⟩⟩
      · simp [WalkState.withCounters, WalkState.writeBody, WalkState.leaveChoice, hs.nesting,
          Surroundings.within, Taken.leaving]
      · simp [WalkState.writeBody, WalkState.leaveChoice, BlockKind.closed]
      · simp [WalkState.writeBody, WalkState.leaveChoice, BlockKind.closed]

/-- A condition comes into force. -/
theorem if_step {line : Line} (hk : line.keyword? = some .ifWord)
    (hs : Stands maxLevels maxConditions showInternal around taken s)
    (hheight : maxConditions.reached around.conditions.length = .ok false) (after : List Line) :
    ∃ t, effect ctx visit directory line after s = .ok () t ∧
      Stands maxLevels maxConditions showInternal (around.under line.rest) taken t ∧
      Wrote s t .empty := by
  have hpush : s.conditions.push line.rest line.place =
      .ok ⟨maxConditions, line.rest :: around.conditions.reverse⟩ := by
    simp [Conditions.push, Conditions.height, hs.conditions, hheight]
  rw [effect_if after hk, pushCondition_apply, hpush]
  refine ⟨_, rfl, ⟨hs.nesting, ?_, hs.showInternal⟩, .nothing rfl rfl⟩
  simp [Surroundings.under]

/-- A condition ends. -/
theorem endIf_step {line : Line} (hk : line.keyword? = some .endIf) {condition : Text}
    (hs : Stands maxLevels maxConditions showInternal (around.under condition) taken s)
    (after : List Line) :
    ∃ t, effect ctx visit directory line after s = .ok () t ∧
      Stands maxLevels maxConditions showInternal around taken t ∧ Wrote s t .empty := by
  have hpop : s.conditions.pop line.place =
      .ok (condition, ⟨maxConditions, around.conditions.reverse⟩) := by
    simp [Conditions.pop, hs.conditions, Surroundings.under]
  rw [effect_endIf after hk, popCondition_apply, hpop]
  exact ⟨_, rfl, ⟨hs.nesting, rfl, hs.showInternal⟩, .nothing rfl rfl⟩

/-- An entry is rendered, and takes a number if it is shown outside all choices. -/
theorem renderEntry_step (line : Line) (attributes : List Line) {path : Text}
    (hpath : ctx.layout.filePath around.directory = .ok path)
    (hs : Stands maxLevels maxConditions showInternal around taken s) :
    ∃ t, renderEntry ctx (line.entryWith attributes around.directory around.conditions) s =
        .ok () t ∧
      Stands maxLevels maxConditions showInternal around
        (taken.past showInternal around.choices (.config line attributes .nil)) t ∧
      Wrote s t ((line.entryWith attributes around.directory around.conditions).rendering
        showInternal path around (around.number taken)) := by
  have hisHidden := line.isHidden_entryWith attributes around.directory around.conditions
  generalize hentry : line.entryWith attributes around.directory around.conditions = entry at *
  have hpath' : ctx.layout.filePath entry.directory = .ok path := by
    rw [← hentry, Line.entryWith, Entry.directory_withLines]
    exact hpath
  have hshows : Items.shows showInternal line attributes =
      !(entry.isHidden && !showInternal) := by
    rw [Items.shows, ← hisHidden]
    cases showInternal <;> cases entry.isHidden <;> rfl
  cases hhidden : (entry.isHidden && !showInternal) with
  | true =>
      rw [hhidden, Bool.not_true] at hshows
      have htaken : taken.past showInternal around.choices (.config line attributes .nil) =
          taken := by
        simp [Taken.past, Items.paragraphs, Items.blocks, hshows]
      rw [renderEntry_of_hidden (by rw [hs.showInternal]; exact hhidden), htaken,
        Entry.rendering, if_pos hhidden]
      exact ⟨_, rfl, hs.note _, .nothing rfl rfl⟩
  | false =>
      rw [hhidden, Bool.not_false] at hshows
      have hshown : (entry.isHidden && !s.showInternal) = false := by
        rw [hs.showInternal]
        exact hhidden
      rw [Entry.rendering, if_neg (by simp [hhidden])]
      by_cases hchoices : around.choices = 0
      · have hcounters : s.nesting.counters = (taken.paragraphs + 1) :: around.outer.reverse := by
          rw [hs.nesting]
        rw [renderEntry_outside hshown (by rw [hs.nesting]; exact hchoices) hcounters, hpath',
          if_pos hchoices]
        refine ⟨_, rfl, ⟨?_, hs.conditions, hs.showInternal⟩, ⟨?_, ?_⟩⟩
        · simp [listEntry, WalkState.writeBody, WalkState.writeToc, WalkState.withCounters,
            hs.nesting, Taken.past, Items.paragraphs, Items.blocks, hshows, hchoices]
        · simp [listEntry, WalkState.writeBody, WalkState.writeToc, hs.number_eq]
        · simp [listEntry, WalkState.writeBody, WalkState.writeToc, hs.number_eq]
      · rw [renderEntry_inside hshown (by rw [hs.nesting]; exact hchoices), hpath',
          if_neg hchoices]
        refine ⟨_, rfl, ⟨?_, hs.conditions, hs.showInternal⟩, ⟨?_, ?_⟩⟩
        · simp [WalkState.writeBody, hs.nesting, Taken.past, Items.paragraphs, Items.blocks,
            hchoices]
        · simp [WalkState.writeBody]
        · simp [WalkState.writeBody]

/-- A line that declares an entry renders it with its attribute lines. -/
theorem config_step {line : Line} {attributes after : List Line} {path : Text}
    (hline : line.declares) (hattributes : ∀ a ∈ attributes, a.isAttribute = true)
    (hafter : Line.NoAttributeFirst after)
    (hpath : ctx.layout.filePath around.directory = .ok path)
    (hs : Stands maxLevels maxConditions showInternal around taken s) :
    ∃ t, effect ctx visit around.directory line (attributes ++ after) s = .ok () t ∧
      Stands maxLevels maxConditions showInternal around
        (taken.past showInternal around.choices (.config line attributes .nil)) t ∧
      Wrote s t ((line.entryWith attributes around.directory around.conditions).rendering
        showInternal path around (around.number taken)) := by
  have hinForce : s.conditions.inForce = around.conditions := by
    simp [Conditions.inForce, hs.conditions]
  have hentry : line.entry around.directory s.conditions.inForce (attributes ++ after) =
      line.entryWith attributes around.directory around.conditions := by
    rw [Line.entry, Line.takeWhile_attributes hattributes hafter, hinForce, Line.entryWith]
  rw [effect_config (attributes ++ after) hline, hentry,
    Line.dropWhile_attributes hattributes hafter]
  obtain ⟨t, ht, hstands, hwrote⟩ := renderEntry_step ctx line attributes hpath
    (hs.noteIf (after.head?.map unhandled))
  exact ⟨t, ht, hstands, hwrote.of_note⟩

/-- A line that says nothing changes nothing. -/
theorem ignored_step {line : Line} (hline : line.keyword? = none ∨ line.isAttribute = true)
    (hs : Stands maxLevels maxConditions showInternal around taken s) (after : List Line) :
    ∃ t, blockLines ctx visit directory (line :: after) s =
        blockLines ctx visit directory after t ∧
      Stands maxLevels maxConditions showInternal around taken t ∧ Wrote s t .empty := by
  have hplain : line.turn = .onward ∧ ¬line.declares := by
    rcases hline with hk | hattribute
    · simp [Line.turn, Line.declares, hk]
    · have hdeclares : ¬line.declares := by
        rintro ⟨hk, -⟩
        simp [Line.isAttribute, Line.attribute?, hk] at hattribute
      exact ⟨Line.turn_of_isAttribute hattribute, hdeclares⟩
  have heffect : effect ctx visit directory line after s = .ok () (s.note (unhandled line)) := by
    rw [effect_of_ignored after hline, note_apply]
  exact ⟨_, blockLines_plain hplain heffect, hs.note (unhandled line), .nothing rfl rfl⟩

/-- Attribute lines without an entry above them change nothing. -/
theorem attributes_step {attributes : List Line}
    (hattributes : ∀ a ∈ attributes, a.isAttribute = true)
    (hs : Stands maxLevels maxConditions showInternal around taken s) (after : List Line) :
    ∃ t, blockLines ctx visit directory (attributes ++ after) s =
        blockLines ctx visit directory after t ∧
      Stands maxLevels maxConditions showInternal around taken t ∧ Wrote s t .empty := by
  induction attributes generalizing s with
  | nil => exact ⟨s, rfl, hs, .nothing rfl rfl⟩
  | cons line rest ih =>
      obtain ⟨t, ht, htstands, htwrote⟩ := ignored_step ctx visit directory
        (.inr (hattributes line List.mem_cons_self)) hs (rest ++ after)
      obtain ⟨u, hu, hustands, huwrote⟩ :=
        ih (fun a ha => hattributes a (List.mem_cons_of_mem _ ha)) htstands
      exact ⟨u, ht.trans hu, hustands, htwrote.trans huwrote⟩

/-- A source line hands its directory to the visit of files. -/
theorem source_step (s : WalkState) {target : Text} {line : Line} (hk : line.keyword? = some .source)
    (htarget : ctx.LeadsTo line target) (after : List Line) :
    ∃ record, effect ctx visit directory line after s = visit target (s.note record) := by
  obtain ⟨resolved, hresolved, hnameable, rfl⟩ := htarget
  refine ⟨.debug resolved.remark, ?_⟩
  simp only [effect_source after hk, sourceLine, bind_apply, hresolved, mapError_ok, lift_ok,
    debug_apply, hnameable, if_true]

/-- A file that can be read is opened without any change to the numbering, the conditions and the
streams. -/
theorem openFile_step {lines : List Line} (h : ctx.Reads directory lines)
    (hs : Stands maxLevels maxConditions showInternal around taken s) :
    ∃ t, openFile ctx directory s = .ok lines t ∧
      Stands maxLevels maxConditions showInternal around taken t ∧ Wrote s t .empty := by
  obtain ⟨path, text, size, hpath, htext, hsize, hfits, hlines⟩ := h.found
  have hcut : ctx.lineSize.lines path (Text.physicalLines text) = .ok lines := by
    rw [hsize, LineSize.lines, readLines_of_fits hfits, hlines]
  simp only [openFile, announce, bind_apply, hpath, htext, hcut, h.nameable, mapError_ok,
    lift_ok, get_apply, debug_apply, pure_apply, modify_apply, Bool.not_true, Bool.false_eq_true,
    if_false]
  exact ⟨_, rfl, ⟨hs.nesting, hs.conditions, hs.showInternal⟩, .nothing rfl rfl⟩

end Steps

end Walk

end KconfigReference
