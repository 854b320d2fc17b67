import KconfigReference.Proofs.Walk.Lines
import KconfigReference.Walk.Run

/-!
Invariants of walks. A walk may leave its invariant for a moment inside a step, so that it may stop
in a state without it; what holds wherever a walk stops is a second, weaker property. Main
statement: what every step keeps is kept by the walk of a file, with all that it sources.
-/

namespace KconfigReference.Walk

/-- From a state with `before` the walk ends in one with `after` or stops in one with `fault`. -/
def Leads (before after fault : WalkState → Prop) (m : Walk α) : Prop :=
  ∀ s, before s →
    match m s with
    | .ok _ t => after t
    | .error _ t => fault t

/-- From a state with `inv` the walk ends in one with `inv`, or it stops in one with `fault`. -/
abbrev Keeps (inv fault : WalkState → Prop) (m : Walk α) : Prop := Leads inv inv fault m

/-- No state is said to be wrong where a walk fails. -/
def Anywhere (_ : WalkState) : Prop := True

variable {inv before between after fault : WalkState → Prop}

namespace Leads

theorem of_ok {m : Walk α} {s t : WalkState} {a : α} (h : Leads before after fault m)
    (hs : before s) (hm : m s = .ok a t) : after t := by
  have := h s hs
  rwa [hm] at this

theorem of_error {m : Walk α} {s t : WalkState} {e : Failure} (h : Leads before after fault m)
    (hs : before s) (hm : m s = .error e t) : fault t := by
  have := h s hs
  rwa [hm] at this

theorem mono {weaker : WalkState → Prop} {m : Walk α} (h : Leads before after fault m)
    (himp : ∀ s, after s → weaker s) : Leads before weaker fault m := by
  intro s hs
  have hm := h s hs
  cases hresult : m s with
  | ok a t =>
      rw [hresult] at hm
      exact himp t hm
  | error e t =>
      rw [hresult] at hm
      exact hm

theorem pure (a : α) : Keeps inv fault (Pure.pure a : Walk α) := fun _ hs => hs

theorem bind {m : Walk α} {f : α → Walk β} (hm : Leads before between fault m)
    (hf : ∀ a, Leads between after fault (f a)) : Leads before after fault (m >>= f) := by
  intro s hs
  rw [bind_apply]
  cases h : m s with
  | ok a t => exact hf a t (hm.of_ok hs h)
  | error e t => exact hm.of_error hs h

theorem map {m : Walk α} (h : Leads before after fault m) (f : α → β) :
    Leads before after fault (f <$> m) := by
  intro s hs
  rw [map_apply]
  cases hm : m s with
  | ok a t => exact h.of_ok hs hm
  | error e t => exact h.of_error hs hm

theorem get : Keeps inv fault (MonadState.get : Walk WalkState) := fun _ hs => hs

theorem change {f : WalkState → WalkState} (h : ∀ s, before s → after (f s)) :
    Leads before after fault (modify f : Walk Unit) := fun s hs => h s hs

theorem throw (stop : ∀ s, before s → fault s) (e : Failure) :
    Leads before after fault (MonadExcept.throw e : Walk α) := fun s hs => stop s hs

theorem lift (stop : ∀ s, inv s → fault s) (outcome : Except Failure α) :
    Keeps inv fault (Walk.lift outcome) := by
  cases outcome with
  | ok a => exact pure a
  | error e => exact throw stop e

theorem openMenu {line : Line}
    (hinside : ∀ s, before s → after ((s.announceMenu (Prompt.extract line.rest)).withCounters
      (1 :: s.nesting.counters)))
    (hannounced : ∀ s, before s → fault (s.announceMenu (Prompt.extract line.rest))) :
    Leads before after fault (openMenu line) := by
  intro s hs
  rw [openMenu_apply]
  rcases s.nesting.maxLevels.reached s.nesting.level with m | _ | _
  · exact hannounced s hs
  · exact hinside s hs
  · exact hannounced s hs

theorem openChoice {line : Line}
    (hinside : ∀ s, before s → after ((s.announceChoice (Prompt.extract line.rest)).withCounters
      (1 :: s.nesting.counters)).enterChoice)
    (hannounced : ∀ s, before s → fault (s.announceChoice (Prompt.extract line.rest))) :
    Leads before after fault (openChoice line) := by
  intro s hs
  rw [openChoice_apply]
  rcases s.nesting.maxLevels.reached s.nesting.level with m | _ | _
  · exact hannounced s hs
  · exact hinside s hs
  · exact hannounced s hs

/-- Where a menu is closed and there is no block around it, some counters are left. -/
theorem closeMenu {line : Line}
    (houtside : ∀ s last counter outer, before s →
      s.nesting.counters = last :: counter :: outer →
      after ((s.writeToc .closeList).withCounters ((counter + 1) :: outer)))
    (hunderflow : ∀ s counters, before s → fault ((s.writeToc .closeList).withCounters counters)) :
    Leads before after fault (closeMenu line) := by
  intro s hs
  rw [closeMenu_apply]
  rcases hcounters : s.nesting.counters with _ | ⟨last, _ | ⟨counter, outer⟩⟩
  · exact hunderflow s s.nesting.counters hs
  · exact hunderflow s [] hs
  · exact houtside s last counter outer hs hcounters

theorem closeChoice {line : Line}
    (houtside : ∀ s last counter outer, before s →
      s.nesting.counters = last :: counter :: outer →
      after ((s.writeBody .closeList).leaveChoice.withCounters ((counter + 1) :: outer)))
    (hunderflow : ∀ s counters, before s →
      fault ((s.writeBody .closeList).leaveChoice.withCounters counters)) :
    Leads before after fault (closeChoice line) := by
  intro s hs
  rw [closeChoice_apply]
  rcases hcounters : s.nesting.counters with _ | ⟨last, _ | ⟨counter, outer⟩⟩
  · exact hunderflow s s.nesting.counters hs
  · exact hunderflow s [] hs
  · exact houtside s last counter outer hs hcounters

theorem pushCondition (stop : ∀ s, before s → fault s) {line : Line}
    (hpushed : ∀ s conditions, before s →
      s.conditions.push line.rest line.place = .ok conditions →
      after { s with conditions := conditions }) :
    Leads before after fault (pushCondition line) := by
  intro s hs
  rw [pushCondition_apply]
  cases hpush : s.conditions.push line.rest line.place with
  | ok conditions => exact hpushed s conditions hs hpush
  | error e => exact stop s hs

theorem popCondition (stop : ∀ s, before s → fault s) {line : Line}
    (hpopped : ∀ s popped, before s → s.conditions.pop line.place = .ok popped →
      after { s with conditions := popped.2 }) : Leads before after fault (popCondition line) := by
  intro s hs
  rw [popCondition_apply]
  cases hpop : s.conditions.pop line.place with
  | ok popped => exact hpopped s popped hs hpop
  | error e => exact stop s hs

/-- An entry is hidden, or it is outside all choices and takes a number, or it is inside a choice.
Its details come last, and may fail. -/
theorem renderEntry {ctx : WalkContext} {entry : Entry}
    (hhide : ∀ record s, before s → (entry.isHidden && !s.showInternal) = true →
      after (s.note record))
    (hunnested : ∀ s, before s → s.nesting.inChoice = 0 → s.nesting.counters = [] →
      fault (s.writeToc (.config entry s.number)))
    (houtside : ∀ s counter outer, before s → s.nesting.inChoice = 0 →
      s.nesting.counters = counter :: outer →
      fault (listEntry s entry ((counter + 1) :: outer)) ∧
        ∀ path, ctx.layout.filePath entry.directory = .ok path →
          after ((listEntry s entry ((counter + 1) :: outer)).writeBody (.details entry path)))
    (hinside : ∀ s, before s → s.nesting.inChoice ≠ 0 →
      fault (s.writeBody (.config entry none)) ∧
        ∀ path, ctx.layout.filePath entry.directory = .ok path →
          after ((s.writeBody (.config entry none)).writeBody (.details entry path))) :
    Leads before after fault (renderEntry ctx entry) := by
  intro s hs
  cases hhidden : (entry.isHidden && !s.showInternal) with
  | true =>
      rw [renderEntry_of_hidden hhidden]
      exact hhide _ s hs hhidden
  | false =>
      by_cases hchoice : s.nesting.inChoice = 0
      · cases hcounters : s.nesting.counters with
        | nil =>
            rw [renderEntry_unnested hhidden hchoice hcounters]
            exact hunnested s hs hchoice hcounters
        | cons counter outer =>
            obtain ⟨hlisted, hdetails⟩ := houtside s counter outer hs hchoice hcounters
            rw [renderEntry_outside hhidden hchoice hcounters]
            cases hpath : ctx.layout.filePath entry.directory with
            | ok path => exact hdetails path hpath
            | error m => exact hlisted
      · obtain ⟨hlisted, hdetails⟩ := hinside s hs hchoice
        rw [renderEntry_inside hhidden hchoice]
        cases hpath : ctx.layout.filePath entry.directory with
        | ok path => exact hdetails path hpath
        | error m => exact hlisted

section Lines

variable {ctx : WalkContext} {visit : Text → Walk Unit} {directory : Text}

theorem note (hnote : ∀ record s, before s → after (s.note record)) (record : LogRecord) :
    Leads before after fault (Walk.note record) := fun s hs => hnote record s hs

theorem announce (hnote : ∀ record s, inv s → inv (s.note record)) (stop : ∀ s, inv s → fault s)
    (directory : Text) : Keeps inv fault (Walk.announce ctx directory) :=
  .bind (.lift stop _) fun _ => .bind .get fun _ => .bind (.note hnote _) fun _ => .pure _

/-- A file that is opened is one more, also where its lines cannot be cut. -/
theorem openFile (hnote : ∀ record s, before s → before (s.note record))
    (hstop : ∀ s, before s → fault s) (hcut : ∀ s, after s → fault s)
    (hopened : ∀ path s, ctx.layout.filePath directory = .ok path → before s →
      after { s with opened := s.opened.push path }) :
    Leads before after fault (Walk.openFile ctx directory) := by
  intro s hs
  rw [openFile_apply]
  cases hpath : ctx.layout.filePath directory with
  | error m => exact hstop s hs
  | ok path =>
      have hannounced : before (announced s path) := hnote _ s hs
      have hafter := hopened path _ hpath hannounced
      cases ctx.layout.hasNameableFiles with
      | false => exact hstop _ hannounced
      | true =>
          simp only [if_true]
          cases ctx.readText path with
          | error e => exact hstop _ hannounced
          | ok text =>
              simp only
              cases ctx.lineSize.lines path (Text.physicalLines text) with
              | error m => exact hcut _ hafter
              | ok lines => exact hafter

/-- A source line that leads nowhere is noted; otherwise the walk goes on where it leads. -/
theorem sourceLine (hnote : ∀ record s, inv s → inv (s.note record))
    (stop : ∀ s, inv s → fault s) (hvisit : ∀ d, Keeps inv fault (visit d)) (line : Line) :
    Keeps inv fault (Walk.sourceLine ctx visit line) := by
  refine .bind (.lift stop _) fun resolved => ?_
  cases resolved with
  | none => exact .note hnote _
  | some resolved =>
      refine .bind (.note hnote _) fun _ => ?_
      split
      · exact hvisit _
      · exact .bind (.announce hnote stop _) fun _ => .throw stop _

/-- What a line does is one operation, by its keyword. -/
theorem effect {line : Line} {rest : List Line}
    (hnote : ∀ record s, before s → before (s.note record))
    (hnoted : ∀ record s, after s → after (s.note record))
    (hidle : line.IsIdle → ∀ s, before s → after s)
    (hsource : line.keyword? = some .source →
      Leads before after fault (Walk.sourceLine ctx visit line))
    (hmenu : line.keyword? = some .menu → Leads before after fault (Walk.openMenu line))
    (hchoice : line.keyword? = some .choice → Leads before after fault (Walk.openChoice line))
    (hendMenu : line.keyword? = some .endMenu → Leads before after fault (Walk.closeMenu line))
    (hendChoice : line.keyword? = some .endChoice →
      Leads before after fault (Walk.closeChoice line))
    (hif : line.keyword? = some .ifWord → Leads before after fault (Walk.pushCondition line))
    (hendIf : line.keyword? = some .endIf → Leads before after fault (Walk.popCondition line))
    (hentry : line.declares → ∀ conditions,
      Leads (fun s => before s ∧ s.conditions.inForce = conditions) after fault
        (Walk.renderEntry ctx (line.entry directory conditions rest))) :
    Leads before after fault (Walk.effect ctx visit directory line rest) := by
  have hnoteIdle : line.IsIdle →
      Leads before after fault (Walk.effect ctx visit directory line rest) := by
    intro h
    obtain ⟨record, hrecord⟩ := effect_of_isIdle rest h
    rw [hrecord]
    exact .note (fun record s hs => hnoted record s (hidle h s hs)) record
  cases hk : line.keyword? with
  | none => exact hnoteIdle (.inl hk)
  | some keyword =>
      cases keyword with
      | source =>
          rw [effect_source rest hk]
          exact hsource hk
      | menu =>
          rw [effect_menu rest hk]
          exact .bind (hmenu hk) fun _ => .bind .get fun _ => .note hnoted _
      | choice =>
          rw [effect_choice rest hk]
          exact .bind (hchoice hk) fun _ => .bind .get fun _ => .note hnoted _
      | endMenu =>
          rw [effect_endMenu rest hk]
          exact hendMenu hk
      | endChoice =>
          rw [effect_endChoice rest hk]
          exact hendChoice hk
      | ifWord =>
          rw [effect_if rest hk]
          exact hif hk
      | endIf =>
          rw [effect_endIf rest hk]
          exact hendIf hk
      | config =>
          by_cases hname : Text.firstWord line.rest = []
          · exact hnoteIdle (.inr (.inr ⟨hk, hname⟩))
          · intro s hs
            rw [effect_config rest ⟨hk, hname⟩]
            apply hentry ⟨hk, hname⟩
            cases (rest.dropWhile Line.isAttribute).head? with
            | none => exact ⟨hs, rfl⟩
            | some ended => exact ⟨hnote _ s hs, rfl⟩
      | _ => exact hnoteIdle (.inr (.inl (by simp [Line.isAttribute, Line.attribute?, hk])))

end Lines

end Leads

/-- A walk keeps an invariant at each of its steps. -/
structure Steady (ctx : WalkContext) (inv fault : WalkState → Prop) : Prop where
  stop : ∀ s, inv s → fault s
  note : ∀ record s, inv s → inv (s.note record)
  opened : ∀ path s, inv s → inv { s with opened := s.opened.push path }
  unread : ∀ lines s, inv s → inv { s with unread := s.unread ++ lines }
  openMenu : ∀ line, Keeps inv fault (openMenu line)
  closeMenu : ∀ line, Keeps inv fault (closeMenu line)
  openChoice : ∀ line, Keeps inv fault (openChoice line)
  closeChoice : ∀ line, Keeps inv fault (closeChoice line)
  pushCondition : ∀ line, Keeps inv fault (pushCondition line)
  popCondition : ∀ line, Keeps inv fault (popCondition line)
  renderEntry : ∀ entry, Keeps inv fault (renderEntry ctx entry)

namespace Steady

variable {ctx : WalkContext} {visit : Text → Walk Unit} {directory : Text}

theorem openFile (h : Steady ctx inv fault) (directory : Text) :
    Keeps inv fault (Walk.openFile ctx directory) :=
  .openFile h.note h.stop h.stop fun path s _ hs => h.opened path s hs

/-- What one line does keeps the invariant. -/
theorem effect (h : Steady ctx inv fault) (hvisit : ∀ d, Keeps inv fault (visit d)) (line : Line)
    (after : List Line) : Keeps inv fault (Walk.effect ctx visit directory line after) := by
  apply Leads.effect h.note h.note
  · exact fun _ _ hs => hs
  · exact fun _ => .sourceLine h.note h.stop hvisit line
  · exact fun _ => h.openMenu line
  · exact fun _ => h.openChoice line
  · exact fun _ => h.closeMenu line
  · exact fun _ => h.closeChoice line
  · exact fun _ => h.pushCondition line
  · exact fun _ => h.popCondition line
  · exact fun _ _ s hs => h.renderEntry _ s hs.1

/-- What one line keeps is kept by all lines of a block, by induction on how many they are. -/
theorem blockLines (h : Steady ctx inv fault) (hvisit : ∀ d, Keeps inv fault (visit d))
    (lines : List Line) : Keeps inv fault (Walk.blockLines ctx visit directory lines) := by
  induction hlength : lines.length using Nat.strongRecOn generalizing lines with
  | ind length ih =>
      subst hlength
      cases lines with
      | nil =>
          rw [blockLines_nil]
          exact .pure _
      | cons line after =>
          rw [blockLines_cons]
          refine .bind (h.effect hvisit line after) fun _ => ?_
          have hbehind := line.length_behind_le after
          have hshort : Keeps inv fault (Walk.blockLines ctx visit directory (line.behind after)) :=
            ih _ (by simp only [List.length_cons]; omega) _ rfl
          cases line.turn with
          | onward => exact hshort
          | done => exact .pure _
          | inside =>
              intro s hs
              simp only [proceed, bind_apply]
              cases hinner : Walk.blockLines ctx visit directory (line.behind after) s with
              | error e t => exact hshort.of_error hs hinner
              | ok inner t =>
                  have hle := length_le_of_blockLines hinner
                  exact ih _ (by simp only [List.length_cons]; omega) inner rfl t
                    (hshort.of_ok hs hinner)

/-- What every step keeps is kept by the walk of a file, by induction on how many files may be
open. -/
theorem file (h : Steady ctx inv fault) (depth : Nat) (directory : Text) :
    Keeps inv fault (Walk.file ctx depth directory) := by
  induction depth generalizing directory with
  | zero => exact .throw h.stop _
  | succ depth ih =>
      rw [file_succ]
      refine .bind (h.openFile directory) fun lines => ?_
      exact .bind (h.blockLines ih lines) fun rest => .change (h.unread rest.toArray)

theorem processFile (h : Steady ctx inv fault) (directory : Text) :
    Keeps inv fault (Walk.processFile ctx directory) :=
  .bind .get fun _ => h.file _ directory

end Steady

end KconfigReference.Walk
