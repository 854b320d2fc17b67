import KconfigReference.Walk.Line

/-!
What the steps of a walk do to a state: one equation for each step, which says how it ends and in
which state, also when it fails.
-/

namespace KconfigReference

namespace WalkState

/-- The state with other counters of the open blocks. -/
def withCounters (s : WalkState) (counters : List Nat) : WalkState :=
  { s with nesting := { s.nesting with counters := counters } }

section Fields

variable (s : WalkState) (counters : List Nat)

@[simp] theorem withCounters_counters : (s.withCounters counters).nesting.counters = counters := rfl

@[simp] theorem withCounters_maxLevels :
    (s.withCounters counters).nesting.maxLevels = s.nesting.maxLevels := rfl

@[simp] theorem withCounters_inChoice :
    (s.withCounters counters).nesting.inChoice = s.nesting.inChoice := rfl

@[simp] theorem withCounters_menuNumber :
    (s.withCounters counters).nesting.menuNumber = s.nesting.menuNumber := rfl

@[simp] theorem withCounters_choiceNumber :
    (s.withCounters counters).nesting.choiceNumber = s.nesting.choiceNumber := rfl

@[simp] theorem withCounters_toc : (s.withCounters counters).toc = s.toc := rfl

@[simp] theorem withCounters_body : (s.withCounters counters).body = s.body := rfl

@[simp] theorem withCounters_conditions : (s.withCounters counters).conditions = s.conditions := rfl

@[simp] theorem withCounters_showInternal :
    (s.withCounters counters).showInternal = s.showInternal := rfl

@[simp] theorem withCounters_opened : (s.withCounters counters).opened = s.opened := rfl

@[simp] theorem withCounters_unread : (s.withCounters counters).unread = s.unread := rfl

end Fields

/-- What all items have and the new one has, all items have then. -/
theorem forall_mem_writeToc {p : TocItem → Prop} {s : WalkState} {item : TocItem}
    (h : ∀ other ∈ s.toc.toList, p other) (hitem : p item) :
    ∀ other ∈ (s.writeToc item).toc.toList, p other := by
  intro other hother
  simp only [writeToc, Array.toList_push, List.mem_append, List.mem_singleton] at hother
  rcases hother with hother | rfl
  · exact h other hother
  · exact hitem

theorem forall_mem_writeBody {p : BodyItem → Prop} {s : WalkState} {item : BodyItem}
    (h : ∀ other ∈ s.body.toList, p other) (hitem : p item) :
    ∀ other ∈ (s.writeBody item).body.toList, p other := by
  intro other hother
  simp only [writeBody, Array.toList_push, List.mem_append, List.mem_singleton] at hother
  rcases hother with hother | rfl
  · exact h other hother
  · exact hitem

end WalkState

namespace Walk

theorem bind_apply (m : Walk α) (f : α → Walk β) (s : WalkState) :
    (m >>= f) s = match m s with
      | .ok a t => f a t
      | .error e t => .error e t := by
  simp only [bind, EStateM.bind]
  cases m s <;> rfl

theorem exists_of_bind_ok {m : Walk α} {f : α → Walk β} {b : β} {s t : WalkState}
    (h : (m >>= f) s = .ok b t) : ∃ a u, m s = .ok a u ∧ f a u = .ok b t := by
  rw [bind_apply] at h
  cases hm : m s with
  | ok a u =>
      rw [hm] at h
      exact ⟨a, u, rfl, h⟩
  | error e u => simp [hm] at h

theorem map_apply (f : α → β) (m : Walk α) (s : WalkState) :
    (f <$> m) s = match m s with
      | .ok a t => .ok (f a) t
      | .error e t => .error e t := by
  simp only [Functor.map, EStateM.map]
  cases m s <;> rfl

@[simp] theorem pure_apply (a : α) (s : WalkState) : (pure a : Walk α) s = .ok a s := rfl

@[simp] theorem get_apply (s : WalkState) : (get : Walk WalkState) s = .ok s s := rfl

@[simp] theorem modify_apply (f : WalkState → WalkState) (s : WalkState) :
    (modify f : Walk Unit) s = .ok () (f s) := rfl

@[simp] theorem throw_apply (e : Failure) (s : WalkState) :
    (throw e : Walk α) s = .error e s := rfl

@[simp] theorem lift_ok (a : α) (s : WalkState) : lift (.ok a) s = .ok a s := rfl

@[simp] theorem lift_error (e : Failure) (s : WalkState) :
    (lift (.error e) : Walk α) s = .error e s := rfl

@[simp] theorem note_apply (record : LogRecord) (s : WalkState) :
    note record s = .ok () (s.note record) := rfl

@[simp] theorem debug_apply (message : Text) (s : WalkState) :
    debug message s = .ok () (s.note (.debug message)) := rfl

theorem nest_apply (step : Nesting → Except Failure Nesting) (s : WalkState) :
    nest step s = match step s.nesting with
      | .ok nesting => .ok () { s with nesting := nesting }
      | .error e => .error e s := by
  simp only [nest, bind_apply, get_apply]
  cases step s.nesting <;> rfl

@[simp] theorem mapError_ok (f : ε → ε') (a : α) : (Except.ok a).mapError f = .ok a := rfl

@[simp] theorem mapError_error (f : ε → ε') (e : ε) :
    (Except.error e : Except ε α).mapError f = .error (f e) := rfl

/-- A menu that is too deep has its link and heading written before it fails. -/
theorem openMenu_apply (line : Line) (s : WalkState) :
    openMenu line s =
      match s.nesting.maxLevels.reached s.nesting.level with
      | .ok false =>
          .ok () ((s.announceMenu (Prompt.extract line.rest)).withCounters
            (1 :: s.nesting.counters))
      | .ok true =>
          .error (.reported (.nestingTooDeep line.place))
            (s.announceMenu (Prompt.extract line.rest))
      | .error m => .error (.misused m) (s.announceMenu (Prompt.extract line.rest)) := by
  have hlevel : (s.announceMenu (Prompt.extract line.rest)).nesting.level = s.nesting.level := rfl
  have hlimit : (s.announceMenu (Prompt.extract line.rest)).nesting.maxLevels =
      s.nesting.maxLevels := rfl
  simp only [openMenu, bind_apply, modify_apply, nest_apply, Nesting.enter, hlevel, hlimit]
  rcases s.nesting.maxLevels.reached s.nesting.level with m | _ | _ <;> rfl

theorem openChoice_apply (line : Line) (s : WalkState) :
    openChoice line s =
      match s.nesting.maxLevels.reached s.nesting.level with
      | .ok false =>
          .ok () ((s.announceChoice (Prompt.extract line.rest)).withCounters
            (1 :: s.nesting.counters)).enterChoice
      | .ok true =>
          .error (.reported (.nestingTooDeep line.place))
            (s.announceChoice (Prompt.extract line.rest))
      | .error m => .error (.misused m) (s.announceChoice (Prompt.extract line.rest)) := by
  have hlevel : (s.announceChoice (Prompt.extract line.rest)).nesting.level =
      s.nesting.level := rfl
  have hlimit : (s.announceChoice (Prompt.extract line.rest)).nesting.maxLevels =
      s.nesting.maxLevels := rfl
  simp only [openChoice, bind_apply, modify_apply, nest_apply, Nesting.enter, hlevel, hlimit]
  rcases s.nesting.maxLevels.reached s.nesting.level with m | _ | _ <;> rfl

/-- Leaving a block and using up the number that it had: what every closing line comes to. -/
theorem leave_advance_apply (place : Place) (s : WalkState) :
    (do nest (·.leave place); nest (·.advance place)) s =
      match s.nesting.counters with
      | _ :: counter :: outer => .ok () (s.withCounters ((counter + 1) :: outer))
      | [_] => .error (.reported (.nestingUnderflow place)) (s.withCounters [])
      | [] => .error (.reported (.nestingUnderflow place)) s := by
  simp only [bind_apply, nest_apply, Nesting.leave, Nesting.advance]
  rcases s.nesting.counters with _ | ⟨_, _ | ⟨_, _⟩⟩ <;> rfl

theorem closeMenu_apply (line : Line) (s : WalkState) :
    closeMenu line s =
      match s.nesting.counters with
      | _ :: counter :: outer =>
          .ok () ((s.writeToc .closeList).withCounters ((counter + 1) :: outer))
      | [_] =>
          .error (.reported (.nestingUnderflow line.place))
            ((s.writeToc .closeList).withCounters [])
      | [] => .error (.reported (.nestingUnderflow line.place)) (s.writeToc .closeList) := by
  have h := leave_advance_apply line.place (s.writeToc .closeList)
  have hcounters : (s.writeToc .closeList).nesting.counters = s.nesting.counters := rfl
  simpa only [closeMenu, bind_apply, modify_apply, hcounters] using h

theorem closeChoice_apply (line : Line) (s : WalkState) :
    closeChoice line s =
      match s.nesting.counters with
      | _ :: counter :: outer =>
          .ok () ((s.writeBody .closeList).leaveChoice.withCounters ((counter + 1) :: outer))
      | [_] =>
          .error (.reported (.nestingUnderflow line.place))
            ((s.writeBody .closeList).leaveChoice.withCounters [])
      | [] =>
          .error (.reported (.nestingUnderflow line.place))
            (s.writeBody .closeList).leaveChoice := by
  have h := leave_advance_apply line.place (s.writeBody .closeList).leaveChoice
  have hcounters : (s.writeBody .closeList).leaveChoice.nesting.counters = s.nesting.counters := rfl
  simpa only [closeChoice, bind_apply, modify_apply, hcounters] using h

theorem pushCondition_apply (line : Line) (s : WalkState) :
    pushCondition line s =
      match s.conditions.push line.rest line.place with
      | .ok conditions => .ok () { s with conditions := conditions }
      | .error e => .error e s := by
  simp only [pushCondition, bind_apply, get_apply]
  cases s.conditions.push line.rest line.place <;> rfl

theorem popCondition_apply (line : Line) (s : WalkState) :
    popCondition line s =
      match s.conditions.pop line.place with
      | .ok popped => .ok () { s with conditions := popped.2 }
      | .error e => .error e s := by
  simp only [popCondition, bind_apply, get_apply]
  cases s.conditions.pop line.place <;> rfl

/-- The details of an entry, which come last. -/
theorem writeDetails_apply (ctx : WalkContext) (entry : Entry) (s : WalkState) :
    (do let path ← lift ((ctx.layout.filePath entry.directory).mapError .misused)
        modify (·.writeBody (.details entry path)) : Walk Unit) s =
      match ctx.layout.filePath entry.directory with
      | .ok path => .ok () (s.writeBody (.details entry path))
      | .error m => .error (.misused m) s := by
  simp only [bind_apply]
  cases ctx.layout.filePath entry.directory <;> rfl

theorem renderEntry_of_hidden {ctx : WalkContext} {entry : Entry} {s : WalkState}
    (h : (entry.isHidden && !s.showInternal) = true) :
    renderEntry ctx entry s =
      .ok () (s.note (.debug ("Skipping internal variable " ++ entry.name))) := by
  simp only [renderEntry, bind_apply, get_apply, h, if_true, debug_apply]

/-- The state once an entry outside a choice has its link and its heading. -/
def listEntry (s : WalkState) (entry : Entry) (counters : List Nat) : WalkState :=
  ((s.writeToc (.config entry s.number)).withCounters counters).writeBody
    (.config entry (some s.number))

theorem renderEntry_outside {ctx : WalkContext} {entry : Entry} {s : WalkState} {counter : Nat}
    {outer : List Nat} (hshown : (entry.isHidden && !s.showInternal) = false)
    (hchoice : s.nesting.inChoice = 0) (hcounters : s.nesting.counters = counter :: outer) :
    renderEntry ctx entry s =
      match ctx.layout.filePath entry.directory with
      | .ok path =>
          .ok () ((listEntry s entry ((counter + 1) :: outer)).writeBody (.details entry path))
      | .error m => .error (.misused m) (listEntry s entry ((counter + 1) :: outer)) := by
  have hadvance : nest (·.advance .nowhere) (s.writeToc (.config entry s.number)) =
      .ok () ((s.writeToc (.config entry s.number)).withCounters ((counter + 1) :: outer)) := by
    have hc : (s.writeToc (.config entry s.number)).nesting.counters = counter :: outer := hcounters
    rw [nest_apply, Nesting.advance, hc]
    rfl
  have hdetails := writeDetails_apply ctx entry (listEntry s entry ((counter + 1) :: outer))
  simp only [bind_apply] at hdetails
  simp only [renderEntry, bind_apply, get_apply, hshown, hchoice, Bool.false_eq_true, if_false,
    if_true, modify_apply, hadvance]
  exact hdetails

/-- Outside all blocks there is no number to use up, and the entry is left half written. -/
theorem renderEntry_unnested {ctx : WalkContext} {entry : Entry} {s : WalkState}
    (hshown : (entry.isHidden && !s.showInternal) = false) (hchoice : s.nesting.inChoice = 0)
    (hcounters : s.nesting.counters = []) :
    renderEntry ctx entry s =
      .error (.reported (.nestingUnderflow .nowhere)) (s.writeToc (.config entry s.number)) := by
  have hadvance : nest (·.advance .nowhere) (s.writeToc (.config entry s.number)) =
      .error (.reported (.nestingUnderflow .nowhere)) (s.writeToc (.config entry s.number)) := by
    have hc : (s.writeToc (.config entry s.number)).nesting.counters = [] := hcounters
    rw [nest_apply, Nesting.advance, hc]
  simp only [renderEntry, bind_apply, get_apply, hshown, hchoice, Bool.false_eq_true, if_false,
    if_true, modify_apply, hadvance]

theorem renderEntry_inside {ctx : WalkContext} {entry : Entry} {s : WalkState}
    (hshown : (entry.isHidden && !s.showInternal) = false) (hchoice : s.nesting.inChoice ≠ 0) :
    renderEntry ctx entry s =
      match ctx.layout.filePath entry.directory with
      | .ok path =>
          .ok () ((s.writeBody (.config entry none)).writeBody (.details entry path))
      | .error m => .error (.misused m) (s.writeBody (.config entry none)) := by
  have hdetails := writeDetails_apply ctx entry (s.writeBody (.config entry none))
  simp only [bind_apply] at hdetails
  simp only [renderEntry, bind_apply, get_apply, hshown, hchoice, Bool.false_eq_true, if_false,
    modify_apply]
  exact hdetails

end Walk

end KconfigReference
