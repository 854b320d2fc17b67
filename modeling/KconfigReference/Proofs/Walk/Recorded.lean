import KconfigReference.Proofs.Kconfig.Matching
import KconfigReference.Proofs.Walk.Itinerary

/-!
What a walk writes of the conditions. Main statement: the details that steps write are those of the
entries that their lines declare, each under the conditions of the `if` lines before it that no
`endif` line has cancelled, whatever blocks and files were opened and closed in between.
-/

namespace KconfigReference

namespace Conditions

variable {c c' : Conditions} {condition : Text} {place : Place} {popped : Text × Conditions}

theorem inForce_of_push (h : c.push condition place = .ok c') :
    c'.inForce = c.inForce ++ [condition] := by
  unfold push at h
  split at h
  · cases h
  · cases h
  · cases h
    exact List.reverse_cons

theorem inForce_of_pop (h : c.pop place = .ok popped) : popped.2.inForce = c.inForce.dropLast := by
  unfold pop at h
  split at h
  · cases h
  next condition outer hstack =>
    cases h
    simp [inForce, hstack]

end Conditions

/-- The entry whose details an item holds. -/
def BodyItem.detailed? : BodyItem → Option Entry
  | .details entry _ => some entry
  | _ => none

/-- The entries whose details were written. -/
def WalkState.detailed (s : WalkState) : List Entry := s.body.toList.filterMap BodyItem.detailed?

namespace Walk

namespace Step

/-- The line that a step dispatches. -/
def lines : Step → List Line
  | .line _ current _ => [current]
  | _ => []

/-- The entry that a step renders under some conditions, unless it is hidden. -/
def rendered (showInternal : Bool) (conditions : List Text) : Step → List Entry
  | .line directory current after =>
      if current.declares then
        [current.entry directory conditions after].filter fun entry =>
          showInternal || !entry.isHidden
      else []
  | _ => []

theorem rendered_of_not_declares {showInternal : Bool} {conditions : List Text} {directory : Text}
    {line : Line} {after : List Line} (h : ¬line.declares) :
    (Step.line directory line after).rendered showInternal conditions = [] := by
  simp [rendered, h]

end Step

/-- The entries that steps render after a history of lines, each under the conditions that are open
after the lines before it. -/
def rendered (showInternal : Bool) (history : List Line) : List Step → List Entry
  | [] => []
  | step :: steps =>
      step.rendered showInternal (openConditions history) ++
        rendered showInternal (history ++ step.lines) steps

/-- The state of a walk that has dispatched some lines and written some details. -/
structure Recorded (history : List Line) (showInternal : Bool) (details : List Entry)
    (s : WalkState) : Prop where
  conditions : s.conditions.inForce = openConditions history
  showInternal : s.showInternal = showInternal
  details : s.detailed = details

namespace Recorded

variable {history : List Line} {showInternal : Bool} {details : List Entry} {s t : WalkState}

theorem of_eq (h : Recorded history showInternal details s)
    (hconditions : t.conditions = s.conditions) (hshow : t.showInternal = s.showInternal)
    (hdetails : t.detailed = s.detailed) :
    Recorded history showInternal details t :=
  ⟨by rw [hconditions, h.conditions], hshow.trans h.showInternal, hdetails.trans h.details⟩

theorem note (h : Recorded history showInternal details s) (record : LogRecord) :
    Recorded history showInternal details (s.note record) :=
  h.of_eq rfl rfl rfl

theorem detailed_writeBody {item : BodyItem} (h : item.detailed? = none) (s : WalkState) :
    (s.writeBody item).detailed = s.detailed := by
  simp [WalkState.detailed, WalkState.writeBody, h]

theorem detailed_writeDetails (entry : Entry) (path : Text) (s : WalkState) :
    (s.writeBody (.details entry path)).detailed = s.detailed ++ [entry] := by
  simp [WalkState.detailed, WalkState.writeBody, BodyItem.detailed?]

theorem writeDetails (h : Recorded history showInternal details s) (entry : Entry) (path : Text) :
    Recorded history showInternal (details ++ [entry]) (s.writeBody (.details entry path)) :=
  ⟨h.conditions, h.showInternal, by rw [detailed_writeDetails, h.details]⟩

theorem detailed_announceMenu (s : WalkState) (title : Option Text) :
    (s.announceMenu title).detailed = s.detailed := by
  simp [WalkState.detailed, WalkState.announceMenu, BodyItem.detailed?]

theorem detailed_announceChoice (s : WalkState) (title : Option Text) :
    (s.announceChoice title).detailed = s.detailed := by
  simp [WalkState.detailed, WalkState.announceChoice, BodyItem.detailed?]

theorem detailed_listEntry (s : WalkState) (entry : Entry) (counters : List Nat) :
    (listEntry s entry counters).detailed = s.detailed := by
  simp [WalkState.detailed, listEntry, WalkState.writeBody, WalkState.writeToc, BodyItem.detailed?]

variable {directory : Text} {line : Line} {after : List Line}

/-- A line that neither opens nor cancels a condition leaves those that are in force. -/
theorem past (h : Recorded history showInternal details s) (hif : line.keyword? ≠ some .ifWord)
    (hendif : line.keyword? ≠ some .endIf) : Recorded (history ++ [line]) showInternal details s :=
  ⟨by rw [openConditions_append_other hif hendif, h.conditions], h.showInternal, h.details⟩

/-- One that declares no entry either leaves the record as it is. -/
theorem past_silent (h : Recorded history showInternal details s)
    (hif : line.keyword? ≠ some .ifWord) (hendif : line.keyword? ≠ some .endIf)
    (hdeclares : ¬line.declares) :
    Recorded (history ++ [line]) showInternal (details ++
      (Step.line directory line after).rendered showInternal (openConditions history)) s := by
  rw [Step.rendered_of_not_declares hdeclares, List.append_nil]
  exact h.past hif hendif

/-- So does one with any other keyword. -/
theorem past_keyword (h : Recorded history showInternal details s) {keyword : Keyword}
    (hk : line.keyword? = some keyword) (hif : keyword ≠ .ifWord) (hendif : keyword ≠ .endIf)
    (hconfig : keyword ≠ .config) :
    Recorded (history ++ [line]) showInternal (details ++
      (Step.line directory line after).rendered showInternal (openConditions history)) s := by
  apply h.past_silent
  · simp [hk, hif]
  · simp [hk, hendif]
  · rintro ⟨hk', -⟩
    exact hconfig (Option.some.inj (hk.symm.trans hk'))

end Recorded

section Steps

variable {history : List Line} {showInternal : Bool} {details : List Entry} {ctx : WalkContext}
  {directory : Text} {line : Line} {after : List Line}

/-- An entry is written with its details, or it is hidden. -/
theorem recorded_renderEntry (entry : Entry) :
    Leads (Recorded history showInternal details)
      (Recorded history showInternal
        (details ++ [entry].filter fun entry => showInternal || !entry.isHidden))
      (fun s => s.detailed = details) (renderEntry ctx entry) := by
  have hfilter : (showInternal || !entry.isHidden) = !(entry.isHidden && !showInternal) := by
    cases showInternal <;> cases entry.isHidden <;> rfl
  cases hhidden : (entry.isHidden && !showInternal) with
  | true =>
      intro s hs
      rw [renderEntry_of_hidden (by rw [hs.showInternal, hhidden])]
      simp only [List.filter_cons, hfilter, hhidden, Bool.not_true, Bool.false_eq_true, if_false,
        List.filter_nil, List.append_nil]
      exact hs.note _
  | false =>
      simp only [List.filter_cons, hfilter, hhidden, Bool.not_false, if_true, List.filter_nil]
      apply Leads.renderEntry
      · intro record s hs hhide
        rw [hs.showInternal, hhidden] at hhide
        cases hhide
      · exact fun _ hs _ _ => hs.details
      · intro s counter outer hs _ _
        have hlisted : Recorded history showInternal details
            (listEntry s entry ((counter + 1) :: outer)) :=
          hs.of_eq rfl rfl (Recorded.detailed_listEntry s entry _)
        exact ⟨hlisted.details, fun path _ => hlisted.writeDetails entry path⟩
      · intro s hs _
        have hheaded : Recorded history showInternal details (s.writeBody (.config entry none)) :=
          hs.of_eq rfl rfl (Recorded.detailed_writeBody rfl s)
        exact ⟨hheaded.details, fun path _ => hheaded.writeDetails entry path⟩

/-- A line that declares an entry adds it, unless it is hidden, under the conditions that are open
before the line. -/
theorem recorded_declared (hdeclares : line.declares) :
    Leads (Recorded history showInternal details)
      (Recorded (history ++ [line]) showInternal (details ++
        (Step.line directory line after).rendered showInternal (openConditions history)))
      (fun s => s.detailed = details)
      (renderEntry ctx (line.entry directory (openConditions history) after)) := by
  rw [Step.rendered, if_pos hdeclares]
  exact (recorded_renderEntry _).mono fun s hs =>
    hs.past (by simp [hdeclares.1]) (by simp [hdeclares.1])

/-- What a line adds to the record: its entry, under the conditions that were open before it. -/
theorem recorded_line (line : Line) (after : List Line) :
    Leads (Recorded history showInternal details)
      (Recorded (history ++ [line]) showInternal
        (details ++
          (Step.line directory line after).rendered showInternal (openConditions history)))
      (fun s => s.detailed = details) (effect ctx (fun _ => pure ()) directory line after) := by
  have hstop : ∀ s, Recorded history showInternal details s → s.detailed = details :=
    fun _ hs => hs.details
  apply Leads.effect (fun record _ hs => hs.note record) (fun record _ hs => hs.note record)
  · intro hidle s hs
    exact hs.past_silent (hidle.keyword?_ne (by simp)) (hidle.keyword?_ne (by simp))
      hidle.not_declares
  · intro hk
    have hsource : Keeps (Recorded history showInternal details) (fun s => s.detailed = details)
        (sourceLine ctx (fun _ => pure ()) line) :=
      .sourceLine (fun record _ hs => hs.note record) hstop (fun _ => .pure ()) line
    exact hsource.mono fun s hs => hs.past_keyword hk (by simp) (by simp) (by simp)
  · intro hk
    apply Leads.openMenu
    · intro s hs
      refine Recorded.past_keyword ?_ hk (by simp) (by simp) (by simp)
      exact hs.of_eq rfl rfl (Recorded.detailed_announceMenu s _)
    · exact fun s hs => (Recorded.detailed_announceMenu s _).trans hs.details
  · intro hk
    apply Leads.openChoice
    · intro s hs
      refine Recorded.past_keyword ?_ hk (by simp) (by simp) (by simp)
      exact hs.of_eq rfl rfl (Recorded.detailed_announceChoice s _)
    · exact fun s hs => (Recorded.detailed_announceChoice s _).trans hs.details
  · intro hk
    apply Leads.closeMenu
    · intro s _ _ _ hs _
      refine Recorded.past_keyword ?_ hk (by simp) (by simp) (by simp)
      exact hs.of_eq rfl rfl rfl
    · exact fun _ _ hs => hs.details
  · intro hk
    apply Leads.closeChoice
    · intro s _ _ _ hs _
      refine Recorded.past_keyword ?_ hk (by simp) (by simp) (by simp)
      exact hs.of_eq rfl rfl (Recorded.detailed_writeBody rfl s)
    · exact fun s _ hs => (Recorded.detailed_writeBody rfl s).trans hs.details
  · intro hk
    apply Leads.pushCondition hstop
    intro s conditions hs hpush
    rw [Step.rendered_of_not_declares (by simp [Line.declares, hk]), List.append_nil]
    refine ⟨?_, hs.showInternal, hs.details⟩
    rw [openConditions_append_if hk, ← hs.conditions]
    exact Conditions.inForce_of_push hpush
  · intro hk
    apply Leads.popCondition hstop
    intro s popped hs hpop
    rw [Step.rendered_of_not_declares (by simp [Line.declares, hk]), List.append_nil]
    refine ⟨?_, hs.showInternal, hs.details⟩
    rw [openConditions_append_endIf hk, ← hs.conditions]
    exact Conditions.inForce_of_pop hpop
  · rintro hdeclares conditions s ⟨hs, rfl⟩
    rw [hs.conditions]
    exact recorded_declared hdeclares s hs

theorem recorded_enter (directory : Text) :
    Keeps (Recorded history showInternal details) (fun s => s.detailed = details)
      (perform ctx (.enter directory)) := by
  have hopen : Keeps (Recorded history showInternal details) (fun s => s.detailed = details)
      (openFile ctx directory) := by
    apply Leads.openFile
    · exact fun _ _ hs => hs.of_eq rfl rfl rfl
    · exact fun _ hs => hs.details
    · exact fun _ hs => hs.details
    · exact fun _ _ _ hs => hs.of_eq rfl rfl rfl
  exact hopen.map _

/-- What one step adds to the record. -/
theorem recorded_step (ctx : WalkContext) (step : Step) :
    Leads (Recorded history showInternal details)
      (Recorded (history ++ step.lines) showInternal
        (details ++ step.rendered showInternal (openConditions history)))
      (fun s => s.detailed = details) (perform ctx step) := by
  cases step with
  | line directory line after => exact recorded_line line after
  | enter directory =>
      simp only [Step.lines, Step.rendered, List.append_nil]
      exact recorded_enter directory
  | leave unread =>
      simp only [Step.lines, Step.rendered, List.append_nil]
      exact .change fun s hs => hs.of_eq rfl rfl rfl
  | endless =>
      simp only [Step.lines, Step.rendered, List.append_nil]
      exact .throw (fun _ hs => hs.details) _

/-- What steps add to the record, by induction on the steps: all their entries or, where one of them
fails, the entries of those before it. -/
theorem recorded_follow (ctx : WalkContext) (steps : List Step) :
    Leads (Recorded history showInternal details)
      (fun s => s.detailed = details ++ rendered showInternal history steps)
      (fun s => ∃ taken rest, steps = taken ++ rest ∧
        s.detailed = details ++ rendered showInternal history taken) (follow ctx steps) := by
  induction steps generalizing history details with
  | nil => exact fun s hs => by simpa [rendered] using hs.details
  | cons step steps ih =>
      rw [follow_cons]
      intro s hs
      have hstep := recorded_step ctx step s hs
      rw [bind_apply]
      cases hresult : perform ctx step s with
      | error e t =>
          rw [hresult] at hstep
          exact ⟨[], step :: steps, rfl, by simpa [rendered] using hstep⟩
      | ok _ t =>
          rw [hresult] at hstep
          have hrest := ih t hstep
          simp only
          cases hfollow : follow ctx steps t with
          | ok _ u =>
              rw [hfollow] at hrest
              simpa [rendered] using hrest
          | error e u =>
              rw [hfollow] at hrest
              obtain ⟨taken, rest, rfl, hdetails⟩ := hrest
              exact ⟨step :: taken, rest, rfl, by simpa [rendered] using hdetails⟩

end Steps

end Walk

end KconfigReference
