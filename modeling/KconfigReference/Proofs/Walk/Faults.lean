import KconfigReference.Proofs.Walk.Itinerary

/-!
How walks fail. What a step reports is that a file cannot be opened, or that a line takes the level
or the conditions out of their limits; all else that stops it is a misuse. Main statement: so it is
for whole runs.
-/

namespace KconfigReference

/-- The kinds of faults that a walk reports. -/
def DiagnosticKind.isOfWalk : DiagnosticKind → Bool
  | .kconfigOpen => true
  | .conditionOverflow => true
  | .conditionUnderflow => true
  | .nestingOverflow => true
  | .nestingUnderflow => true
  | _ => false

/-- A failure that a walk may come to. -/
def Failure.OfWalk : Failure → Prop
  | .reported d => d.kind.isOfWalk = true
  | .misused _ => True

namespace Walk

/-- Wherever the walk fails, its failure has a property. -/
def Fails (p : Failure → Prop) (m : Walk α) : Prop := ∀ s e t, m s = .error e t → p e

variable {p : Failure → Prop}

namespace Fails

theorem pure (a : α) : Fails p (Pure.pure a : Walk α) := fun _ _ _ h => nomatch h

theorem bind {m : Walk α} {f : α → Walk β} (hm : Fails p m) (hf : ∀ a, Fails p (f a)) :
    Fails p (m >>= f) := by
  intro s e t h
  rw [bind_apply] at h
  cases hfirst : m s with
  | ok a u =>
      rw [hfirst] at h
      exact hf a u e t h
  | error e' u =>
      rw [hfirst] at h
      cases h
      exact hm s e t hfirst

theorem map {m : Walk α} (h : Fails p m) (f : α → β) : Fails p (f <$> m) :=
  bind h fun a => pure (f a)

theorem get : Fails p (MonadState.get : Walk WalkState) := fun _ _ _ h => nomatch h

theorem change (f : WalkState → WalkState) : Fails p (modify f : Walk Unit) :=
  fun _ _ _ h => nomatch h

theorem note (record : LogRecord) : Fails p (Walk.note record) := change _

theorem debug (message : Text) : Fails p (Walk.debug message) := note _

theorem throw {e : Failure} (he : p e) : Fails p (MonadExcept.throw e : Walk α) := by
  rintro s _ t ⟨⟩
  exact he

theorem lift {outcome : Except Failure α} (h : ∀ e, outcome = .error e → p e) :
    Fails p (Walk.lift outcome) := by
  cases outcome with
  | ok a => exact pure a
  | error e => exact throw (h e rfl)

theorem nest {step : Nesting → Except Failure Nesting} (h : ∀ n e, step n = .error e → p e) :
    Fails p (Walk.nest step) := get.bind fun _ => (lift (h _)).bind fun _ => change _

section Lines

variable {ctx : WalkContext}

/-- What an operation without a report fails with is a misuse. -/
theorem lift_misused (outcome : Except Misuse α) :
    Fails Failure.OfWalk (Walk.lift (outcome.mapError .misused)) := by
  refine lift fun e h => ?_
  cases outcome with
  | ok a => cases h
  | error m =>
      cases h
      trivial

theorem enter (place : Place) : Fails Failure.OfWalk (Walk.nest (·.enter place)) := by
  refine nest fun n e h => ?_
  unfold Nesting.enter at h
  split at h
  · cases h
    trivial
  · cases h
    rfl
  · cases h

theorem leave (place : Place) : Fails Failure.OfWalk (Walk.nest (·.leave place)) := by
  refine nest fun n e h => ?_
  unfold Nesting.leave at h
  split at h
  · cases h
    rfl
  · cases h

theorem advance (place : Place) : Fails Failure.OfWalk (Walk.nest (·.advance place)) := by
  refine nest fun n e h => ?_
  unfold Nesting.advance at h
  split at h
  · cases h
    rfl
  · cases h

theorem pushCondition (line : Line) : Fails Failure.OfWalk (Walk.pushCondition line) := by
  refine get.bind fun s => (lift fun e h => ?_).bind fun _ => change _
  unfold Conditions.push at h
  split at h
  · cases h
    trivial
  · cases h
    rfl
  · cases h

theorem popCondition (line : Line) : Fails Failure.OfWalk (Walk.popCondition line) := by
  refine get.bind fun s => (lift fun e h => ?_).bind fun _ => change _
  unfold Conditions.pop at h
  split at h
  · cases h
    rfl
  · cases h

theorem renderEntry (entry : Entry) : Fails Failure.OfWalk (Walk.renderEntry ctx entry) := by
  refine get.bind fun s => ?_
  split
  · exact debug _
  · have hdetails : Fails Failure.OfWalk (do
        let path ← Walk.lift ((ctx.layout.filePath entry.directory).mapError .misused)
        modify (·.writeBody (.details entry path))) := (lift_misused _).bind fun _ => change _
    split
    · exact (change _).bind fun _ => (advance _).bind fun _ => (change _).bind fun _ => hdetails
    · exact (change _).bind fun _ => hdetails

theorem announce (directory : Text) : Fails Failure.OfWalk (Walk.announce ctx directory) :=
  (lift_misused _).bind fun _ => get.bind fun _ => (debug _).bind fun _ => pure _

theorem sourceLine (line : Line) :
    Fails Failure.OfWalk (Walk.sourceLine ctx (fun _ => Pure.pure ()) line) := by
  refine (lift_misused _).bind fun found => ?_
  split
  · exact debug _
  · refine (debug _).bind fun _ => ?_
    split
    · exact pure ()
    · exact (announce _).bind fun _ => throw trivial

theorem effect (directory : Text) (line : Line) (after : List Line) :
    Fails Failure.OfWalk (Walk.effect ctx (fun _ => Pure.pure ()) directory line after) := by
  cases hk : line.keyword? with
  | none =>
      rw [effect_of_ignored after (.inl hk)]
      exact note _
  | some keyword =>
      cases keyword with
      | source =>
          rw [effect_source after hk]
          exact sourceLine line
      | menu =>
          rw [effect_menu after hk]
          exact ((change _).bind fun _ => enter _).bind fun _ => get.bind fun _ => debug _
      | choice =>
          rw [effect_choice after hk]
          exact ((change _).bind fun _ => (enter _).bind fun _ => change _).bind fun _ =>
            get.bind fun _ => debug _
      | endMenu =>
          rw [effect_endMenu after hk]
          exact (change _).bind fun _ => (leave _).bind fun _ => advance _
      | endChoice =>
          rw [effect_endChoice after hk]
          exact (change _).bind fun _ => (change _).bind fun _ => (leave _).bind fun _ => advance _
      | ifWord =>
          rw [effect_if after hk]
          exact pushCondition line
      | endIf =>
          rw [effect_endIf after hk]
          exact popCondition line
      | config =>
          by_cases hname : Text.firstWord line.rest = []
          · rw [effect_nameless after hk hname]
            exact debug _
          · intro s e t h
            rw [effect_config after ⟨hk, hname⟩] at h
            exact renderEntry _ _ e t h
      | _ =>
          rw [effect_of_ignored after (.inr (by simp [Line.isAttribute, Line.attribute?, hk]))]
          exact note _

end Lines

variable {ctx : WalkContext}

theorem openFile (directory : Text) : Fails Failure.OfWalk (Walk.openFile ctx directory) := by
  refine (announce directory).bind fun path => ?_
  have hrest : Fails Failure.OfWalk (do
      let text ← Walk.lift (ctx.readText path)
      modify fun s => { s with opened := s.opened.push path }
      Walk.lift ((ctx.lineSize.lines path (Text.physicalLines text)).mapError .misused)) := by
    refine (lift fun e h => ?_).bind fun _ => (change _).bind fun _ => lift_misused _
    unfold WalkContext.readText at h
    split at h
    · cases h
      trivial
    · split at h
      · cases h
        rfl
      · cases h
  split
  · exact (throw trivial).bind fun _ => hrest
  · exact hrest

theorem perform (step : Step) : Fails Failure.OfWalk (Walk.perform ctx step) := by
  cases step with
  | enter directory => exact (openFile directory).map _
  | line directory line after => exact effect directory line after
  | leave unread => exact change _
  | endless => exact throw trivial

theorem follow (steps : List Step) : Fails Failure.OfWalk (Walk.follow ctx steps) := by
  induction steps with
  | nil => exact pure ()
  | cons step rest ih =>
      rw [follow_cons]
      exact (perform step).bind fun _ => ih

theorem processFile (directory : Text) : Fails Failure.OfWalk (Walk.processFile ctx directory) := by
  intro s e t h
  rw [processFile_apply] at h
  exact follow _ s e t h

/-- A run that fails reports a fault of a walk, or it stops at a misuse. -/
theorem run (root : Option Text) : Fails Failure.OfWalk (Walk.run ctx root) := by
  have hopens : Fails Failure.OfWalk (openRoot ctx) :=
    (enter _).bind fun _ => get.bind fun _ => (nest fun _ _ h => nomatch h).bind fun _ =>
      (lift_misused _).bind fun _ => change _
  have hcloses : Fails Failure.OfWalk closeRoot := (change _).bind fun _ => change _
  exact hopens.bind fun _ => (processFile _).bind fun _ => hcloses

end Fails

end Walk

end KconfigReference
