import KconfigReference.Proofs.Walk.Invariant

/-!
Whole runs. A run opens the root of a tree, walks its file and ends the table of contents. Main
statement: what every step of a walk keeps holds in whatever state a run stops.
-/

namespace KconfigReference

namespace WalkState

/-- The state at the beginning once the root has its counter and its anchor. -/
def numbered (maxLevels maxConditions : Limit) (showInternal : Bool) : WalkState :=
  { fresh maxLevels maxConditions showInternal with nesting := ⟨maxLevels, [1], 0, 1, 0⟩ }

/-- The state at the beginning once the root has its link and its heading. -/
def rooted (maxLevels maxConditions : Limit) (showInternal : Bool) (banner : Text) : WalkState :=
  { numbered maxLevels maxConditions showInternal with
    toc := #[.block (Anchor.menu 0) [1] banner]
    body := #[.menu (Anchor.menu 0) [1] banner] }

/-- The state once the table of contents is ended. -/
def closed (s : WalkState) : WalkState :=
  { s.writeToc .closeList with
    log := s.log ++ (Walk.closingRemarks (s.writeToc .closeList)).toArray }

end WalkState

namespace Walk

/-- The state in which a walk stops, whether it ends or fails. -/
def stateAfter (m : Walk α) (s : WalkState) : WalkState :=
  match m s with
  | .ok _ t => t
  | .error _ t => t

/-- Whether a walk ends, in a state with some property. -/
def endsWith (m : Walk α) (p : WalkState → Bool) (s : WalkState) : Bool :=
  match m s with
  | .ok _ t => p t
  | .error _ _ => false

theorem exists_of_endsWith {m : Walk α} {p : WalkState → Bool} {s : WalkState}
    (h : endsWith m p s = true) : ∃ a t, m s = .ok a t ∧ p t = true := by
  unfold endsWith at h
  cases hm : m s with
  | ok a t =>
      rw [hm] at h
      exact ⟨a, t, rfl, h⟩
  | error e t => simp [hm] at h

theorem enter_fresh (maxLevels : Limit) (place : Place) :
    (Nesting.fresh maxLevels).enter place =
      match maxLevels.reached 0 with
      | .error m => .error (.misused m)
      | .ok true => .error (.reported (.nestingTooDeep place))
      | .ok false => .ok ⟨maxLevels, [1], 0, 0, 0⟩ := rfl

theorem openRoot_fresh (ctx : WalkContext) (maxLevels maxConditions : Limit)
    (showInternal : Bool) :
    openRoot ctx (.fresh maxLevels maxConditions showInternal) =
      match maxLevels.reached 0, ctx.bannerText with
      | .error m, _ => .error (.misused m) (.fresh maxLevels maxConditions showInternal)
      | .ok true, _ =>
          .error (.reported (.nestingTooDeep .nowhere))
            (.fresh maxLevels maxConditions showInternal)
      | .ok false, .error m =>
          .error (.misused m) (.numbered maxLevels maxConditions showInternal)
      | .ok false, .ok banner => .ok () (.rooted maxLevels maxConditions showInternal banner) := by
  have henter := enter_fresh maxLevels .nowhere
  have hnesting : (WalkState.fresh maxLevels maxConditions showInternal).nesting =
      .fresh maxLevels := rfl
  rw [← hnesting] at henter
  simp only [openRoot, bind_apply, nest_apply, get_apply, henter]
  rcases maxLevels.reached 0 with m | _ | _
  · rfl
  · rcases ctx.bannerText with m | banner <;> rfl
  · rfl

theorem closeRoot_apply (s : WalkState) : closeRoot s = .ok () s.closed := rfl

theorem run_apply (ctx : WalkContext) (root : Option Text) (s : WalkState) :
    run ctx root s =
      match openRoot ctx s with
      | .ok _ t =>
          match processFile ctx (startDirectory ctx root) t with
          | .ok _ u => .ok () u.closed
          | .error e u => .error e u
      | .error e t => .error e t := by
  simp only [run, bind_apply, closeRoot_apply]
  cases openRoot ctx s with
  | error e t => rfl
  | ok _ t => cases hwalk : processFile ctx (startDirectory ctx root) t <;> simp only [hwalk]

variable {ctx : WalkContext} {inv fault : WalkState → Prop} {maxLevels maxConditions : Limit}
  {showInternal : Bool}

/-- A run ends exactly if its root can be opened and its first file is walked to the end. -/
theorem run_ok_iff {root : Option Text} {t : WalkState} :
    run ctx root (.fresh maxLevels maxConditions showInternal) = .ok () t ↔
      maxLevels.reached 0 = .ok false ∧ ∃ banner s, ctx.bannerText = .ok banner ∧
        processFile ctx (startDirectory ctx root)
          (.rooted maxLevels maxConditions showInternal banner) = .ok () s ∧ t = s.closed := by
  rw [run_apply, openRoot_fresh]
  rcases maxLevels.reached 0 with m | _ | _
  · simp
  · cases ctx.bannerText with
    | error m => simp
    | ok banner =>
        cases hwalk : processFile ctx (startDirectory ctx root)
            (.rooted maxLevels maxConditions showInternal banner) with
        | error e u => simp [hwalk]
        | ok _ u => simp [hwalk, eq_comm]
  · simp

theorem processFile_of_run_ok {root : Option Text} {t : WalkState}
    (h : run ctx root (.fresh maxLevels maxConditions showInternal) = .ok () t) :
    ∃ banner s, ctx.bannerText = .ok banner ∧ t = s.closed ∧
      processFile ctx (startDirectory ctx root)
        (.rooted maxLevels maxConditions showInternal banner) = .ok () s := by
  obtain ⟨-, banner, s, hbanner, hwalk, ht⟩ := run_ok_iff.1 h
  exact ⟨banner, s, hbanner, ht, hwalk⟩

/-- What every step of a walk keeps, once the root is opened, holds when a run ends, up to the end
of the table of contents; where a run fails, the weaker property holds. -/
theorem Steady.run (h : Steady ctx inv fault)
    (hfresh : fault (.fresh maxLevels maxConditions showInternal))
    (hnumbered : fault (.numbered maxLevels maxConditions showInternal))
    (hrooted : ∀ banner, inv (.rooted maxLevels maxConditions showInternal banner))
    (root : Option Text) :
    match Walk.run ctx root (.fresh maxLevels maxConditions showInternal) with
    | .ok _ t => ∃ s, inv s ∧ t = s.closed
    | .error _ t => fault t := by
  rw [run_apply, openRoot_fresh]
  rcases maxLevels.reached 0 with m | _ | _
  · exact hfresh
  · cases ctx.bannerText with
    | error m => exact hnumbered
    | ok banner =>
        have hfile := h.processFile (startDirectory ctx root) _ (hrooted banner)
        simp only
        cases hwalk : Walk.processFile ctx (startDirectory ctx root)
            (.rooted maxLevels maxConditions showInternal banner) with
        | ok a s =>
            rw [hwalk] at hfile
            exact ⟨s, hfile, rfl⟩
        | error e s =>
            rw [hwalk] at hfile
            exact hfile
  · exact hfresh

/-- What holds wherever a walk stops, and at the end of the table of contents, holds in whatever
state a run stops. -/
theorem Steady.stateAfter_run (h : Steady ctx inv fault)
    (hfresh : fault (.fresh maxLevels maxConditions showInternal))
    (hnumbered : fault (.numbered maxLevels maxConditions showInternal))
    (hrooted : ∀ banner, inv (.rooted maxLevels maxConditions showInternal banner))
    (hclosed : ∀ s, inv s → fault s.closed) (root : Option Text) :
    fault (stateAfter (Walk.run ctx root) (.fresh maxLevels maxConditions showInternal)) := by
  have hrun := h.run hfresh hnumbered hrooted root
  rw [stateAfter]
  cases hresult : Walk.run ctx root (.fresh maxLevels maxConditions showInternal) with
  | ok a t =>
      rw [hresult] at hrun
      obtain ⟨s, hs, rfl⟩ := hrun
      exact hclosed s hs
  | error e t =>
      rw [hresult] at hrun
      exact hrun

end Walk

end KconfigReference
