import KconfigReference.Proofs.Walk.Sources

/-!
Limits. A run keeps its level and its conditions within their limits, and it fails at the first line
that would take them out: a block opened at the last level or closed at the first, a condition
opened where no more are allowed or ended where none is open. Main statement: on files that can all
be opened these are the only failures of a run.
-/

namespace KconfigReference

namespace WalkContext

/-- The file of a directory has these lines among those that one of its physical lines gives, the
one whose number they bear. -/
def StandsIn (ctx : WalkContext) (directory : Text) (line : Line) : Prop :=
  ∃ text room physical, ctx.layout.filePath directory = .ok line.path ∧
    ctx.readText line.path = .ok text ∧ 1 ≤ line.number ∧
    (Text.physicalLines text)[line.number - 1]? = some physical ∧
    line ∈ linesOfPhysical line.path room line.number physical

variable {ctx : WalkContext} {directory : Text} {lines : List Line} {line : Line}

/-- The lines of a file stand in it. -/
theorem standsIn_of_mem_fileLines? (h : ctx.fileLines? directory = some lines)
    (hline : line ∈ lines) : ctx.StandsIn directory line := by
  obtain ⟨path, text, hpath, -, htext, hcut⟩ := exists_of_fileLines? h
  cases hsize : ctx.lineSize with
  | characters size =>
      rw [hsize, LineSize.lines, Except.ok.injEq] at hcut
      rw [← hcut, readLines, List.mem_flatMap] at hline
      obtain ⟨⟨physical, number⟩, hnumbered, hcutFrom⟩ := hline
      obtain ⟨hone, -, hphysical⟩ := List.mem_zipIdx hnumbered
      obtain ⟨rfl, rfl⟩ : line.path = path ∧ line.number = number := by
        simp only [linesOfPhysical, List.mem_filterMap] at hcutFrom
        obtain ⟨found, -, hfound⟩ := hcutFrom
        split at hfound
        next => cases hfound
        next =>
          cases hfound
          exact ⟨rfl, rfl⟩
      exact ⟨text, lineRoom size, physical, hpath, htext, hone,
        List.getElem?_eq_some_iff.2 ⟨_, hphysical.symm⟩, hcutFrom⟩
  | uncuttable =>
      rw [hsize, LineSize.lines] at hcut
      split at hcut
      next =>
        cases hcut
        cases hline
      next => cases hcut
  | unordered =>
      rw [hsize, LineSize.lines] at hcut
      cases hcut

/-- Where all sources can be opened, the files have a name. -/
theorem Sourceable.exists_shown (h : ctx.Sourceable directory) :
    ∃ name, ctx.layout.fileName.shown = .ok name := by
  cases h with
  | intro _ lines hlines _ _ =>
      obtain ⟨path, -, hpath, -⟩ := exists_of_fileLines? hlines
      cases hname : ctx.layout.fileName.shown with
      | ok name => exact ⟨name, rfl⟩
      | error m =>
          rw [Layout.filePath_eq_error hname] at hpath
          cases hpath

end WalkContext

namespace Walk

/-- The fault of a line in a state, under limits for the level and for the conditions. -/
def fault? (maxLevels maxConditions : Int) (s : WalkState) (line : Line) : Option Diagnostic :=
  match line.keyword? with
  | some .menu | some .choice =>
      if s.nesting.level = maxLevels then some (.nestingTooDeep line.place) else none
  | some .endMenu | some .endChoice =>
      if s.nesting.level = 1 then some (.nestingUnderflow line.place) else none
  | some .ifWord =>
      if s.conditions.height = maxConditions then some (.tooManyConditions line.place) else none
  | some .endIf =>
      if s.conditions.height = 0 then some (.conditionUnderflow line.place) else none
  | _ => none

/-- At least one block is open, and no more blocks and conditions than the limits allow. -/
structure Within (maxLevels maxConditions : Int) (s : WalkState) : Prop where
  maxLevels_eq : s.nesting.maxLevels = .count maxLevels
  capacity_eq : s.conditions.capacity = .count maxConditions
  one_le_level : 1 ≤ s.nesting.level
  level_le : s.nesting.level ≤ maxLevels
  height_le : s.conditions.height ≤ maxConditions

/-- The outcome is the fault that is expected or, where none is, a state within the limits. -/
def Obeys (maxLevels maxConditions : Int) (fault : Option Diagnostic) :
    EStateM.Result Failure WalkState Unit → Prop
  | .ok _ t => fault = none ∧ Within maxLevels maxConditions t
  | .error e _ => ∃ diagnostic, fault = some diagnostic ∧ e = .reported diagnostic

section Lines

variable {maxLevels maxConditions : Int} {s t : WalkState} {ctx : WalkContext} {line : Line}
  {name : CodeText}

namespace Within

/-- What is written, noted and opened makes no difference. -/
theorem of_eq (h : Within maxLevels maxConditions s)
    (hlevels : t.nesting.maxLevels = s.nesting.maxLevels)
    (hlevel : t.nesting.level = s.nesting.level) (hconditions : t.conditions = s.conditions) :
    Within maxLevels maxConditions t :=
  ⟨hlevels.trans h.maxLevels_eq, by rw [hconditions, h.capacity_eq], hlevel ▸ h.one_le_level,
    hlevel ▸ h.level_le, hconditions ▸ h.height_le⟩

theorem note (h : Within maxLevels maxConditions s) (record : LogRecord) :
    Within maxLevels maxConditions (s.note record) := h.of_eq rfl rfl rfl

/-- Opening a block fails exactly where the level is the limit. -/
theorem opens (h : Within maxLevels maxConditions s) (place : Place) {inside outside : WalkState}
    (hlevels : inside.nesting.maxLevels = s.nesting.maxLevels)
    (hlevel : inside.nesting.level = s.nesting.level + 1)
    (hconditions : inside.conditions = s.conditions) :
    Obeys maxLevels maxConditions
      (if s.nesting.level = maxLevels then some (.nestingTooDeep place) else none)
      (match s.nesting.maxLevels.reached s.nesting.level with
        | .ok false => .ok () inside
        | .ok true => .error (.reported (.nestingTooDeep place)) outside
        | .error m => .error (.misused m) outside) := by
  have hle := h.level_le
  rw [h.maxLevels_eq, Limit.reached_count]
  by_cases hlast : (s.nesting.level : Int) = maxLevels
  · rw [if_pos hlast, decide_eq_true (Int.le_of_eq hlast.symm)]
    exact ⟨_, rfl, rfl⟩
  · rw [if_neg hlast, decide_eq_false (by omega)]
    exact ⟨rfl, hlevels.trans h.maxLevels_eq, hconditions ▸ h.capacity_eq, by omega, by omega,
      hconditions ▸ h.height_le⟩

/-- Closing a block fails exactly at the first level. -/
theorem closes (h : Within maxLevels maxConditions s) (place : Place) {u : WalkState}
    (hlevels : u.nesting.maxLevels = s.nesting.maxLevels)
    (hconditions : u.conditions = s.conditions) :
    Obeys maxLevels maxConditions
      (if s.nesting.level = 1 then some (.nestingUnderflow place) else none)
      (match s.nesting.counters with
        | _ :: counter :: outer => .ok () (u.withCounters ((counter + 1) :: outer))
        | [_] => .error (.reported (.nestingUnderflow place)) (u.withCounters [])
        | [] => .error (.reported (.nestingUnderflow place)) u) := by
  have hone := h.one_le_level
  have hle := h.level_le
  unfold Nesting.level at hone hle ⊢
  rcases hcounters : s.nesting.counters with _ | ⟨last, _ | ⟨counter, outer⟩⟩
  · simp [hcounters] at hone
  · exact ⟨_, rfl, rfl⟩
  · rw [hcounters] at hle
    simp only [List.length_cons] at hle
    rw [if_neg (by simp)]
    refine ⟨rfl, hlevels.trans h.maxLevels_eq, hconditions ▸ h.capacity_eq, ?_, ?_,
      hconditions ▸ h.height_le⟩
    · simp [Nesting.level]
    · simp only [Nesting.level, WalkState.withCounters_counters, List.length_cons]
      omega

theorem openMenu (h : Within maxLevels maxConditions s) (line : Line) :
    Obeys maxLevels maxConditions
      (if s.nesting.level = maxLevels then some (.nestingTooDeep line.place) else none)
      (openMenu line s) := by
  rw [openMenu_apply]
  exact h.opens line.place rfl rfl rfl

theorem openChoice (h : Within maxLevels maxConditions s) (line : Line) :
    Obeys maxLevels maxConditions
      (if s.nesting.level = maxLevels then some (.nestingTooDeep line.place) else none)
      (openChoice line s) := by
  rw [openChoice_apply]
  exact h.opens line.place rfl rfl rfl

theorem closeMenu (h : Within maxLevels maxConditions s) (line : Line) :
    Obeys maxLevels maxConditions
      (if s.nesting.level = 1 then some (.nestingUnderflow line.place) else none)
      (closeMenu line s) := by
  rw [closeMenu_apply]
  exact h.closes line.place rfl rfl

theorem closeChoice (h : Within maxLevels maxConditions s) (line : Line) :
    Obeys maxLevels maxConditions
      (if s.nesting.level = 1 then some (.nestingUnderflow line.place) else none)
      (closeChoice line s) := by
  rw [closeChoice_apply]
  exact h.closes line.place rfl rfl

/-- A condition is refused exactly where as many are open as are allowed. -/
theorem pushCondition (h : Within maxLevels maxConditions s) (line : Line) :
    Obeys maxLevels maxConditions
      (if s.conditions.height = maxConditions then some (.tooManyConditions line.place) else none)
      (pushCondition line s) := by
  have hle := h.height_le
  rw [pushCondition_apply, Conditions.push, h.capacity_eq, Limit.reached_count]
  by_cases hfull : (s.conditions.height : Int) = maxConditions
  · rw [if_pos hfull, decide_eq_true (Int.le_of_eq hfull.symm)]
    exact ⟨_, rfl, rfl⟩
  · rw [if_neg hfull, decide_eq_false (by omega)]
    refine ⟨rfl, h.maxLevels_eq, rfl, h.one_le_level, h.level_le, ?_⟩
    simp only [Conditions.height, List.length_cons] at hle hfull ⊢
    omega

/-- A condition cannot be ended exactly where none is open. -/
theorem popCondition (h : Within maxLevels maxConditions s) (line : Line) :
    Obeys maxLevels maxConditions
      (if s.conditions.height = 0 then some (.conditionUnderflow line.place) else none)
      (popCondition line s) := by
  have hle := h.height_le
  rw [popCondition_apply, Conditions.pop]
  unfold Conditions.height at hle ⊢
  cases hstack : s.conditions.stack with
  | nil => exact ⟨_, rfl, rfl⟩
  | cons condition outer =>
      rw [hstack, List.length_cons] at hle
      rw [if_neg (by simp)]
      refine ⟨rfl, h.maxLevels_eq, h.capacity_eq, h.one_le_level, h.level_le, ?_⟩
      simp only [Conditions.height]
      omega

/-- Inside a block an entry is always rendered, if the files have a name. -/
theorem renderEntry (h : Within maxLevels maxConditions s)
    (hname : ctx.layout.fileName.shown = .ok name) (entry : Entry) :
    Obeys maxLevels maxConditions none (renderEntry ctx entry s) := by
  have hpath := Layout.filePath_eq hname entry.directory
  have hone := h.one_le_level
  cases hhidden : (entry.isHidden && !s.showInternal) with
  | true =>
      rw [renderEntry_of_hidden hhidden]
      exact ⟨rfl, h.note _⟩
  | false =>
      by_cases hchoice : s.nesting.inChoice = 0
      · cases hcounters : s.nesting.counters with
        | nil => simp [Nesting.level, hcounters] at hone
        | cons counter outer =>
            rw [renderEntry_outside hhidden hchoice hcounters, hpath]
            exact ⟨rfl, h.of_eq rfl (by simp [Nesting.level, hcounters, listEntry,
              WalkState.writeBody]) rfl⟩
      · rw [renderEntry_inside hhidden hchoice, hpath]
        exact ⟨rfl, h.of_eq rfl rfl rfl⟩

/-- A source line leads on without a fault, if it is resolved. -/
theorem sourceLine (h : Within maxLevels maxConditions s) (hk : line.keyword? = some .source)
    (hresolves : ctx.Resolves line) :
    Obeys maxLevels maxConditions none (sourceLine ctx (fun _ => pure ()) line s) := by
  obtain ⟨found, hfound, hnameable⟩ := hresolves hk
  simp only [Walk.sourceLine, bind_apply, hfound, mapError_ok, lift_ok]
  cases found with
  | none => exact ⟨rfl, h.note _⟩
  | some resolved =>
      simp only [bind_apply, debug_apply, hnameable resolved rfl, if_true]
      exact ⟨rfl, h.note _⟩

end Within

/-- What is noted after a step changes nothing. -/
theorem Obeys.debug {fault : Option Diagnostic} {step : Walk Unit}
    (h : Obeys maxLevels maxConditions fault (step s)) (message : WalkState → Text) :
    Obeys maxLevels maxConditions fault ((do step; Walk.debug (message (← get))) s) := by
  simp only [bind_apply]
  cases hstep : step s with
  | ok _ t =>
      rw [hstep] at h
      exact ⟨h.1, h.2.note _⟩
  | error e t =>
      rw [hstep] at h
      exact h

/-- Within the limits a line fails exactly where it has a fault, and with it. -/
theorem Within.effect (h : Within maxLevels maxConditions s)
    (hname : ctx.layout.fileName.shown = .ok name) (hresolves : ctx.Resolves line)
    (directory : Text) (after : List Line) :
    Obeys maxLevels maxConditions (fault? maxLevels maxConditions s line)
      (effect ctx (fun _ => pure ()) directory line after s) := by
  unfold fault?
  cases hk : line.keyword? with
  | none =>
      rw [effect_of_ignored after (.inl hk)]
      exact ⟨rfl, h.note _⟩
  | some keyword =>
      cases keyword with
      | menu =>
          rw [effect_menu after hk]
          exact (h.openMenu line).debug _
      | choice =>
          rw [effect_choice after hk]
          exact (h.openChoice line).debug _
      | endMenu =>
          rw [effect_endMenu after hk]
          exact h.closeMenu line
      | endChoice =>
          rw [effect_endChoice after hk]
          exact h.closeChoice line
      | ifWord =>
          rw [effect_if after hk]
          exact h.pushCondition line
      | endIf =>
          rw [effect_endIf after hk]
          exact h.popCondition line
      | source =>
          rw [effect_source after hk]
          exact h.sourceLine hk hresolves
      | config =>
          by_cases hwritten : Text.firstWord line.rest = []
          · rw [effect_nameless after hk hwritten]
            exact ⟨rfl, h.note _⟩
          · rw [effect_config after ⟨hk, hwritten⟩]
            cases (after.dropWhile Line.isAttribute).head? with
            | none => exact h.renderEntry hname _
            | some ended => exact (h.note _).renderEntry hname _
      | _ =>
          rw [effect_of_ignored after (.inr (by simp [Line.isAttribute, Line.attribute?, hk]))]
          exact ⟨rfl, h.note _⟩

/-- The fault of a step. -/
def Step.fault? (maxLevels maxConditions : Int) (s : WalkState) : Step → Option Diagnostic
  | .line _ line _ => Walk.fault? maxLevels maxConditions s line
  | _ => none

/-- Within the limits a step that finds its file fails exactly where it has a fault, and with it. -/
theorem Within.step {step : Step} (h : Within maxLevels maxConditions s)
    (hname : ctx.layout.fileName.shown = .ok name) (hfinds : step.Finds ctx)
    (hendless : step ≠ .endless) :
    Obeys maxLevels maxConditions (step.fault? maxLevels maxConditions s) (perform ctx step s) := by
  cases step with
  | enter directory =>
      obtain ⟨lines, hlines⟩ := hfinds
      obtain ⟨path, -, hopen⟩ := openFile_of_fileLines? hlines s
      simp only [perform, map_apply, hopen]
      exact ⟨rfl, h.of_eq rfl rfl rfl⟩
  | line directory line after => exact h.effect hname hfinds directory after
  | leave unread => exact ⟨rfl, h.of_eq rfl rfl rfl⟩
  | endless => exact absurd rfl hendless

/-- Steps that are all taken keep to the limits, by induction on the steps. -/
theorem Within.follow {steps : List Step} (h : Within maxLevels maxConditions s)
    (hname : ctx.layout.fileName.shown = .ok name) (hfinds : ∀ step ∈ steps, step.Finds ctx)
    (hendless : .endless ∉ steps) (hsteps : follow ctx steps s = .ok () t) :
    Within maxLevels maxConditions t := by
  induction steps generalizing s with
  | nil =>
      cases hsteps
      exact h
  | cons step steps ih =>
      rw [follow_cons] at hsteps
      obtain ⟨_, u, hstep, hrest⟩ := exists_of_bind_ok hsteps
      have hobeys := h.step hname (hfinds step List.mem_cons_self) fun heq =>
        hendless (heq ▸ List.mem_cons_self)
      rw [hstep] at hobeys
      exact ih hobeys.2 (fun other hother => hfinds other (List.mem_cons_of_mem _ hother))
        (fun hmem => hendless (List.mem_cons_of_mem _ hmem)) hrest

end Lines

section Runs

variable {ctx : WalkContext} {root : Option Text} {directory : Text} {line : Line}
  {after : List Line} {start s t : WalkState} {maxLevels maxConditions : Int} {e : Failure}

/-- The walk of a run from `start` dispatches a line in a state: the steps before the line have all
been taken. -/
def Dispatches (ctx : WalkContext) (root : Option Text) (start : WalkState) (directory : Text)
    (line : Line) (after : List Line) (s : WalkState) : Prop :=
  ∃ before rest,
    itinerary ctx (depthBound ctx start) (startDirectory ctx root) =
      before ++ .line directory line after :: rest ∧
    follow ctx before start = .ok () s

/-- A line that is dispatched stands in its file. -/
theorem Dispatches.standsIn (h : Dispatches ctx root start directory line after s) :
    ctx.StandsIn directory line := by
  obtain ⟨before, rest, hsteps, -⟩ := h
  have hmem : .line directory line after ∈
      itinerary ctx (depthBound ctx start) (startDirectory ctx root) := by simp [hsteps]
  obtain ⟨lines, hlines, hsuffix⟩ := exists_of_line_mem_itinerary hmem
  exact WalkContext.standsIn_of_mem_fileLines? hlines (hsuffix.subset List.mem_cons_self)

theorem within_rooted (hlevels : 1 ≤ maxLevels) (hconditions : 0 ≤ maxConditions)
    (showInternal : Bool) (banner : Text) :
    Within maxLevels maxConditions
      (.rooted (.count maxLevels) (.count maxConditions) showInternal banner) :=
  ⟨rfl, rfl, Nat.le_refl 1, hlevels, hconditions⟩

/-- Where all sources can be opened, the steps before a step of the walk keep to the limits, and the
step fails exactly where it has a fault. -/
theorem Within.reached {before rest : List Step} {step : Step}
    (hstart : Within maxLevels maxConditions start)
    (hfiles : ctx.Sourceable (startDirectory ctx root))
    (hsteps : itinerary ctx (depthBound ctx start) (startDirectory ctx root) =
      before ++ step :: rest)
    (hbefore : Walk.follow ctx before start = .ok () s) :
    Within maxLevels maxConditions s ∧
      Obeys maxLevels maxConditions (step.fault? maxLevels maxConditions s)
        (perform ctx step s) := by
  obtain ⟨name, hname⟩ := hfiles.exists_shown
  have hfinds : ∀ other ∈ before ++ step :: rest, other.Finds ctx := fun other hother =>
    finds_of_sourceable hfiles (hsteps ▸ hother)
  have hendless : .endless ∉ before ++ step :: rest :=
    hsteps ▸ endless_not_mem_of_sourceable hfiles start
  have hs : Within maxLevels maxConditions s :=
    hstart.follow hname (fun other hother => hfinds other (List.mem_append_left _ hother))
      (fun hmem => hendless (List.mem_append_left _ hmem)) hbefore
  refine ⟨hs, hs.step hname (hfinds step (by simp)) fun heq => hendless ?_⟩
  simp [heq]

/-- A walk from a state within the limits fails exactly where it dispatches a line with a fault. -/
theorem follow_error_iff_fault (hstart : Within maxLevels maxConditions start)
    (hfiles : ctx.Sourceable (startDirectory ctx root)) :
    follow ctx (itinerary ctx (depthBound ctx start) (startDirectory ctx root)) start = .error e t ↔
      ∃ directory line after s diagnostic, Dispatches ctx root start directory line after s ∧
        fault? maxLevels maxConditions s line = some diagnostic ∧ e = .reported diagnostic ∧
        t = stateAfter (effect ctx (fun _ => pure ()) directory line after) s := by
  rw [follow_error_iff]
  constructor
  · rintro ⟨before, step, rest, s, hsteps, hbefore, hfails⟩
    obtain ⟨-, hobeys⟩ := hstart.reached hfiles hsteps hbefore
    rw [hfails] at hobeys
    obtain ⟨diagnostic, hfault, rfl⟩ := hobeys
    cases step with
    | line directory line after =>
        refine ⟨directory, line, after, s, diagnostic, ⟨before, rest, hsteps, hbefore⟩, hfault, rfl,
          ?_⟩
        rw [stateAfter, show effect ctx (fun _ => pure ()) directory line after s = _ from hfails]
    | enter directory => cases hfault
    | leave unread => cases hfault
    | endless => cases hfault
  · rintro ⟨directory, line, after, s, diagnostic, ⟨before, rest, hsteps, hbefore⟩, hfault, rfl,
      rfl⟩
    refine ⟨before, .line directory line after, rest, s, hsteps, hbefore, ?_⟩
    obtain ⟨-, hobeys⟩ := hstart.reached hfiles hsteps hbefore
    rw [Step.fault?, hfault, perform] at hobeys
    rw [perform, stateAfter]
    cases heffect : effect ctx (fun _ => pure ()) directory line after s with
    | ok _ u =>
        rw [heffect] at hobeys
        cases hobeys.1
    | error e u =>
        rw [heffect] at hobeys
        obtain ⟨_, hsame, rfl⟩ := hobeys
        cases hsame
        rfl

/-- Every line that a run dispatches stands in a file, and meets at least one open block and no more
blocks and conditions than are allowed. The run fails exactly if one of these lines has a fault,
which no line dispatched before it has: it opens a block at the last level or closes one at the
first, or opens a condition where no more are allowed or ends one where none is open. The failure is
that fault with the place of the line, and the state is that of the line, all lines before it having
been dispatched in full. -/
theorem run_error_iff_fault {banner : Text} (hlevels : 1 ≤ maxLevels)
    (hconditions : 0 ≤ maxConditions) (hbanner : ctx.bannerText = .ok banner)
    (hfiles : ctx.Sourceable (startDirectory ctx root)) (showInternal : Bool) :
    let start : WalkState := .rooted (.count maxLevels) (.count maxConditions) showInternal banner
    (∀ directory line after s, Dispatches ctx root start directory line after s →
      ctx.StandsIn directory line ∧ 1 ≤ s.nesting.level ∧ s.nesting.level ≤ maxLevels ∧
        s.conditions.height ≤ maxConditions) ∧
    ∀ e t, run ctx root (.fresh (.count maxLevels) (.count maxConditions) showInternal) =
        .error e t ↔
      ∃ directory line after s diagnostic, Dispatches ctx root start directory line after s ∧
        fault? maxLevels maxConditions s line = some diagnostic ∧ e = .reported diagnostic ∧
        t = stateAfter (effect ctx (fun _ => pure ()) directory line after) s := by
  intro start
  have hstart : Within maxLevels maxConditions start :=
    within_rooted hlevels hconditions showInternal banner
  constructor
  · rintro directory line after s hdispatches
    obtain ⟨before, rest, hsteps, hbefore⟩ := id hdispatches
    obtain ⟨hs, -⟩ := hstart.reached hfiles hsteps hbefore
    exact ⟨hdispatches.standsIn, hs.one_le_level, hs.level_le, hs.height_le⟩
  · intro e t
    have hroot : (Limit.count maxLevels).reached 0 = .ok false := by
      rw [Limit.reached_count, decide_eq_false (by omega)]
    rw [← follow_error_iff_fault hstart hfiles, run_rooted hroot hbanner]
    cases follow ctx (itinerary ctx (depthBound ctx start) (startDirectory ctx root)) start with
    | ok _ u => simp
    | error e' u => simp

end Runs

/-- A tree of two files with a condition each. -/
def crowdedContext : WalkContext where
  tree :=
    { root := .directory
        [("Kconfig", .file (Utf8.encode "if A\nsource \"d/Kconfig\"\n")),
          ("d", .directory [("Kconfig", .file (Utf8.encode "if B\n"))])]
      home := [] }
  layout := ⟨".", .text "apps".toList, .text "@".toList, .text "Kconfig".toList⟩
  lineSize := .characters 80
  banner := .text "B".toList

def crowdedSource : Line := ⟨"source \"d/Kconfig\"", "./Kconfig", 2⟩

theorem reads_crowded : crowdedContext.Reads "." [⟨"if A", "./Kconfig", 1⟩, crowdedSource] where
  nameable := by decide
  found := ⟨"./Kconfig", "if A\nsource \"d/Kconfig\"\n", 80, rfl, by rfl, rfl, by decide +kernel,
    by decide +kernel⟩

theorem reads_crowdedBelow : crowdedContext.Reads "./d" [⟨"if B", "./d/Kconfig", 1⟩] where
  nameable := by decide
  found := ⟨"./d/Kconfig", "if B\n", 80, rfl, by rfl, rfl, by decide +kernel, by decide +kernel⟩

theorem target?_crowdedSource : crowdedContext.target? crowdedSource = some "./d".toList := by rfl

theorem sourceable_crowded : crowdedContext.Sourceable "." := by
  have hbelow : crowdedContext.Sourceable "./d" := by
    refine .intro _ _ reads_crowdedBelow.fileLines? ?_ ?_
    · simp only [List.mem_singleton, forall_eq]
      exact fun h => absurd h (by decide)
    · simp only [List.mem_singleton, forall_eq]
      intro target h
      exact absurd h (by rw [WalkContext.target?_of_ne (by decide)]; simp)
  refine .intro _ _ reads_crowded.fileLines? ?_ ?_
  · simp only [List.mem_cons, List.not_mem_nil, or_false, forall_eq_or_imp, forall_eq]
    refine ⟨fun h => absurd h (by decide), fun _ => ⟨_, by rfl, ?_⟩⟩
    rintro resolved ⟨⟩
    rfl
  · simp only [List.mem_cons, List.not_mem_nil, or_false, forall_eq_or_imp, forall_eq,
      target?_crowdedSource, Option.some.injEq]
    refine ⟨fun target h => ?_, fun target h => h ▸ hbelow⟩
    exact absurd h (by rw [WalkContext.target?_of_ne (by decide)]; simp)

/-- The condition of the second file is one too many. -/
theorem run_error_iff_fault_sample :
    crowdedContext.Sourceable (startDirectory crowdedContext none) ∧
      ∃ t, run crowdedContext none (.fresh (.count 1) (.count 1) false) =
        .error (.reported (.tooManyConditions ⟨some "./d/Kconfig", some 1⟩)) t := by
  have hbanner : crowdedContext.bannerText = .ok "B".toList := rfl
  have hfiles : crowdedContext.Sourceable (startDirectory crowdedContext none) := sourceable_crowded
  obtain ⟨-, hfails⟩ := run_error_iff_fault (show (1 : Int) ≤ 1 by decide)
    (show (0 : Int) ≤ 1 by decide) hbanner hfiles false
  let start : WalkState := .rooted (.count 1) (.count 1) false "B"
  obtain ⟨path, -, hopen⟩ := openFile_of_fileLines? reads_crowded.fileLines? start
  let first : WalkState := { announced start path with opened := start.opened.push path }
  let conditioned : WalkState := { first with conditions := ⟨.count 1, ["A"]⟩ }
  have hcondition : effect crowdedContext (fun _ => pure ()) "." ⟨"if A", "./Kconfig", 1⟩
      [crowdedSource] first = .ok () conditioned := by rfl
  obtain ⟨record, hsource⟩ : ∃ record, effect crowdedContext (fun _ => pure ()) "." crowdedSource []
      conditioned = .ok () (conditioned.note record) := ⟨_, by rfl⟩
  obtain ⟨path', -, hopen'⟩ := openFile_of_fileLines? reads_crowdedBelow.fileLines?
    (conditioned.note record)
  let second : WalkState :=
    { announced (conditioned.note record) path' with opened := first.opened.push path' }
  have hdepth : depthBound crowdedContext start = 34 + 2 := by decide +kernel
  have hsteps : itinerary crowdedContext (depthBound crowdedContext start) "." =
      [.enter ".", .line "." ⟨"if A", "./Kconfig", 1⟩ [crowdedSource], .line "." crowdedSource [],
        .enter "./d"] ++ .line "./d" ⟨"if B", "./d/Kconfig", 1⟩ [] :: [.leave [], .leave []] := by
    have hbelow : itinerary crowdedContext (34 + 1) "./d" =
        [.enter "./d", .line "./d" ⟨"if B", "./d/Kconfig", 1⟩ [], .leave []] := by
      rw [itinerary, reads_crowdedBelow.fileLines?]
      rfl
    have hdispatched : dispatched false 0 [⟨"if A", "./Kconfig", 1⟩, crowdedSource] =
        [(⟨"if A", "./Kconfig", 1⟩, [crowdedSource]), (crowdedSource, [])] := by decide
    have hquiet : crowdedContext.target? ⟨"if A", "./Kconfig", 1⟩ = none :=
      WalkContext.target?_of_ne (by decide)
    rw [hdepth, itinerary, reads_crowded.fileLines?, Option.elim_some, passSteps, hdispatched]
    simp only [List.flatMap_cons, List.flatMap_nil, lineSteps, hquiet, target?_crowdedSource,
      Option.elim_none, Option.elim_some, hbelow]
    rfl
  have hbefore : follow crowdedContext
      [.enter ".", .line "." ⟨"if A", "./Kconfig", 1⟩ [crowdedSource], .line "." crowdedSource [],
        .enter "./d"] start = .ok () second := by
    simp only [follow_cons, follow_nil, bind_apply, perform, map_apply, hopen]
    rw [hcondition]
    simp only [hsource, hopen']
    rfl
  have hfault : fault? 1 1 second ⟨"if B", "./d/Kconfig", 1⟩ =
      some (.tooManyConditions ⟨some "./d/Kconfig", some 1⟩) := by rfl
  exact ⟨hfiles, _, (hfails _ _).2
    ⟨"./d", _, _, second, _, ⟨_, _, hsteps, hbefore⟩, hfault, rfl, rfl⟩⟩

end Walk

end KconfigReference
