import KconfigReference.Proofs.Structure.Items
import KconfigReference.Proofs.Walk.Flat
import KconfigReference.Proofs.Walk.Run

/-!
The itinerary of a walk: the lines that it dispatches, one after the other, and between them the
files that it enters and leaves. It is read off the files alone, because neither the numbering nor
the conditions nor what is written decides which line comes next; a step that fails only keeps the
walk from what comes after it. Main statement: to walk a file is to take the steps of its itinerary
in turn.
-/

namespace KconfigReference

namespace WalkContext

/-- The lines of the file of a directory, where it can be opened and cut into lines. -/
def fileLines? (ctx : WalkContext) (directory : Text) : Option (List Line) :=
  match ctx.layout.filePath directory with
  | .error _ => none
  | .ok path =>
      if ctx.layout.hasNameableFiles then
        match ctx.readText path with
        | .error _ => none
        | .ok text => (ctx.lineSize.lines path (Text.physicalLines text)).toOption
      else none

/-- The directory whose file a source line hands to the walk, if it hands one. -/
def target? (ctx : WalkContext) (line : Line) : Option Text :=
  match line.keyword?, ctx.layout.resolve (Text.firstWord line.rest) with
  | some .source, .ok (some resolved) =>
      if resolved.isNameable then some resolved.directory else none
  | _, _ => none

variable {ctx : WalkContext} {directory : Text} {lines : List Line} {line : Line}

/-- What is known of a file with lines. -/
theorem exists_of_fileLines? (h : ctx.fileLines? directory = some lines) :
    ∃ path text, ctx.layout.filePath directory = .ok path ∧
      ctx.layout.hasNameableFiles = true ∧ ctx.readText path = .ok text ∧
      ctx.lineSize.lines path (Text.physicalLines text) = .ok lines := by
  unfold fileLines? at h
  cases hpath : ctx.layout.filePath directory with
  | error m => simp [hpath] at h
  | ok path =>
      simp only [hpath] at h
      split at h
      next hnameable =>
        cases htext : ctx.readText path with
        | error e => simp [htext] at h
        | ok text =>
            cases hlines : ctx.lineSize.lines path (Text.physicalLines text) with
            | error m => simp [htext, hlines, Except.toOption] at h
            | ok found =>
                simp only [htext, hlines, Except.toOption, Option.some.injEq] at h
                exact ⟨path, text, rfl, hnameable, htext, by rw [hlines, h]⟩
      next => simp at h

/-- A file that can be read has its lines. -/
theorem Reads.fileLines? (h : ctx.Reads directory lines) :
    ctx.fileLines? directory = some lines := by
  obtain ⟨path, text, size, hpath, htext, hsize, hfits, hlines⟩ := h.found
  have hcut : ctx.lineSize.lines path (Text.physicalLines text) = .ok lines := by
    rw [hsize, LineSize.lines, readLines_of_fits hfits, hlines]
  simp only [WalkContext.fileLines?, hpath, h.nameable, if_true, htext, hcut, Except.toOption]

theorem target?_of_leadsTo {target : Text} (hk : line.keyword? = some .source)
    {resolved : Layout.Resolved}
    (hresolve : ctx.layout.resolve (Text.firstWord line.rest) = .ok (some resolved))
    (hnameable : resolved.isNameable = true) (hdirectory : resolved.directory = target) :
    ctx.target? line = some target := by
  simp only [target?, hk, hresolve, hnameable, if_true, hdirectory]

theorem target?_of_ne (hk : line.keyword? ≠ some .source) : ctx.target? line = none := by
  unfold target?
  split
  next h _ => exact absurd h hk
  next => rfl

end WalkContext

namespace Walk

variable {ctx : WalkContext} {directory : Text} {lines : List Line} {s : WalkState}

/-- A file with lines is opened in any state. -/
theorem openFile_of_fileLines? (h : ctx.fileLines? directory = some lines) (s : WalkState) :
    ∃ path, ctx.layout.filePath directory = .ok path ∧ openFile ctx directory s =
      .ok lines { announced s path with opened := s.opened.push path } := by
  obtain ⟨path, text, hpath, hnameable, htext, hlines⟩ := WalkContext.exists_of_fileLines? h
  refine ⟨path, hpath, ?_⟩
  rw [openFile_apply, hpath]
  simp only [hnameable, if_true, htext, hlines]

/-- A file without lines is opened in no state. -/
theorem openFile_of_fileLines?_none (h : ctx.fileLines? directory = none) (s : WalkState) :
    ∃ e t, openFile ctx directory s = .error e t := by
  rw [openFile_apply]
  unfold WalkContext.fileLines? at h
  cases hpath : ctx.layout.filePath directory with
  | error m => exact ⟨_, _, rfl⟩
  | ok path =>
      simp only [hpath] at h ⊢
      split at h
      next hnameable =>
        rw [if_pos hnameable]
        cases htext : ctx.readText path with
        | error e => exact ⟨_, _, rfl⟩
        | ok text =>
            simp only [htext] at h ⊢
            cases hlines : ctx.lineSize.lines path (Text.physicalLines text) with
            | error m => exact ⟨_, _, rfl⟩
            | ok found => simp [hlines, Except.toOption] at h
      next hnameable =>
        rw [if_neg hnameable]
        exact ⟨_, _, rfl⟩

/-- How many blocks are open after a line with this turn; none where the pass is at its end. -/
def Turn.count : Turn → Nat → Option Nat
  | .onward, opened => some opened
  | .inside, opened => some (opened + 1)
  | .done, 0 => none
  | .done, outer + 1 => some outer

/-- The lines that one pass dispatches, each with the lines after it. `taking` says that attribute
lines go to an entry above them. -/
def dispatched (taking : Bool) (opened : Nat) : List Line → List (Line × List Line)
  | [] => []
  | line :: after =>
      if taking && line.isAttribute then dispatched true opened after
      else
        (line, after) ::
          match line.turn.count opened with
          | none => []
          | some opened => dispatched (decide line.declares) opened after

/-- The lines that one pass leaves. -/
def leftOver (taking : Bool) (opened : Nat) : List Line → List Line
  | [] => []
  | line :: after =>
      if taking && line.isAttribute then leftOver true opened after
      else
        match line.turn.count opened with
        | none => after
        | some opened => leftOver (decide line.declares) opened after

/-- The lines that are not taken by an entry above them. -/
def untaken (taking : Bool) (lines : List Line) : List Line :=
  if taking then lines.dropWhile Line.isAttribute else lines

theorem behind_eq_untaken (line : Line) (after : List Line) :
    line.behind after = untaken (decide line.declares) after := by
  simp [Line.behind, untaken]

theorem untaken_cons_of_pos {taking : Bool} {line : Line} (after : List Line)
    (h : (taking && line.isAttribute) = true) :
    untaken taking (line :: after) = untaken true after := by
  rw [Bool.and_eq_true] at h
  simp [untaken, h.1, h.2]

theorem untaken_cons_of_neg {taking : Bool} {line : Line} (after : List Line)
    (h : (taking && line.isAttribute) = false) :
    untaken taking (line :: after) = line :: after := by
  cases taking with
  | false => rfl
  | true => simp_all [untaken]

/-- Every line that is dispatched is one of the lines, and those after it come after it there. -/
theorem suffix_of_mem_dispatched {taking : Bool} {opened : Nat} {place : Line × List Line}
    (h : place ∈ dispatched taking opened lines) : place.1 :: place.2 <:+ lines := by
  induction lines generalizing taking opened with
  | nil => simp [dispatched] at h
  | cons line after ih =>
      rw [dispatched] at h
      split at h
      next => exact (ih h).trans (List.suffix_cons line after)
      next =>
        rcases List.mem_cons.1 h with rfl | h
        · exact List.suffix_refl _
        · split at h
          next => simp at h
          next => exact (ih h).trans (List.suffix_cons line after)

/-- A step of a walk. -/
inductive Step where
  /-- The file of a directory is opened. -/
  | enter (directory : Text)
  /-- A line in the file of a directory is dispatched, when so many lines come after it. -/
  | line (directory : Text) (line : Line) (after : List Line)
  /-- A file is left, with the lines that were not read. -/
  | leave (unread : List Line)
  /-- More files than allowed would be open at a time. -/
  | endless
deriving Repr, DecidableEq

/-- Takes one step. A source line on its own says where it leads; the file is entered in a step
after it. -/
def perform (ctx : WalkContext) : Step → Walk Unit
  | .enter directory => (fun _ => ()) <$> openFile ctx directory
  | .line directory line after => effect ctx (fun _ => pure ()) directory line after
  | .leave unread => modify fun s => { s with unread := s.unread ++ unread.toArray }
  | .endless => throw (.misused .endless)

/-- Takes steps in turn. -/
def follow (ctx : WalkContext) (steps : List Step) : Walk Unit := forM steps (perform ctx)

@[simp] theorem follow_nil (ctx : WalkContext) : follow ctx [] = pure () := rfl

theorem follow_cons (ctx : WalkContext) (step : Step) (steps : List Step) :
    follow ctx (step :: steps) = perform ctx step >>= fun _ => follow ctx steps := List.forM_cons

theorem follow_append (ctx : WalkContext) (steps more : List Step) :
    follow ctx (steps ++ more) = follow ctx steps >>= fun _ => follow ctx more := List.forM_append

/-- Steps that fail have a first step that fails, once all steps before it are taken. -/
theorem follow_error_iff {steps : List Step} {s t : WalkState} {e : Failure} :
    follow ctx steps s = .error e t ↔
      ∃ before step after u, steps = before ++ step :: after ∧ follow ctx before s = .ok () u ∧
        perform ctx step u = .error e t := by
  constructor
  · intro h
    induction steps generalizing s with
    | nil => simp at h
    | cons step steps ih =>
        rw [follow_cons, bind_apply] at h
        cases hstep : perform ctx step s with
        | error e' u =>
            simp only [hstep, EStateM.Result.error.injEq] at h
            exact ⟨[], step, steps, s, rfl, rfl, by rw [hstep, h.1, h.2]⟩
        | ok _ v =>
            simp only [hstep] at h
            obtain ⟨before, failing, after, u, rfl, hbefore, hfailing⟩ := ih h
            refine ⟨step :: before, failing, after, u, rfl, ?_, hfailing⟩
            rw [follow_cons, bind_apply, hstep]
            exact hbefore
  · rintro ⟨before, step, after, u, rfl, hbefore, hstep⟩
    rw [follow_append, bind_apply, hbefore]
    simp only [follow_cons, bind_apply, hstep]

/-- What a walk keeps is kept by a single step of it. -/
theorem Steady.perform {inv fault : WalkState → Prop} (h : Steady ctx inv fault) (step : Step) :
    Keeps inv fault (perform ctx step) := by
  cases step with
  | enter directory => exact (h.openFile directory).map _
  | line directory line after => exact h.effect (fun _ => .pure _) line after
  | leave unread => exact .change (h.unread unread.toArray)
  | endless => exact .throw h.stop _

/-- The steps of a line that is dispatched: the line itself, and the walk of the file that it
sources. -/
def lineSteps (ctx : WalkContext) (below : Text → List Step) (directory : Text)
    (place : Line × List Line) : List Step :=
  .line directory place.1 place.2 :: (ctx.target? place.1).elim [] below

/-- The steps of one pass over lines. -/
def passSteps (ctx : WalkContext) (below : Text → List Step) (directory : Text) (taking : Bool)
    (opened : Nat) (lines : List Line) : List Step :=
  (dispatched taking opened lines).flatMap (lineSteps ctx below directory)

theorem mem_passSteps_iff {ctx : WalkContext} {below : Text → List Step} {taking : Bool}
    {opened : Nat} {step : Step} :
    step ∈ passSteps ctx below directory taking opened lines ↔
      ∃ place ∈ dispatched taking opened lines, step = .line directory place.1 place.2 ∨
        ∃ target, ctx.target? place.1 = some target ∧ step ∈ below target := by
  have hline : ∀ place : Line × List Line, step ∈ lineSteps ctx below directory place ↔
      step = .line directory place.1 place.2 ∨
        ∃ target, ctx.target? place.1 = some target ∧ step ∈ below target := by
    intro place
    rw [lineSteps, List.mem_cons]
    cases ctx.target? place.1 <;> simp
  simp only [passSteps, List.mem_flatMap, hline]

/-- The steps of the walk of a file, when so many files may be open at a time. -/
def itinerary (ctx : WalkContext) : Nat → Text → List Step
  | 0, _ => [.endless]
  | depth + 1, directory =>
      .enter directory ::
        (ctx.fileLines? directory).elim [] fun lines =>
          passSteps ctx (itinerary ctx depth) directory false 0 lines ++
            [.leave (leftOver false 0 lines)]

/-- What a line does is what it does on its own, and then the walk of the file that it sources. -/
theorem effect_eq_target (ctx : WalkContext) (visit : Text → Walk Unit) (directory : Text)
    (line : Line) (after : List Line) :
    effect ctx visit directory line after =
      effect ctx (fun _ => pure ()) directory line after >>= fun _ =>
        (ctx.target? line).elim (pure ()) visit := by
  by_cases hk : line.keyword? = some .source
  · funext s
    simp only [effect_source after hk, sourceLine, bind_apply, WalkContext.target?, hk]
    cases hresolve : ctx.layout.resolve (Text.firstWord line.rest) with
    | error m => rfl
    | ok found =>
        cases found with
        | none => rfl
        | some resolved =>
            simp only [mapError_ok, lift_ok, bind_apply, debug_apply]
            cases hnameable : resolved.isNameable with
            | true => rfl
            | false =>
                simp only [Bool.false_eq_true, if_false, bind_apply, announce_apply]
                cases ctx.layout.filePath resolved.directory <;> rfl
  · rw [WalkContext.target?_of_ne hk, Option.elim_none]
    have hsame : effect ctx visit directory line after =
        effect ctx (fun _ => pure ()) directory line after := by
      unfold effect dispatch
      split
      next h => exact absurd h hk
      all_goals rfl
    rw [hsame, bind_pure_unit]

/-- One pass over lines is to take its steps in turn, by induction on the lines. -/
theorem flatLines_eq_follow {visit : Text → Walk Unit} {below : Text → List Step}
    (hvisit : ∀ d, visit d = follow ctx (below d)) (taking : Bool) (opened : Nat)
    (lines : List Line) :
    flatLines ctx visit directory opened (untaken taking lines) =
      follow ctx (passSteps ctx below directory taking opened lines) >>= fun _ =>
        pure (leftOver taking opened lines) := by
  induction lines generalizing taking opened with
  | nil => simp [untaken, passSteps, dispatched, leftOver]
  | cons line after ih =>
      cases htaken : (taking && line.isAttribute) with
      | true =>
          rw [untaken_cons_of_pos after htaken, ih, passSteps, passSteps, dispatched, leftOver,
            if_pos htaken, if_pos htaken]
      | false =>
          have hsteps : follow ctx (lineSteps ctx below directory (line, after)) =
              effect ctx visit directory line after := by
            rw [effect_eq_target, lineSteps, follow_cons]
            cases ctx.target? line with
            | none => rfl
            | some target =>
                simp only [Option.elim_some, hvisit]
                rfl
          rw [untaken_cons_of_neg after htaken, flatLines_cons, passSteps, dispatched, leftOver,
            if_neg (by simp [htaken]), if_neg (by simp [htaken]), List.flatMap_cons, follow_append,
            hsteps, bind_assoc, behind_eq_untaken]
          congr 1
          funext _
          cases hturn : line.turn with
          | onward => exact ih _ _
          | inside => exact ih _ _
          | done =>
              cases opened with
              | zero =>
                  rw [← behind_eq_untaken, Line.behind_of_turn_ne (by simp [hturn])]
                  rfl
              | succ outer => exact ih _ _

/-- To walk a file is to take the steps of its itinerary, by induction on how many files may be
open. -/
theorem file_eq_follow (ctx : WalkContext) (depth : Nat) (directory : Text) :
    file ctx depth directory = follow ctx (itinerary ctx depth directory) := by
  induction depth generalizing directory with
  | zero => rfl
  | succ depth ih =>
      funext s
      rw [file_succ, itinerary, follow_cons]
      cases hlines : ctx.fileLines? directory with
      | none =>
          obtain ⟨e, t, hopen⟩ := openFile_of_fileLines?_none hlines s
          simp [bind_apply, perform, map_apply, hopen]
      | some lines =>
          obtain ⟨path, -, hopen⟩ := openFile_of_fileLines? hlines s
          have hpass : flatLines ctx (file ctx depth) directory 0 lines =
              follow ctx (passSteps ctx (itinerary ctx depth) directory false 0 lines) >>= fun _ =>
                pure (leftOver false 0 lines) := flatLines_eq_follow ih false 0 lines
          simp only [bind_apply, perform, map_apply, hopen, Option.elim_some, follow_append,
            blockLines_eq_flatLines, hpass]
          generalize follow ctx (passSteps ctx (itinerary ctx depth) directory false 0 lines) _ =
            result
          cases result <;> rfl

theorem processFile_apply (ctx : WalkContext) (directory : Text) (s : WalkState) :
    processFile ctx directory s = follow ctx (itinerary ctx (depthBound ctx s) directory) s := by
  simp only [processFile, bind_apply, get_apply, file_eq_follow]

/-- To walk a block is to take its steps, up to the lines that are left. -/
theorem processBlock_apply (ctx : WalkContext) (directory : Text) (cursor : Cursor)
    (s : WalkState) :
    processBlock ctx directory cursor s =
      match follow ctx (passSteps ctx (itinerary ctx (depthBound ctx s)) directory false 0
        cursor.lines) s with
      | .ok _ t => .ok (leftOver false 0 cursor.lines) t
      | .error e t => .error e t := by
  have hpass : flatLines ctx (file ctx (depthBound ctx s)) directory 0 cursor.lines =
      follow ctx (passSteps ctx (itinerary ctx (depthBound ctx s)) directory false 0 cursor.lines)
        >>= fun _ => pure (leftOver false 0 cursor.lines) :=
    flatLines_eq_follow (file_eq_follow ctx _) false 0 cursor.lines
  rw [processBlock_eq_flatLines, ← file_eq_flatFile, hpass, bind_apply]
  cases follow ctx (passSteps ctx (itinerary ctx (depthBound ctx s)) directory false 0
    cursor.lines) s <;> rfl

/-- A run whose root can be opened takes the steps of its first file. -/
theorem run_rooted {maxLevels : Limit} {banner : Text} (hlevels : maxLevels.reached 0 = .ok false)
    (hbanner : ctx.bannerText = .ok banner) (root : Option Text) (maxConditions : Limit)
    (showInternal : Bool) :
    let start : WalkState := .rooted maxLevels maxConditions showInternal banner
    run ctx root (.fresh maxLevels maxConditions showInternal) =
      match follow ctx (itinerary ctx (depthBound ctx start) (startDirectory ctx root)) start with
      | .ok _ t => .ok () t.closed
      | .error e t => .error e t := by
  intro start
  rw [run_apply, openRoot_fresh, hlevels, hbanner]
  simp only [processFile_apply]
  rfl

/-- Every line that is dispatched is a line of its file. -/
theorem exists_of_line_mem_itinerary {depth : Nat} {line : Line} {d : Text} {after : List Line}
    (h : .line d line after ∈ itinerary ctx depth directory) :
    ∃ lines, ctx.fileLines? d = some lines ∧ line :: after <:+ lines := by
  induction depth generalizing directory with
  | zero => simp [itinerary] at h
  | succ depth ih =>
      rw [itinerary] at h
      cases hlines : ctx.fileLines? directory with
      | none => simp [hlines] at h
      | some lines =>
          simp only [hlines, Option.elim_some, List.mem_cons, reduceCtorEq, false_or,
            List.mem_append, List.not_mem_nil, or_false] at h
          obtain ⟨place, hplace, heq | ⟨target, -, hbelow⟩⟩ := mem_passSteps_iff.1 h
          · cases heq
            exact ⟨lines, hlines, suffix_of_mem_dispatched hplace⟩
          · exact ih hbelow

end Walk

end KconfigReference
