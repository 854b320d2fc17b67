import KconfigReference.Proofs.Walk.Itinerary
import Mathlib.Logic.Function.Iterate
import Mathlib.Logic.Relation

/-!
The walk as a machine. Its state has the files that are open, each with its cursor, and one step
opens a file, takes one line from the innermost cursor, or looks at one line for an entry; nothing
bounds how many files are open. Main statements: no step of a file leaves it as many lines without
ending a loop, and the machine takes the steps of any itinerary that comes to an end.
-/

namespace KconfigReference.Walk

/-- A file that is open: the blocks open in it are counted, and an entry may be taking its
attribute lines. -/
structure Frame where
  directory : Text
  cursor : Cursor
  opened : Nat
  taking : Option Entry

/-- A walk between two steps. -/
inductive Machine where
  /-- The file of a directory is about to be opened from the files around it. -/
  | entering (directory : Text) (outer : List Frame) (s : WalkState)
  /-- The innermost file is walked, which comes first. -/
  | walking (frames : List Frame) (s : WalkState)
  | stopped (outcome : EStateM.Result Failure WalkState Unit)

namespace Machine

/-- Goes on after a part of the walk, unless it failed. -/
def goOn (outcome : EStateM.Result Failure WalkState α) (next : α → WalkState → Machine) :
    Machine :=
  match outcome with
  | .ok a t => next a t
  | .error e t => .stopped (.error e t)

@[simp] theorem goOn_ok (a : α) (t : WalkState) (next : α → WalkState → Machine) :
    goOn (.ok a t) next = next a t := rfl

@[simp] theorem goOn_error (e : Failure) (t : WalkState) (next : α → WalkState → Machine) :
    goOn (.error e t) next = .stopped (.error e t) := rfl

/-- One look at the next line for an entry. An attribute line is taken; any other line is put back
and ends the entry, which is then rendered. -/
def extract (ctx : WalkContext) (frame : Frame) (entry : Entry) (outer : List Frame)
    (s : WalkState) : Machine :=
  let finish (cursor : Cursor) (ended : Option Line) : Machine :=
    goOn (renderEntry ctx entry ((ended.map unhandled).elim s s.note)) fun _ t =>
      .walking ({ frame with cursor := cursor, taking := none } :: outer) t
  match frame.cursor.peek with
  | (none, cursor) => finish cursor none
  | (some line, cursor) =>
      match line.attribute? with
      | none => finish cursor (some line)
      | some found =>
          .walking ({ frame with cursor := cursor.next.2, taking := some (entry.set found) } ::
            outer) s

/-- Goes on from a line that does not declare an entry: the file ends with its outermost block, or
the file that the line names is entered, or the next line is taken. -/
def proceed (ctx : WalkContext) (frame : Frame) (outer : List Frame) (line : Line) (turn : Turn)
    (cursor : Cursor) (s : WalkState) : Machine :=
  match turn.count frame.opened with
  | none => .walking outer { s with unread := s.unread ++ cursor.lines.toArray }
  | some opened =>
      let frames := { frame with cursor := cursor, opened := opened } :: outer
      match ctx.target? line with
      | none => .walking frames s
      | some target => .entering target frames s

/-- One line of a block. At the end of the lines the innermost block ends, and after the outermost
one the file. -/
def dispatchNext (ctx : WalkContext) (frame : Frame) (outer : List Frame) (s : WalkState) :
    Machine :=
  match frame.cursor.next with
  | (none, cursor) =>
      match frame.opened with
      | 0 => .walking outer s
      | opened + 1 => .walking ({ frame with cursor := cursor, opened := opened } :: outer) s
  | (some line, cursor) =>
      if line.declares then
        let entry := Entry.bare (Text.firstWord line.rest) frame.directory s.conditions.inForce
        .walking ({ frame with cursor := cursor, taking := some entry } :: outer) s
      else
        goOn (dispatch ctx (fun _ => pure ()) frame.directory line cursor s) fun result t =>
          proceed ctx frame outer line result.1 result.2.val t

/-- One step. -/
def step (ctx : WalkContext) : Machine → Machine
  | .entering directory outer s =>
      goOn (openFile ctx directory s) fun lines t =>
        .walking (⟨directory, .ofLines lines, 0, none⟩ :: outer) t
  | .walking [] s => .stopped (closeRoot s)
  | .walking (frame :: outer) s =>
      match frame.taking with
      | none => dispatchNext ctx frame outer s
      | some entry => extract ctx frame entry outer s
  | .stopped outcome => .stopped outcome

/-- The machine at the beginning of a run. -/
def start (ctx : WalkContext) (root : Option Text) (s : WalkState) : Machine :=
  goOn (openRoot ctx s) fun _ t => .entering (startDirectory ctx root) [] t

/-- What a step of a file may leave. Either the walk stops, or the loop over the file, a block or an
entry ends, or the file has fewer lines than before. -/
inductive Shrinks (frame : Frame) (outer : List Frame) : Machine → Prop where
  | stopped (e : Failure) (t : WalkState) : Shrinks frame outer (.stopped (.error e t))
  | fileEnded (t : WalkState) : Shrinks frame outer (.walking outer t)
  | blockEnded (opened : Nat) (cursor : Cursor) (t : WalkState)
      (hopened : frame.opened = opened + 1) (hlines : frame.cursor.lines = [])
      (hcursor : cursor.lines = []) :
      Shrinks frame outer
        (.walking ({ frame with cursor := cursor, opened := opened } :: outer) t)
  | entryEnded (entry : Entry) (cursor : Cursor) (t : WalkState)
      (htaking : frame.taking = some entry) (hcursor : cursor.lines = frame.cursor.lines) :
      Shrinks frame outer
        (.walking ({ frame with cursor := cursor, taking := none } :: outer) t)
  | shorter (next : Frame) (t : WalkState) (hsize : next.cursor.size < frame.cursor.size) :
      Shrinks frame outer (.walking (next :: outer) t)
  | entered (target : Text) (next : Frame) (t : WalkState)
      (hsize : next.cursor.size < frame.cursor.size) :
      Shrinks frame outer (.entering target (next :: outer) t)

theorem Shrinks.goOn {frame : Frame} {outer : List Frame}
    {outcome : EStateM.Result Failure WalkState α} {next : α → WalkState → Machine}
    (h : ∀ a t, outcome = .ok a t → Shrinks frame outer (next a t)) :
    Shrinks frame outer (goOn outcome next) := by
  cases outcome with
  | ok a t => exact h a t rfl
  | error e t => exact .stopped e t

/-- A look at a line takes it or ends the entry. -/
theorem shrinks_extract (ctx : WalkContext) {frame : Frame} {entry : Entry}
    (htaking : frame.taking = some entry) (outer : List Frame) (s : WalkState) :
    Shrinks frame outer (extract ctx frame entry outer s) := by
  have hlines := Cursor.lines_peek_snd frame.cursor
  unfold extract
  split
  next cursor hpeek =>
    rw [hpeek] at hlines
    exact .goOn fun _ t _ => .entryEnded entry cursor t htaking hlines
  next line cursor hpeek =>
    have hhead := Cursor.peek_fst frame.cursor
    rw [hpeek] at hlines hhead
    split
    next => exact .goOn fun _ t _ => .entryEnded entry cursor t htaking hlines
    next found _ =>
      apply Shrinks.shorter
      have hnonempty : 0 < frame.cursor.lines.length := by
        cases hl : frame.cursor.lines with
        | nil => simp [hl] at hhead
        | cons first rest => simp
      have htail : cursor.next.2.lines = frame.cursor.lines.tail := by
        rw [Cursor.lines_next_snd, hlines]
      simp only [Cursor.size, htail, List.length_tail]
      omega

/-- A line of a block is taken, or the block ends with the lines. -/
theorem shrinks_dispatchNext (ctx : WalkContext) (frame : Frame) (outer : List Frame)
    (s : WalkState) : Shrinks frame outer (dispatchNext ctx frame outer s) := by
  unfold dispatchNext
  split
  next cursor hnext =>
    have hhead := Cursor.next_fst frame.cursor
    have htail := Cursor.lines_next_snd frame.cursor
    rw [hnext] at hhead htail
    have hnil : frame.cursor.lines = [] := by simpa using hhead.symm
    split
    next => exact .fileEnded s
    next opened hopened =>
      exact .blockEnded opened cursor s hopened hnil (by simpa [hnil] using htail)
  next line cursor hnext =>
    have hsize := Cursor.size_lt_of_next hnext
    split
    next => exact .shorter _ _ hsize
    next =>
      refine .goOn fun result t _ => ?_
      have hrest := Nat.lt_of_le_of_lt result.2.property hsize
      unfold proceed
      split
      next => exact .fileEnded _
      next =>
        split
        next => exact .shorter _ _ hrest
        next => exact .entered _ _ _ hrest

/-- Every step of a file leaves it fewer lines or ends a loop. -/
theorem shrinks_step (ctx : WalkContext) (frame : Frame) (outer : List Frame) (s : WalkState) :
    Shrinks frame outer (step ctx (.walking (frame :: outer) s)) := by
  rw [step]
  split
  next => exact shrinks_dispatchNext ctx frame outer s
  next entry htaking => exact shrinks_extract ctx htaking outer s

/-- The second machine is the first after some steps. -/
def Reaches (ctx : WalkContext) : Machine → Machine → Prop :=
  Relation.ReflTransGen fun m m' => step ctx m = m'

namespace Reaches

variable {ctx : WalkContext} {m m' m'' : Machine}

theorem refl (m : Machine) : Reaches ctx m m := Relation.ReflTransGen.refl

theorem trans (h : Reaches ctx m m') (h' : Reaches ctx m' m'') : Reaches ctx m m'' :=
  Relation.ReflTransGen.trans h h'

theorem of_step (h : Reaches ctx (step ctx m) m') : Reaches ctx m m' := .head rfl h

/-- What is reached is so after a number of steps. -/
theorem exists_iterate (h : Reaches ctx m m') : ∃ n, (step ctx)^[n] m = m' := by
  induction h using Relation.ReflTransGen.head_induction_on with
  | refl => exact ⟨0, rfl⟩
  | head hstep _ ih =>
      obtain ⟨n, hn⟩ := ih
      exact ⟨n + 1, by rw [Function.iterate_succ_apply, hstep, hn]⟩

/-- What is reached after a part of the walk that fails or goes on. -/
theorem goOn {outcome : EStateM.Result Failure WalkState α} {next next' : α → WalkState → Machine}
    (h : ∀ a t, outcome = .ok a t → Reaches ctx (next a t) (next' a t)) :
    Reaches ctx (goOn outcome next) (goOn outcome next') := by
  cases outcome with
  | ok a t => exact h a t rfl
  | error e t => exact refl _

end Reaches

section Steps

variable {ctx : WalkContext} {directory : Text} {cursor : Cursor} {opened : Nat}
  {outer : List Frame} {s : WalkState}

theorem goOn_bind (m : Walk α) (f : α → Walk β) (s : WalkState) (next : β → WalkState → Machine) :
    goOn ((m >>= f) s) next = goOn (m s) fun a t => goOn (f a t) next := by
  rw [bind_apply]
  cases m s <;> rfl

/-- An entry takes its attribute lines one by one, and is rendered, by induction on collecting
them. -/
theorem reaches_collect (entry : Entry) (cursor : Cursor) :
    Reaches ctx (.walking (⟨directory, cursor, opened, some entry⟩ :: outer) s)
      (goOn (renderEntry ctx (entry.collect cursor).entry
          (((entry.collect cursor).ended.map unhandled).elim s s.note)) fun _ t =>
        .walking (⟨directory, (entry.collect cursor).cursor, opened, none⟩ :: outer) t) := by
  fun_induction Entry.collect entry cursor with
  | case1 entry cursor rest hnext =>
      apply Reaches.of_step
      have hpeek : cursor.peek = (none, rest) := by rw [Cursor.peek, hnext]
      simp only [step, extract, hpeek]
      exact Reaches.refl _
  | case2 entry cursor line rest hnext hnone =>
      apply Reaches.of_step
      have hpeek : cursor.peek = (some line, rest.pushBack line) := by rw [Cursor.peek, hnext]
      simp only [step, extract, hpeek, hnone]
      exact Reaches.refl _
  | case3 entry cursor line rest hnext found hfound ih =>
      apply Reaches.of_step
      have hpeek : cursor.peek = (some line, rest.pushBack line) := by rw [Cursor.peek, hnext]
      simp only [step, extract, hpeek, hfound]
      exact ih

/-- A line that is taken has its effect, and then the walk goes on after the lines that it leaves
behind. -/
theorem reaches_line {line : Line} {after : List Line} (hcursor : cursor.lines = line :: after) :
    ∃ rest : Cursor, rest.lines = line.behind after ∧
      Reaches ctx (.walking (⟨directory, cursor, opened, none⟩ :: outer) s)
        (goOn (effect ctx (fun _ => pure ()) directory line after s) fun _ t =>
          proceed ctx ⟨directory, cursor, opened, none⟩ outer line line.turn rest t) := by
  obtain ⟨rest, hnext, hrest⟩ : ∃ rest, cursor.next = (some line, rest) ∧ rest.lines = after := by
    have hhead := Cursor.next_fst cursor
    have htail := Cursor.lines_next_snd cursor
    rw [hcursor] at hhead htail
    exact ⟨cursor.next.2, Prod.ext hhead rfl, htail⟩
  by_cases hdeclares : line.declares
  · let entry := Entry.bare (Text.firstWord line.rest) directory s.conditions.inForce
    have hturn : line.turn = .onward := by simp [Line.turn, hdeclares.1]
    have htarget : ctx.target? line = none := WalkContext.target?_of_ne (by simp [hdeclares.1])
    obtain ⟨hentry, hleft, hended⟩ := entry.collect_eq rest
    rw [hrest] at hentry hleft hended
    refine ⟨(entry.collect rest).cursor, by rw [hleft, Line.behind, if_pos hdeclares], ?_⟩
    apply Reaches.of_step
    simp only [step, dispatchNext, hnext, if_pos hdeclares]
    have hcollect := @reaches_collect ctx directory opened outer s entry rest
    rw [hentry, hended] at hcollect
    simpa only [effect_config after hdeclares, Line.entry, proceed, hturn, Turn.count, htarget]
      using hcollect
  · have hbehind : line.behind after = after := if_neg hdeclares
    cases hdispatch : dispatch ctx (fun _ => pure ()) directory line rest s with
    | error e t =>
        have heffect := effect_of_dispatch_error hdispatch
        rw [hrest] at heffect
        refine ⟨rest, hrest.trans hbehind.symm, .of_step ?_⟩
        simp only [step, dispatchNext, hnext, if_neg hdeclares, hdispatch, heffect]
        exact Reaches.refl _
    | ok result t =>
        obtain ⟨turn, left⟩ := result
        obtain ⟨heffect, rfl, hleft⟩ := effect_of_dispatch_ok hdispatch
        rw [hrest] at heffect hleft
        refine ⟨left.val, hleft, .of_step ?_⟩
        simp only [step, dispatchNext, hnext, if_neg hdeclares, hdispatch, heffect]
        exact Reaches.refl _

/-- At the end of its lines a file is left, with all its blocks. -/
theorem reaches_end (hcursor : cursor.lines = []) :
    Reaches ctx (.walking (⟨directory, cursor, opened, none⟩ :: outer) s) (.walking outer s) := by
  have hhead := Cursor.next_fst cursor
  have htail := Cursor.lines_next_snd cursor
  rw [hcursor] at hhead htail
  have hnext : cursor.next = (none, cursor.next.2) := Prod.ext hhead rfl
  induction opened generalizing cursor with
  | zero =>
      apply Reaches.of_step
      rw [step, dispatchNext, hnext]
      exact Reaches.refl _
  | succ opened ih =>
      apply Reaches.of_step
      rw [step, dispatchNext, hnext]
      have hrest := Cursor.next_fst cursor.next.2
      have hleft := Cursor.lines_next_snd cursor.next.2
      rw [htail] at hrest hleft
      exact ih htail hrest hleft (Prod.ext hrest rfl)

/-- After a line the file that it names is entered, or the walk goes on. -/
theorem reaches_proceed {below : Text → List Step} {frame : Frame} {line : Line} {turn : Turn}
    {opened' : Nat} {next : WalkState → Machine} (hcount : turn.count frame.opened = some opened')
    (hbelow : ∀ target, ctx.target? line = some target → ∀ outer s,
      Reaches ctx (.entering target outer s)
        (goOn (follow ctx (below target) s) fun _ t => .walking outer t))
    (hnext : ∀ t, Reaches ctx
      (.walking ({ frame with cursor := cursor, opened := opened' } :: outer) t) (next t)) :
    Reaches ctx (proceed ctx frame outer line turn cursor s)
      (goOn (follow ctx ((ctx.target? line).elim [] below) s) fun _ t => next t) := by
  simp only [proceed, hcount]
  cases htarget : ctx.target? line with
  | none => exact hnext s
  | some target => exact (hbelow target htarget _ s).trans (.goOn fun _ t _ => hnext t)

/-- A pass over lines takes its steps, if the files that are sourced are entered and left; by
induction on the lines. -/
theorem reaches_pass {below : Text → List Step} {lines : List Line} {taking : Bool}
    (hbelow : ∀ target outer s, .endless ∉ below target → Reaches ctx (.entering target outer s)
      (goOn (follow ctx (below target) s) fun _ t => .walking outer t))
    (hcursor : cursor.lines = untaken taking lines)
    (hends : .endless ∉ passSteps ctx below directory taking opened lines) :
    Reaches ctx (.walking (⟨directory, cursor, opened, none⟩ :: outer) s)
      (goOn (follow ctx (passSteps ctx below directory taking opened lines) s) fun _ t =>
        .walking outer
          { t with unread := t.unread ++ (leftOver taking opened lines).toArray }) := by
  induction lines generalizing taking opened cursor s with
  | nil =>
      have hnil : cursor.lines = [] := by simpa [untaken] using hcursor
      have hstate : ∀ t : WalkState, { t with unread := t.unread ++ #[] } = t := by simp
      simpa [passSteps, dispatched, leftOver, goOn, hstate] using reaches_end hnil
  | cons line after ih =>
      cases htaken : (taking && line.isAttribute) with
      | true =>
          rw [untaken_cons_of_pos after htaken] at hcursor
          rw [passSteps, dispatched, if_pos htaken] at hends ⊢
          rw [leftOver, if_pos htaken]
          exact ih hcursor hends
      | false =>
          rw [untaken_cons_of_neg after htaken] at hcursor
          rw [passSteps, dispatched, if_neg (by simp [htaken]), List.flatMap_cons] at hends ⊢
          rw [leftOver, if_neg (by simp [htaken])]
          rw [List.mem_append, not_or] at hends
          obtain ⟨rest, hrest, hline⟩ :=
            @reaches_line ctx directory cursor opened outer s _ _ hcursor
          refine hline.trans ?_
          rw [follow_append, goOn_bind, lineSteps, follow_cons, goOn_bind]
          refine .goOn fun _ t _ => ?_
          cases hcount : line.turn.count opened with
          | none =>
              -- The line ends the outermost block, so it leads nowhere and takes no lines.
              have hdone : line.turn = .done := by
                cases hturn : line.turn <;> simp_all [Turn.count]
              have hk : line.keyword? ≠ some .source := by
                intro hk
                simp [Line.turn, hk] at hdone
              rw [Line.behind_of_turn_ne (by simp [hdone])] at hrest
              simp only [proceed, hcount, WalkContext.target?_of_ne hk, hrest]
              exact Reaches.refl _
          | some opened' =>
              rw [behind_eq_untaken] at hrest
              have hmore := hends.2
              rw [hcount] at hmore
              refine reaches_proceed hcount (fun target htarget outer s => ?_)
                (fun t => ih hrest hmore)
              apply hbelow target outer s
              intro hmem
              apply hends.1
              simp [lineSteps, htarget, hmem]

/-- A file that is walked to an end is entered, walked and left, by induction on how many files may
be open. -/
theorem reaches_file {depth : Nat} (hends : .endless ∉ itinerary ctx depth directory)
    (outer : List Frame) (s : WalkState) :
    Reaches ctx (.entering directory outer s)
      (goOn (follow ctx (itinerary ctx depth directory) s) fun _ t => .walking outer t) := by
  induction depth generalizing directory outer s with
  | zero => exact absurd (List.mem_singleton.2 rfl) hends
  | succ depth ih =>
      apply Reaches.of_step
      rw [itinerary] at hends ⊢
      rw [follow_cons, goOn_bind]
      cases hlines : ctx.fileLines? directory with
      | none =>
          obtain ⟨e, t, hopen⟩ := openFile_of_fileLines?_none hlines s
          simp only [step, perform, map_apply, hopen]
          exact Reaches.refl _
      | some lines =>
          obtain ⟨path, -, hopen⟩ := openFile_of_fileLines? hlines s
          simp only [hlines, Option.elim_some, List.mem_cons, List.mem_append, not_or] at hends
          simp only [step, perform, map_apply, hopen, Option.elim_some, goOn_ok, follow_append,
            goOn_bind]
          have hcursor : (Cursor.ofLines lines).lines = untaken false lines := rfl
          have hpass := fun s => @reaches_pass ctx directory (.ofLines lines) 0 outer s
            (itinerary ctx depth) lines false (fun target outer s h => ih h outer s) hcursor
            hends.2.1
          exact (hpass _).trans (.goOn fun _ t _ => Reaches.refl _)

/-- So is a whole run, if the walk of its first file comes to an end. -/
theorem reaches_run (ctx : WalkContext) (root : Option Text) (s : WalkState)
    (hends : ∀ t, .endless ∉ itinerary ctx (depthBound ctx t) (startDirectory ctx root)) :
    Reaches ctx (start ctx root s) (.stopped (run ctx root s)) := by
  rw [start, run_apply]
  cases openRoot ctx s with
  | error e t => exact Reaches.refl _
  | ok _ t =>
      refine (reaches_file (hends t) [] t).trans ?_
      simp only [processFile_apply]
      cases follow ctx (itinerary ctx (depthBound ctx t) (startDirectory ctx root)) t with
      | error e u => exact Reaches.refl _
      | ok _ u => exact Reaches.of_step (Reaches.refl _)

end Steps

end Machine

end KconfigReference.Walk
