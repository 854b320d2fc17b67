import KconfigReference.Proofs.Structure.Walking
import KconfigReference.Proofs.Walk.Parallel
import KconfigReference.Proofs.Walk.Recorded

/-!
Conditions and blocks. Nothing that a run does depends on the conditions, except for what the
entries show of them and the faults of the conditions themselves. Main statement: a run on a tree
without its conditions writes the same reference but for the conditions.
-/

namespace KconfigReference

namespace Line

/-- Whether a line opens or closes a condition. -/
def isConditional (line : Line) : Bool :=
  line.keyword? = some .ifWord || line.keyword? = some .endIf

/-- Instead of a line that opens or closes a condition there is one whose first word is not
reserved; other lines stay. -/
def Silences (line line' : Line) : Prop :=
  if line.isConditional then line'.keyword? = none else line' = line

variable {line line' : Line}

theorem isConditional_iff :
    line.isConditional = true ↔ line.keyword? = some .ifWord ∨ line.keyword? = some .endIf := by
  simp [isConditional]

/-- A line that says nothing keeps the place of the line that it stands for. -/
theorem Silences.cases (h : Silences line line') :
    line' = line ∧ line.keyword? ≠ some .ifWord ∧ line.keyword? ≠ some .endIf ∨
      (line.keyword? = some .ifWord ∨ line.keyword? = some .endIf) ∧ line'.keyword? = none := by
  unfold Silences at h
  split at h
  next hconditional => exact .inr ⟨isConditional_iff.1 hconditional, h⟩
  next hconditional =>
    rw [isConditional_iff, not_or] at hconditional
    exact .inl ⟨h, hconditional⟩

theorem Silences.turn_eq (h : Silences line line') : line'.turn = line.turn := by
  rcases h.cases with ⟨rfl, -⟩ | ⟨hk | hk, hk'⟩
  · rfl
  · simp [turn, hk, hk']
  · simp [turn, hk, hk']

theorem Silences.isAttribute_eq (h : Silences line line') :
    line'.isAttribute = line.isAttribute := by
  rcases h.cases with ⟨rfl, -⟩ | ⟨hk | hk, hk'⟩
  · rfl
  · simp [isAttribute, attribute?, hk, hk']
  · simp [isAttribute, attribute?, hk, hk']

theorem Silences.declares_iff (h : Silences line line') : line'.declares ↔ line.declares := by
  rcases h.cases with ⟨rfl, -⟩ | ⟨hk | hk, hk'⟩
  · exact Iff.rfl
  · simp [declares, hk, hk']
  · simp [declares, hk, hk']

theorem Silences.target_eq (h : Silences line line') (ctx : WalkContext) :
    ctx.target? line' = ctx.target? line := by
  rcases h.cases with ⟨rfl, -⟩ | ⟨hk | hk, hk'⟩
  · rfl
  · rw [WalkContext.target?_of_ne (by simp [hk']), WalkContext.target?_of_ne (by simp [hk])]
  · rw [WalkContext.target?_of_ne (by simp [hk']), WalkContext.target?_of_ne (by simp [hk])]

/-- Attribute lines end at the same place. -/
theorem takeWhile_silences {lines lines' : List Line} (h : List.Forall₂ Silences lines lines') :
    lines'.takeWhile isAttribute = lines.takeWhile isAttribute := by
  induction h with
  | nil => rfl
  | @cons line line' rest rest' hline _ ih =>
      rw [List.takeWhile_cons, List.takeWhile_cons, hline.isAttribute_eq, ih]
      split
      next hattribute =>
        rcases hline.cases with ⟨rfl, -⟩ | ⟨hk, -⟩
        · rfl
        · rcases hk with hk | hk <;> simp [isAttribute, attribute?, hk] at hattribute
      next => rfl

end Line

namespace Markup

/-- What stands before the conditions of an entry. -/
def conditionsMark : Text := "  <li><i>Dependencies</i>: "

/-- Whether a line of the details gives the conditions. -/
def givesConditions (line : Text) : Bool := conditionsMark.isPrefixOf line

/-- The details without the line of the conditions are those of the entry without conditions. -/
theorem filter_detailLines (entry : Entry) (path : Text) :
    (detailLines entry path).filter (fun line => !givesConditions line) =
      detailLines { entry with conditions := [] } path := by
  have hsame : ({ entry with conditions := [] } : Entry).isHidden = entry.isHidden := rfl
  unfold detailLines
  rw [hsame]
  simp only [List.filter_append]
  congr 1
  · congr 2
    · congr 1
      · cases entry.type <;> rfl
      · cases entry.default <;> rfl
    · split <;> rfl
  · split <;> rfl

end Markup

/-- The text of an item of the body without the line of the conditions. -/
def BodyItem.textWithoutConditions : BodyItem → Text
  | .details entry path =>
      Markup.openList ++
        Text.join ['\n'] ((Markup.detailLines entry path).filter fun line =>
          !Markup.givesConditions line) ++ "\n" ++ Markup.closeList
  | item => item.text

theorem BodyItem.textWithoutConditions_of_not_details {item : BodyItem}
    (h : item.isDetails = false) : item.textWithoutConditions = item.text := by
  cases item <;> first | rfl | cases h

theorem BodyItem.textWithoutConditions_details (entry : Entry) (path : Text) :
    (details entry path).textWithoutConditions =
      (details { entry with conditions := [] } path).text := by
  rw [textWithoutConditions, Markup.filter_detailLines]
  rfl

/-- The faults of the conditions. -/
def Failure.IsConditional (e : Failure) : Prop :=
  ∃ d, e = .reported d ∧ (d.kind = .conditionOverflow ∨ d.kind = .conditionUnderflow)

namespace Walk

/-- Two walks of which the second knows no conditions. -/
def unconditioned (layout : Layout) : Likeness layout where
  entries e e' := e' = { e with conditions := [] }
  body item item' := item'.text = item.textWithoutConditions
  conditions c c' := (∃ n, c.capacity = .count n) ∧ c'.inForce = []
  opened paths paths' := paths' = paths
  name_eq h := by rw [h]
  description_eq h := by rw [h]
  heading h _ htext := by rw [htext, BodyItem.textWithoutConditions_of_not_details h]
  details := by
    rintro e _ path path' rfl hpath hpath'
    obtain rfl : path = path' := by simpa [hpath] using hpath'
    exact (BodyItem.textWithoutConditions_details e path).symm
  push := @Likeness.push_eq

section

variable {ctx : WalkContext} {tree : FileTree} {line line' : Line}

/-- Where a condition can be opened, the second walk only passes over the line. -/
theorem unconditioned_push (line : Line) (record : LogRecord) :
    Parallel Failure.IsConditional (unconditioned ctx.layout).Alike (pushCondition line)
      (note record) := by
  intro s t h
  obtain ⟨⟨n, hcapacity⟩, hnone⟩ := h.conditions
  rw [pushCondition_apply, Conditions.push, hcapacity, Limit.reached_count]
  cases decide (n ≤ (s.conditions.height : Int)) with
  | true => exact .excused ⟨_, rfl, .inl rfl⟩ _ _
  | false => exact .ok () ⟨h.nesting, h.showInternal, h.toc, h.body, ⟨⟨n, rfl⟩, hnone⟩, h.opened⟩

theorem unconditioned_pop (line : Line) (record : LogRecord) :
    Parallel Failure.IsConditional (unconditioned ctx.layout).Alike (popCondition line)
      (note record) := by
  intro s t h
  obtain ⟨⟨n, hcapacity⟩, hnone⟩ := h.conditions
  rw [popCondition_apply, Conditions.pop]
  cases s.conditions.stack with
  | nil => exact .excused ⟨_, rfl, .inr rfl⟩ _ _
  | cons condition outer =>
      exact .ok () ⟨h.nesting, h.showInternal, h.toc, h.body, ⟨⟨n, hcapacity⟩, hnone⟩, h.opened⟩

/-- Without the faults of the conditions, a tree without conditions is walked like the tree with
them. -/
theorem mirrors_silenced (htree : ctx.tree.Alike (ctx.CutAlike Line.Silences) tree) :
    Mirrors ctx tree Failure.IsConditional (unconditioned ctx.layout) Line.Silences where
  paths := linesAlike_onTree htree
  turn h := h.turn_eq
  isAttribute h := h.isAttribute_eq
  declares h := h.declares_iff
  target h := h.target_eq ctx
  line {line line' after after'} directory hline hafter := by
    rcases hline.cases with ⟨rfl, hif, hendif⟩ | ⟨hk | hk, hk'⟩
    · refine .effect (fun _ c c' hc => ?_) (fun hk => absurd hk hif) (fun hk => absurd hk hendif)
      show line'.entry directory c'.inForce after' = _
      rw [hc.2, Line.entry_conditions _ _ c.inForce, Line.entry, Line.entry,
        Line.takeWhile_silences hafter]
    · rw [effect_if after hk, effect_of_ignored after' (.inl hk')]
      exact unconditioned_push line _
    · rw [effect_endIf after hk, effect_of_ignored after' (.inl hk')]
      exact unconditioned_pop line _

end

/-- Two states that differ, as far as the reference goes, in the conditions that entries show. -/
structure SameButConditions (s t : WalkState) : Prop where
  toc : t.toc.toList.map TocItem.text = s.toc.toList.map TocItem.text
  body : t.body.toList.map BodyItem.text = s.body.toList.map BodyItem.textWithoutConditions
  nesting : t.nesting = s.nesting
  opened : t.opened = s.opened

theorem map_text_of_unconditioned {layout : Layout} {items items' : List BodyItem}
    (h : List.Forall₂ (unconditioned layout).body items items') :
    items'.map BodyItem.text = items.map BodyItem.textWithoutConditions := by
  rw [← List.forall₂_eq_eq_eq, List.forall₂_map_left_iff, List.forall₂_map_right_iff]
  exact h.flip

theorem sameButConditions_of_alike {layout : Layout} {s t : WalkState}
    (h : (unconditioned layout).Alike s t) : SameButConditions s t :=
  ⟨h.toc, map_text_of_unconditioned h.body, h.nesting, h.opened⟩

/-- A state without conditions and details is like itself. -/
theorem unconditioned_refl {layout : Layout} {s : WalkState} {n : Int}
    (hconditions : s.conditions = .fresh (.count n))
    (hbody : ∀ item ∈ s.body.toList, item.isDetails = false) :
    (unconditioned layout).Alike s s := by
  refine ⟨rfl, rfl, rfl, List.forall₂_same.2 fun item hitem => ?_, ?_, rfl⟩
  · exact (BodyItem.textWithoutConditions_of_not_details (hbody item hitem)).symm
  · rw [hconditions]
    exact ⟨⟨n, rfl⟩, rfl⟩

section Runs

variable {ctx : WalkContext} {tree : FileTree} {maxLevels maxConditions : Int}

/-- A run on the tree without its conditions goes like the run on the tree with them. -/
theorem run_silenced (htree : ctx.tree.Alike (ctx.CutAlike Line.Silences) tree)
    (root : Option Text) (showInternal : Bool) :
    let start : WalkState := .fresh (.count maxLevels) (.count maxConditions) showInternal
    Meets Failure.IsConditional (unconditioned ctx.layout).Alike (run ctx root start)
      (run (ctx.onTree tree) root start) := by
  intro start
  refine Meets.run (unconditioned_refl rfl (by simp [WalkState.fresh])) fun banner => ?_
  let rooted : WalkState := .rooted (.count maxLevels) (.count maxConditions) showInternal banner
  have hrooted : (unconditioned ctx.layout).Alike rooted rooted :=
    unconditioned_refl rfl (by simp [rooted, WalkState.rooted, BodyItem.isDetails])
  have hwalk := (mirrors_silenced htree).itinerary (.inl (Eq.refl (depthBound ctx rooted)))
    (startDirectory ctx root) rooted rooted hrooted
  rw [processFile_apply, processFile_apply, depthBound_of_alike ctx (ctx.onTree tree) htree]
  exact hwalk

/-- What a run has written of the conditions: the entries that the steps of its itinerary render,
all of them or, where it fails, those of the steps before. -/
theorem recorded_run (ctx : WalkContext) (root : Option Text) (maxLevels maxConditions : Limit)
    (showInternal : Bool) :
    let steps := itinerary ctx
      (depthBound ctx (.numbered maxLevels maxConditions showInternal)) (startDirectory ctx root)
    match run ctx root (.fresh maxLevels maxConditions showInternal) with
    | .ok _ t => t.detailed = rendered showInternal [] steps
    | .error _ t => ∃ taken rest, steps = taken ++ rest ∧
        t.detailed = rendered showInternal [] taken := by
  intro steps
  rw [run_apply, openRoot_fresh]
  rcases maxLevels.reached 0 with m | _ | _
  · exact ⟨[], steps, rfl, rfl⟩
  · cases ctx.bannerText with
    | error m => exact ⟨[], steps, rfl, rfl⟩
    | ok banner =>
        let rooted : WalkState := .rooted maxLevels maxConditions showInternal banner
        have hrooted : Recorded [] showInternal [] rooted := ⟨rfl, rfl, rfl⟩
        have hwalk : processFile ctx (startDirectory ctx root) rooted = follow ctx steps rooted :=
          processFile_apply ctx _ rooted
        have hfollow := recorded_follow ctx steps rooted hrooted
        simp only
        rw [hwalk]
        revert hfollow
        generalize follow ctx steps rooted = outcome
        intro hfollow
        cases outcome with
        | ok _ t => exact hfollow
        | error e t => exact hfollow
  · exact ⟨[], steps, rfl, rfl⟩

/-- Conditions and blocks do not interfere. Where a run raises no fault of the conditions, the run
on the tree with silent lines in place of the `if` and `endif` lines ends or fails alike, with the
same table of contents, the same numbering, the same files opened and, but for the lines of the
details that give conditions, the same body. And the entries whose details the run has written are
those that the lines of its itinerary declare, each with the conditions, outermost first, of the
`if` lines before it that no `endif` line before it has cancelled; where the run fails, up to the
failing line. -/
theorem run_conditions_independent {ctx : WalkContext} {tree : FileTree}
    (htree : ctx.tree.Alike (ctx.CutAlike Line.Silences) tree) (root : Option Text)
    (maxLevels maxConditions : Int) (showInternal : Bool)
    (hfault : ∀ e t, run ctx root
      (.fresh (.count maxLevels) (.count maxConditions) showInternal) = .error e t →
        ¬e.IsConditional) :
    let start : WalkState := .fresh (.count maxLevels) (.count maxConditions) showInternal
    let steps := itinerary ctx
      (depthBound ctx (.numbered (.count maxLevels) (.count maxConditions) showInternal))
      (startDirectory ctx root)
    (match run ctx root start, run (ctx.onTree tree) root start with
      | .ok _ t, .ok _ t' => SameButConditions t t'
      | .error e t, .error e' t' => e' = e ∧ SameButConditions t t'
      | _, _ => False) ∧
    (match run ctx root start with
      | .ok _ t => t.detailed = rendered showInternal [] steps
      | .error _ t => ∃ taken rest, steps = taken ++ rest ∧
          t.detailed = rendered showInternal [] taken) := by
  intro start steps
  refine ⟨?_, recorded_run ctx root (.count maxLevels) (.count maxConditions) showInternal⟩
  have hmeets : Meets Failure.IsConditional (unconditioned ctx.layout).Alike (run ctx root start)
      (run (ctx.onTree tree) root start) := run_silenced htree root showInternal
  have hno : ∀ e t, run ctx root start = .error e t → ¬e.IsConditional := hfault
  revert hmeets hno
  generalize run ctx root start = outcome
  generalize run (ctx.onTree tree) root start = outcome'
  intro hmeets hno
  cases hmeets with
  | ok _ h => exact sameButConditions_of_alike h
  | error e h => exact ⟨rfl, sameButConditions_of_alike h⟩
  | excused he t _ => exact absurd he (hno _ t rfl)

end Runs

/-- A tree with a condition around a menu. -/
def guardedText : Text := "if A\nmenu \"M\"\nconfig X\n\tbool \"x\"\nendmenu\nendif\n"

def silencedText : Text := "comment A\nmenu \"M\"\nconfig X\n\tbool \"x\"\nendmenu\ncomment\n"

def guardedContext : WalkContext :=
  { sampleContext with
    tree := ⟨.directory [("Kconfig", .file (Utf8.encode guardedText))], []⟩ }

def silencedTree : FileTree := ⟨.directory [("Kconfig", .file (Utf8.encode silencedText))], []⟩

def guardedItems : Items :=
  .conditional ⟨"if A", "./Kconfig", 1⟩
    (.block .menu ⟨"menu \"M\"", "./Kconfig", 2⟩
      (.config ⟨"config X", "./Kconfig", 3⟩ [⟨"bool \"x\"", "./Kconfig", 4⟩] .nil)
      ⟨"endmenu", "./Kconfig", 5⟩ .nil)
    ⟨"endif", "./Kconfig", 6⟩ .nil

theorem reads_guarded : guardedContext.Reads "." guardedItems.lines where
  nameable := by decide
  found := ⟨"./Kconfig", guardedText, 80, rfl, by rfl, rfl, by decide +kernel, by decide +kernel⟩

theorem silenced_guarded :
    guardedContext.tree.Alike (guardedContext.CutAlike Line.Silences) silencedTree := by
  have hguarded : ∀ path, guardedContext.cut path (Utf8.encode guardedText) =
      .ok (wholeLines path (Text.physicalLines guardedText)) := by
    intro path
    have htext : Text.normalizeLineEndings (Utf8.decodeLenient (Utf8.encode guardedText)) =
        guardedText := by rfl
    rw [WalkContext.cut, htext]
    exact congrArg Except.ok (readLines_of_fits (by decide +kernel))
  have hsilenced : ∀ path, guardedContext.cut path (Utf8.encode silencedText) =
      .ok (wholeLines path (Text.physicalLines silencedText)) := by
    intro path
    have htext : Text.normalizeLineEndings (Utf8.decodeLenient (Utf8.encode silencedText)) =
        silencedText := by rfl
    rw [WalkContext.cut, htext]
    exact congrArg Except.ok (readLines_of_fits (by decide +kernel))
  have hlines : ∀ path, wholeLines path (Text.physicalLines guardedText) =
      [⟨"if A", path, 1⟩, ⟨"menu \"M\"", path, 2⟩, ⟨"config X", path, 3⟩, ⟨"bool \"x\"", path, 4⟩,
        ⟨"endmenu", path, 5⟩, ⟨"endif", path, 6⟩] := fun _ => by rfl
  have hlines' : ∀ path, wholeLines path (Text.physicalLines silencedText) =
      [⟨"comment A", path, 1⟩, ⟨"menu \"M\"", path, 2⟩, ⟨"config X", path, 3⟩,
        ⟨"bool \"x\"", path, 4⟩, ⟨"endmenu", path, 5⟩, ⟨"comment", path, 6⟩] := fun _ => by rfl
  refine ⟨rfl, rfl, fun path => ?_, trivial⟩
  rw [hguarded, hsilenced, hlines, hlines']
  exact .cons (by rfl) (.cons (by rfl) (.cons (by rfl) (.cons (by rfl) (.cons (by rfl)
    (.cons (by rfl) .nil)))))

theorem wellFormed_guarded : guardedItems.WellFormed guardedContext := by
  refine ⟨by decide, by decide, ⟨by decide, by decide, ⟨by decide, ?_, trivial⟩, trivial⟩, trivial⟩
  simp only [List.mem_singleton, forall_eq]
  decide

/-- The entry of the menu shows the condition around the menu. -/
theorem run_conditions_independent_sample :
    let start : WalkState := .fresh (.count 2) (.count 1) false
    guardedContext.tree.Alike (guardedContext.CutAlike Line.Silences) silencedTree ∧
      ∃ t t', run guardedContext none start = .ok () t ∧
        run (guardedContext.onTree silencedTree) none start = .ok () t' ∧
        SameButConditions t t' ∧
        t.detailed = [⟨"X", ".", some .boolean, some "x", none, false, ["A"]⟩] := by
  intro start
  let rooted : WalkState := .rooted (.count 2) (.count 1) false "B"
  let around : Surroundings := ⟨".", [], [], 0⟩
  have hdepth : depthBound guardedContext rooted = 35 + 1 := by decide +kernel
  have hstands : Stands (.count 2) (.count 1) false around ⟨0, 1, 0⟩ rooted := ⟨rfl, rfl, rfl⟩
  have hroom : Room (.count 2) (.count 1) around guardedItems :=
    ⟨Limit.admits_count.2 (by decide), Limit.admits_count.2 (by decide)⟩
  have hname : guardedContext.layout.fileName.shown = .ok "Kconfig".toList := rfl
  have hshallow : guardedItems.fileDepth ≤ 35 := by decide
  obtain ⟨t, ht, -⟩ := file_items hname wellFormed_guarded hshallow reads_guarded hstands hroom
  have hrun : run guardedContext none start = .ok () t.closed := by
    have hroot : openRoot guardedContext start = .ok () rooted := rfl
    have hwalk : processFile guardedContext "." rooted = .ok () t := by
      simp only [processFile, bind_apply, get_apply, hdepth]
      exact ht
    have hdirectory : startDirectory guardedContext none = "." := rfl
    rw [run_apply, hroot, hdirectory]
    simp only [hwalk]
  obtain ⟨hsilenced, hdetailed⟩ := run_conditions_independent silenced_guarded none 2 1 false
    fun e u hu => by
      rw [hrun] at hu
      cases hu
  have hstart : run guardedContext none (.fresh (.count 2) (.count 1) false) =
      .ok () t.closed := hrun
  rw [hstart] at hsilenced
  rw [hstart] at hdetailed
  refine ⟨silenced_guarded, t.closed, ?_⟩
  have hsteps : t.closed.detailed =
      rendered false [] (itinerary guardedContext (35 + 1) ".") := by
    rw [show 35 + 1 = depthBound guardedContext rooted from hdepth.symm]
    exact hdetailed
  cases hother : run (guardedContext.onTree silencedTree) none start with
  | error e u =>
      rw [show run _ none (.fresh (.count 2) (.count 1) false) = _ from hother] at hsilenced
      exact hsilenced.elim
  | ok _ u =>
      rw [show run _ none (.fresh (.count 2) (.count 1) false) = _ from hother] at hsilenced
      refine ⟨u, hrun, rfl, hsilenced, ?_⟩
      rw [hsteps, itinerary, reads_guarded.fileLines?]
      rfl

end Walk

end KconfigReference
