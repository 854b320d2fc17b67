import KconfigReference.Proofs.Inlining

/-!
What a run reads of the files that it opens. A pass reads a file in order, up to a line that closes a
block which the file did not open; what comes after that line is given up without a word, because
only the number of open blocks is looked at in the end. Main statement: a run reads everything
exactly if no file that it opens goes on after such a line.
-/

namespace KconfigReference

/-- The attribute lines that a line takes from those after it. -/
def Line.taken (line : Line) (after : List Line) : List Line :=
  if line.declares then after.takeWhile isAttribute else []

theorem Line.taken_append_behind (line : Line) (after : List Line) :
    line.taken after ++ line.behind after = after := by
  unfold taken behind
  by_cases hdeclares : line.declares
  · rw [if_pos hdeclares, if_pos hdeclares]
    exact List.takeWhile_append_dropWhile
  · rw [if_neg hdeclares, if_neg hdeclares]
    rfl

theorem Line.taken_of_turn_ne {line : Line} (h : line.turn ≠ .onward) (after : List Line) :
    line.taken after = [] := by
  have hbehind := taken_append_behind line after
  rw [behind_of_turn_ne h] at hbehind
  exact List.append_left_eq_self.1 hbehind

namespace Walk

/-- The lines that are read where some lines are dispatched: each of them, with the lines that it
takes after it. -/
def covered (places : List (Line × List Line)) : List Line :=
  places.flatMap fun place => place.1 :: place.1.taken place.2

/-- Whether a line among these closes a block that they do not open, and more lines come after
it. -/
def EndsEarly (lines : List Line) : Prop :=
  ∃ before closer after, lines = before ++ closer :: after ∧ Balanced before ∧
    closer.turn = .done ∧ after ≠ []

variable {ctx : WalkContext} {directory : Text} {lines : List Line} {opened : Nat}

/-- A pass reads its lines in order, each of them once, up to those that it leaves. -/
theorem covered_append_leftOver (taking : Bool) (opened : Nat) (lines : List Line) :
    covered (dispatched taking opened lines) ++ leftOver taking opened lines =
      untaken taking lines := by
  induction lines generalizing taking opened with
  | nil => cases taking <;> rfl
  | cons line after ih =>
      rw [dispatched, leftOver]
      by_cases htaken : (taking && line.isAttribute) = true
      · rw [if_pos htaken, if_pos htaken, untaken_cons_of_pos after htaken]
        exact ih true opened
      · have hline : covered [(line, after)] = line :: line.taken after := by simp [covered]
        rw [if_neg htaken, if_neg htaken, untaken_cons_of_neg after (Bool.not_eq_true _ ▸ htaken)]
        cases hcount : line.turn.count opened with
        | none =>
            have hturn : line.turn ≠ .onward := by
              intro honward
              simp [honward, Turn.count] at hcount
            simp only [hline, Line.taken_of_turn_ne hturn, List.singleton_append]
        | some next =>
            have hrest := ih (decide line.declares) next
            rw [← behind_eq_untaken] at hrest
            calc covered ((line, after) :: dispatched (decide line.declares) next after) ++
                  leftOver (decide line.declares) next after
                = line :: (line.taken after ++
                    (covered (dispatched (decide line.declares) next after) ++
                      leftOver (decide line.declares) next after)) := by
                  simp [covered]
              _ = line :: after := by rw [hrest, Line.taken_append_behind]

/-- Lines that close no block outside them are all read. -/
theorem leftOver_of_openAfter {next : Nat} (h : openAfter opened lines = some next) (taking : Bool) :
    leftOver taking opened lines = [] := by
  have hnone : Line.NoAttributeFirst [] := by simp [Line.NoAttributeFirst]
  have happend := leftOver_append hnone taking opened lines
  rw [h, List.append_nil] at happend
  exact happend

/-- After a line that closes a block outside the lines nothing more is read. -/
theorem leftOver_of_closer {before after : List Line} {closer : Line}
    (hbefore : openAfter opened before = some 0) (hcloser : closer.turn = .done) (taking : Bool) :
    leftOver taking opened (before ++ closer :: after) = after := by
  have hplain : closer.isAttribute = false := by
    by_contra hattribute
    have honward := Line.turn_of_isAttribute (Bool.not_eq_false _ ▸ hattribute)
    rw [hcloser] at honward
    cases honward
  rw [leftOver_append (Line.noAttributeFirst_cons.2 hplain), hbefore, Option.elim_some, leftOver,
    hcloser]
  simp [Turn.count]

/-- Lines that close a block outside them have a first line that does, by induction on the lines. -/
theorem exists_closer (h : openAfter opened lines = none) :
    ∃ before closer after, lines = before ++ closer :: after ∧ openAfter opened before = some 0 ∧
      closer.turn = .done := by
  induction lines generalizing opened with
  | nil => cases h
  | cons line rest ih =>
      rw [openAfter_cons] at h
      cases hcount : line.turn.count opened with
      | none =>
          cases hturn : line.turn with
          | onward => simp [hturn, Turn.count] at hcount
          | inside => simp [hturn, Turn.count] at hcount
          | done =>
              cases opened with
              | zero => exact ⟨[], line, rest, rfl, rfl, hturn⟩
              | succ outer => simp [hturn, Turn.count] at hcount
      | some next =>
          rw [hcount, Option.bind_some] at h
          obtain ⟨before, closer, after, rfl, hbefore, hcloser⟩ := ih h
          refine ⟨line :: before, closer, after, rfl, ?_, hcloser⟩
          rw [openAfter_cons, hcount, Option.bind_some, hbefore]

theorem leftOver_ne_nil_iff : leftOver false 0 lines ≠ [] ↔ EndsEarly lines := by
  constructor
  · intro hleft
    cases hopen : openAfter 0 lines with
    | some next => exact absurd (leftOver_of_openAfter hopen false) hleft
    | none =>
        obtain ⟨before, closer, after, rfl, hbefore, hcloser⟩ := exists_closer hopen
        rw [leftOver_of_closer hbefore hcloser] at hleft
        exact ⟨before, closer, after, rfl, hbefore, hcloser, hleft⟩
  · rintro ⟨before, closer, after, rfl, hbefore, hcloser, hafter⟩
    rw [leftOver_of_closer hbefore hcloser]
    exact hafter

/-- The walk of a file that is entered is an uninterrupted part of the itinerary, by induction on
how many files may be open. -/
theorem infix_of_enter_mem {depth : Nat} {d : Text}
    (h : .enter d ∈ itinerary ctx depth directory) :
    ∃ fewer, itinerary ctx (fewer + 1) d <:+: itinerary ctx depth directory := by
  induction depth generalizing directory with
  | zero => simp [itinerary] at h
  | succ depth ih =>
      rw [itinerary, List.mem_cons] at h
      rcases h with heq | h
      · cases heq
        exact ⟨depth, List.infix_refl _⟩
      · cases hlines : ctx.fileLines? directory with
        | none => simp [hlines] at h
        | some lines =>
            simp only [hlines, Option.elim_some, List.mem_append, List.mem_singleton, reduceCtorEq,
              or_false] at h
            obtain ⟨place, hplace, heq | ⟨target, htarget, h⟩⟩ := mem_passSteps_iff.1 h
            · cases heq
            obtain ⟨fewer, hpart⟩ := ih h
            have hline : itinerary ctx depth target <:+:
                lineSteps ctx (itinerary ctx depth) directory place := by
              rw [lineSteps, htarget]
              exact (List.suffix_cons _ _).isInfix
            have hpass : lineSteps ctx (itinerary ctx depth) directory place <:+:
                passSteps ctx (itinerary ctx depth) directory false 0 lines :=
              List.infix_of_mem_flatten (List.mem_map_of_mem hplace)
            refine ⟨fewer, hpart.trans (hline.trans (hpass.trans ?_))⟩
            rw [itinerary, hlines, Option.elim_some]
            exact (List.prefix_append _ _).isInfix.trans (List.suffix_cons _ _).isInfix

/-- A file that is entered has its lines dispatched one after the other, and then it is left. -/
theorem mem_itinerary_of_enter {depth : Nat} {d : Text}
    (h : .enter d ∈ itinerary ctx depth directory) (hlines : ctx.fileLines? d = some lines) :
    (∀ place ∈ dispatched false 0 lines,
        .line d place.1 place.2 ∈ itinerary ctx depth directory) ∧
      .leave (leftOver false 0 lines) ∈ itinerary ctx depth directory := by
  obtain ⟨fewer, hpart⟩ := infix_of_enter_mem h
  have hown : itinerary ctx (fewer + 1) d = .enter d ::
      (passSteps ctx (itinerary ctx fewer) d false 0 lines ++ [.leave (leftOver false 0 lines)]) := by
    rw [itinerary, hlines, Option.elim_some]
  constructor
  · intro place hplace
    have hstep : .line d place.1 place.2 ∈ passSteps ctx (itinerary ctx fewer) d false 0 lines :=
      mem_passSteps_iff.2 ⟨place, hplace, .inl rfl⟩
    apply hpart.subset
    rw [hown]
    exact List.mem_cons_of_mem _ (List.mem_append_left _ hstep)
  · apply hpart.subset
    rw [hown]
    simp

/-- The lines with which a file is left are those that its pass leaves. -/
theorem exists_of_leave_mem {depth : Nat} {left : List Line}
    (h : .leave left ∈ itinerary ctx depth directory) :
    ∃ d lines, .enter d ∈ itinerary ctx depth directory ∧ ctx.fileLines? d = some lines ∧
      left = leftOver false 0 lines := by
  induction depth generalizing directory with
  | zero => simp [itinerary] at h
  | succ depth ih =>
      rw [itinerary] at h ⊢
      cases hlines : ctx.fileLines? directory with
      | none => simp [hlines] at h
      | some lines =>
          simp only [hlines, Option.elim_some, List.mem_cons, reduceCtorEq, false_or,
            List.mem_append, Step.leave.injEq, List.not_mem_nil, or_false] at h
          rcases h with h | rfl
          · obtain ⟨place, hplace, heq | ⟨target, htarget, h⟩⟩ := mem_passSteps_iff.1 h
            · cases heq
            obtain ⟨d, found, henter, hfound, hleft⟩ := ih h
            refine ⟨d, found, List.mem_cons_of_mem _ ?_, hfound, hleft⟩
            exact List.mem_append_left _
              (mem_passSteps_iff.2 ⟨place, hplace, .inr ⟨target, htarget, henter⟩⟩)
          · exact ⟨directory, lines, List.mem_cons_self, hlines, rfl⟩

namespace Step

/-- The path of the file that a step opens. -/
def paths (ctx : WalkContext) : Step → List Text
  | .enter directory => (ctx.layout.filePath directory).toOption.toList
  | _ => []

/-- The lines that a step leaves unread. -/
def unread : Step → List Line
  | .leave unread => unread
  | _ => []

end Step

/-- The files that were opened so far, and the lines that were left in them. -/
structure Visited (paths : List Text) (left : List Line) (s : WalkState) : Prop where
  opened : s.opened.toList = paths
  unread : s.unread.toList = left

section Steps

variable {paths : List Text} {left : List Line}

theorem visited_line (line : Line) (after : List Line) :
    Keeps (Visited paths left) Anywhere (effect ctx (fun _ => pure ()) directory line after) := by
  have hsame : ∀ s t : WalkState, Visited paths left s → t.opened = s.opened →
      t.unread = s.unread → Visited paths left t := fun s t hs hopened hunread =>
    ⟨hopened ▸ hs.opened, hunread ▸ hs.unread⟩
  have hnote : ∀ record s, Visited paths left s → Visited paths left (s.note record) :=
    fun _ s hs => hsame s _ hs rfl rfl
  apply Leads.effect hnote hnote
  · exact fun _ _ hs => hs
  · exact fun _ => .sourceLine hnote (fun _ _ => trivial) (fun _ => .pure ()) line
  · exact fun _ => .openMenu (fun s hs => hsame s _ hs rfl rfl) fun _ _ => trivial
  · exact fun _ => .openChoice (fun s hs => hsame s _ hs rfl rfl) fun _ _ => trivial
  · exact fun _ => .closeMenu (fun s _ _ _ hs _ => hsame s _ hs rfl rfl) fun _ _ _ => trivial
  · exact fun _ => .closeChoice (fun s _ _ _ hs _ => hsame s _ hs rfl rfl) fun _ _ _ => trivial
  · exact fun _ => .pushCondition (fun _ _ => trivial) fun s _ hs _ => hsame s _ hs rfl rfl
  · exact fun _ => .popCondition (fun _ _ => trivial) fun s _ hs _ => hsame s _ hs rfl rfl
  · intro _ _
    apply Leads.renderEntry
    · exact fun record s hs _ => hnote record s hs.1
    · exact fun _ _ _ _ => trivial
    · exact fun s _ _ hs _ _ => ⟨trivial, fun _ _ => hsame s _ hs.1 rfl rfl⟩
    · exact fun s hs _ => ⟨trivial, fun _ _ => hsame s _ hs.1 rfl rfl⟩

/-- What one step opens and leaves. -/
theorem visited_step (step : Step) :
    Leads (Visited paths left) (Visited (paths ++ step.paths ctx) (left ++ step.unread)) Anywhere
      (perform ctx step) := by
  cases step with
  | line directory line after =>
      simp only [Step.paths, Step.unread, List.append_nil]
      exact visited_line line after
  | enter directory =>
      have hopen : Leads (Visited paths left)
          (Visited (paths ++ Step.paths ctx (.enter directory)) left) Anywhere
          (openFile ctx directory) := by
        apply Leads.openFile
        · exact fun record s hs => ⟨hs.opened, hs.unread⟩
        · exact fun _ _ => trivial
        · exact fun _ _ => trivial
        · intro path s hpath hs
          exact ⟨by simp [Step.paths, hpath, hs.opened, Except.toOption], hs.unread⟩
      simp only [Step.unread, List.append_nil]
      exact hopen.map _
  | leave unread =>
      refine .change fun s hs => ⟨?_, ?_⟩
      · simpa [Step.paths] using hs.opened
      · simp [Step.unread, hs.unread]
  | endless => exact .throw (fun _ _ => trivial) _

/-- What steps open and leave, by induction on the steps. -/
theorem visited_follow (steps : List Step) :
    Leads (Visited paths left)
      (Visited (paths ++ steps.flatMap (Step.paths ctx)) (left ++ steps.flatMap Step.unread))
      Anywhere (follow ctx steps) := by
  induction steps generalizing paths left with
  | nil => exact fun s hs => by simpa using hs
  | cons step steps ih =>
      rw [follow_cons]
      refine .bind (visited_step step) fun _ => ?_
      simp only [List.flatMap_cons, ← List.append_assoc]
      exact ih

end Steps

/-- Of steps that are all taken each one can be taken somewhere. -/
theorem exists_perform_of_mem {steps : List Step} {step : Step} {s t : WalkState}
    (h : follow ctx steps s = .ok () t) (hstep : step ∈ steps) :
    ∃ u v, perform ctx step u = .ok () v := by
  obtain ⟨before, after, rfl⟩ := List.append_of_mem hstep
  rw [follow_append] at h
  obtain ⟨_, u, -, hrest⟩ := exists_of_bind_ok h
  rw [follow_cons] at hrest
  obtain ⟨_, v, hperform, -⟩ := exists_of_bind_ok hrest
  exact ⟨u, v, hperform⟩

/-- Steps that are all taken do not stop for too many open files. -/
theorem endless_not_mem_of_follow {steps : List Step} {s t : WalkState}
    (h : follow ctx steps s = .ok () t) : .endless ∉ steps := by
  intro hmem
  obtain ⟨u, v, hperform⟩ := exists_perform_of_mem h hmem
  cases hperform

theorem exists_fileLines?_of_follow {steps : List Step} {d : Text} {s t : WalkState}
    (h : follow ctx steps s = .ok () t) (henter : .enter d ∈ steps) :
    ∃ lines, ctx.fileLines? d = some lines := by
  obtain ⟨u, v, hopen⟩ := exists_perform_of_mem h henter
  cases hlines : ctx.fileLines? d with
  | some lines => exact ⟨lines, rfl⟩
  | none =>
      obtain ⟨e, w, hfailed⟩ := openFile_of_fileLines?_none hlines u
      simp [perform, map_apply, hfailed] at hopen

/-- A run that ends has taken the steps of its itinerary. -/
theorem follow_of_run_ok {root : Option Text} {maxLevels maxConditions : Limit}
    {showInternal : Bool} {t : WalkState}
    (h : run ctx root (.fresh maxLevels maxConditions showInternal) = .ok () t) :
    ∃ banner s, ctx.bannerText = .ok banner ∧ t = s.closed ∧
      follow ctx (itinerary ctx
        (depthBound ctx (.numbered maxLevels maxConditions showInternal)) (startDirectory ctx root))
        (.rooted maxLevels maxConditions showInternal banner) = .ok () s := by
  obtain ⟨banner, s, hbanner, ht, hwalk⟩ := processFile_of_run_ok h
  rw [processFile_apply] at hwalk
  exact ⟨banner, s, hbanner, ht, hwalk⟩

/-- What a run reads. Of every file that it opens each line is dispatched, or it is an attribute line
that goes to the entry above it, in order and up to the lines that are left; the run keeps those, and
says nothing of them. And none are left exactly if no file that was opened goes on after a line that
closes a block which the file did not open. -/
theorem run_reads_all_iff {root : Option Text} {maxLevels maxConditions : Limit}
    {showInternal : Bool} {t : WalkState}
    (hrun : run ctx root (.fresh maxLevels maxConditions showInternal) = .ok () t) :
    let steps := itinerary ctx
      (depthBound ctx (.numbered maxLevels maxConditions showInternal)) (startDirectory ctx root)
    t.opened.toList = steps.flatMap (Step.paths ctx) ∧
    (∀ d, .enter d ∈ steps → ∃ lines, ctx.fileLines? d = some lines ∧
      covered (dispatched false 0 lines) ++ leftOver false 0 lines = lines ∧
      (∀ place ∈ dispatched false 0 lines, .line d place.1 place.2 ∈ steps) ∧
      ∀ line ∈ leftOver false 0 lines, line ∈ t.unread.toList) ∧
    (t.unread.toList = [] ↔
      ∀ d lines, .enter d ∈ steps → ctx.fileLines? d = some lines → ¬EndsEarly lines) := by
  intro steps
  obtain ⟨banner, s, -, rfl, hfollow⟩ := follow_of_run_ok hrun
  have hrooted : Visited [] [] (.rooted maxLevels maxConditions showInternal banner) := ⟨rfl, rfl⟩
  have hvisited := (visited_follow steps).of_ok hrooted hfollow
  have hunread : s.closed.unread.toList = steps.flatMap Step.unread := hvisited.unread
  refine ⟨hvisited.opened, fun d henter => ?_, ?_⟩
  · obtain ⟨lines, hlines⟩ := exists_fileLines?_of_follow hfollow henter
    obtain ⟨hdispatched, hleave⟩ := mem_itinerary_of_enter henter hlines
    refine ⟨lines, hlines, covered_append_leftOver false 0 lines, hdispatched, ?_⟩
    intro line hline
    rw [hunread]
    exact List.mem_flatMap.2 ⟨_, hleave, hline⟩
  · rw [hunread, List.flatMap_eq_nil_iff]
    constructor
    · intro hnone d lines henter hlines
      rw [← leftOver_ne_nil_iff, not_not]
      exact hnone _ (mem_itinerary_of_enter henter hlines).2
    · intro hnone step hstep
      cases step with
      | leave left =>
          obtain ⟨d, lines, henter, hlines, rfl⟩ := exists_of_leave_mem hstep
          exact Decidable.not_not.1 fun hleft =>
            hnone d lines henter hlines (leftOver_ne_nil_iff.1 hleft)
      | enter d => rfl
      | line d line after => rfl
      | endless => rfl

/-- A menu whose closing line stands in the file that it sources, before an entry. -/
def handedOverTree : FileTree where
  root := .directory
    [("Kconfig", .file (Utf8.encode "menu \"M\"\nsource \"s/Kconfig\"\n")),
      ("s", .directory [("Kconfig", .file (Utf8.encode "endmenu\nconfig X\n\tbool \"x\"\n"))])]
  home := []

def handedOverContext : WalkContext := .ofSettings .builtIn handedOverTree "."

/-- A run may leave lines unread and end with all blocks and conditions closed, without a
warning. -/
theorem run_leaves_lines :
    ∃ t, run handedOverContext none (.ofSettings .builtIn) = .ok () t ∧
      (∀ record ∈ t.log.toList, record.level ≠ .warning) ∧
      t.unread.toList = [⟨"config X", "./s/Kconfig", 2⟩, ⟨"bool \"x\"", "./s/Kconfig", 3⟩] := by
  have hends : endsWith (run handedOverContext none)
      (fun t => decide ((∀ record ∈ t.log.toList, record.level ≠ .warning) ∧
        t.unread.toList = [⟨"config X", "./s/Kconfig", 2⟩, ⟨"bool \"x\"", "./s/Kconfig", 3⟩]))
      (.ofSettings .builtIn) = true := by decide +kernel
  obtain ⟨_, t, hrun, ht⟩ := exists_of_endsWith hends
  exact ⟨t, hrun, of_decide_eq_true ht⟩

/-- Of the files of that run one ends early. -/
theorem run_reads_all_iff_sample :
    ∃ t d lines, run handedOverContext none (.ofSettings .builtIn) = .ok () t ∧
      t.unread.toList ≠ [] ∧ .enter d ∈ itinerary handedOverContext
        (depthBound handedOverContext (.ofSettings .builtIn)) "." ∧
      handedOverContext.fileLines? d = some lines ∧ EndsEarly lines := by
  have hends : endsWith (run handedOverContext none) (fun t => t.unread.toList ≠ [])
      (.ofSettings .builtIn) = true := by decide +kernel
  obtain ⟨_, t, hrun, ht⟩ := exists_of_endsWith hends
  have hleft : t.unread.toList ≠ [] := of_decide_eq_true ht
  have hdepth : depthBound handedOverContext (.ofSettings .builtIn) =
      depthBound handedOverContext (.numbered (.ofSetting (Settings.builtIn.get "max_levels"))
        (.ofSetting (Settings.builtIn.get "max_dependencies"))
        (Settings.builtIn.get "show_internal").isTrue) := by decide +kernel
  obtain ⟨-, -, hread⟩ := run_reads_all_iff hrun
  have hearly : ¬∀ d lines, .enter d ∈ itinerary handedOverContext
      (depthBound handedOverContext (.ofSettings .builtIn)) "." →
      handedOverContext.fileLines? d = some lines → ¬EndsEarly lines := by
    intro hnone
    rw [hdepth] at hnone
    exact hleft (hread.2 hnone)
  simp only [not_forall, not_not] at hearly
  obtain ⟨d, lines, henter, hlines, hends⟩ := hearly
  exact ⟨t, d, lines, hrun, hleft, henter, hlines, hends⟩

end Walk

end KconfigReference
