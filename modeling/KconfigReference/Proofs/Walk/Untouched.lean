import KconfigReference.Proofs.Coverage
import KconfigReference.Proofs.Walk.Sources

/-!
Walks that another tree does not disturb. A walk sees of a tree only the files that it opens. Main
statement: where they show the same on another tree, a run that ends takes the same steps there and
comes to the same state.
-/

namespace KconfigReference.Walk

variable {ctx : WalkContext} {tree : FileTree} {directory : Text}

/-- The file of a directory shows the same on another tree. -/
def Untouched (ctx : WalkContext) (tree : FileTree) (directory : Text) : Prop :=
  ∀ path, ctx.layout.filePath directory = .ok path →
    (ctx.onTree tree).readText path = ctx.readText path

theorem Untouched.fileLines? (h : Untouched ctx tree directory) :
    (ctx.onTree tree).fileLines? directory = ctx.fileLines? directory := by
  have hlayout : (ctx.onTree tree).layout = ctx.layout := rfl
  have hsize : (ctx.onTree tree).lineSize = ctx.lineSize := rfl
  unfold WalkContext.fileLines?
  rw [hlayout, hsize]
  cases hpath : ctx.layout.filePath directory with
  | error m => rfl
  | ok path => simp only [h path hpath]

/-- The itinerary is the same where all files that it enters are, by induction on how many files may
be open. -/
theorem itinerary_onTree {depth : Nat}
    (h : ∀ d, .enter d ∈ itinerary ctx depth directory → Untouched ctx tree d) :
    itinerary (ctx.onTree tree) depth directory = itinerary ctx depth directory := by
  induction depth generalizing directory with
  | zero => rfl
  | succ depth ih =>
      have hlines := (h directory (by simp [itinerary])).fileLines?
      rw [itinerary, itinerary, hlines]
      cases hfound : ctx.fileLines? directory with
      | none => rfl
      | some lines =>
          have hsteps : ∀ place ∈ dispatched false 0 lines,
              lineSteps (ctx.onTree tree) (itinerary (ctx.onTree tree) depth) directory place =
                lineSteps ctx (itinerary ctx depth) directory place := by
            intro place hplace
            have hsame : (ctx.onTree tree).target? place.1 = ctx.target? place.1 := rfl
            cases htarget : ctx.target? place.1 with
            | none => simp only [lineSteps, hsame, htarget, Option.elim_none]
            | some target =>
                have hbelow := ih fun d hd => h d (by
                  rw [itinerary, hfound, Option.elim_some]
                  exact List.mem_cons_of_mem _ (List.mem_append_left _
                    (mem_passSteps_iff.2 ⟨place, hplace, .inr ⟨target, htarget, hd⟩⟩)))
                simp only [lineSteps, hsame, htarget, Option.elim_some, hbelow]
          simp only [Option.elim_some, passSteps, List.flatMap_congr hsteps]

/-- A step does the same on both trees, if the file that it enters is the same. -/
theorem perform_onTree {step : Step} (h : ∀ d, step = .enter d → Untouched ctx tree d) :
    perform (ctx.onTree tree) step = perform ctx step := by
  cases step with
  | enter directory =>
      have hsame := h directory rfl
      have hopen : openFile (ctx.onTree tree) directory = openFile ctx directory := by
        funext s
        have hlayout : (ctx.onTree tree).layout = ctx.layout := rfl
        have hsize : (ctx.onTree tree).lineSize = ctx.lineSize := rfl
        rw [openFile_apply, openFile_apply, hlayout, hsize]
        cases hpath : ctx.layout.filePath directory with
        | error m => rfl
        | ok path => simp only [hsame path hpath]
      rw [perform, perform, hopen]
  | line directory line after => rfl
  | leave unread => rfl
  | endless => rfl

theorem follow_onTree {steps : List Step} (h : ∀ d, .enter d ∈ steps → Untouched ctx tree d) :
    follow (ctx.onTree tree) steps = follow ctx steps := by
  induction steps with
  | nil => rfl
  | cons step rest ih =>
      have hstep : perform (ctx.onTree tree) step = perform ctx step :=
        perform_onTree fun d hd => h d (hd ▸ List.mem_cons_self)
      rw [follow_cons, follow_cons, hstep, ih fun d hd => h d (List.mem_cons_of_mem _ hd)]

/-- What was opened by steps that are all taken is among the files that are open in the end. -/
theorem mem_opened_of_follow {steps : List Step} {s t : WalkState}
    (h : follow ctx steps s = .ok () t) {path : Text} (henter : .enter directory ∈ steps)
    (hpath : ctx.layout.filePath directory = .ok path) : path ∈ t.opened.toList := by
  have hstart : Visited s.opened.toList s.unread.toList s := ⟨rfl, rfl⟩
  have hopened := ((visited_follow steps).of_ok hstart h).opened
  rw [hopened]
  refine List.mem_append_right _ (List.mem_flatMap.2 ⟨_, henter, ?_⟩)
  simp [Step.paths, hpath, Except.toOption]

/-- A walk of a file ends exactly if its steps can all be taken under some bound on open files. -/
theorem processFile_ok_iff {s t : WalkState} :
    processFile ctx directory s = .ok () t ↔
      ∃ depth, follow ctx (itinerary ctx depth directory) s = .ok () t := by
  rw [processFile_apply]
  refine ⟨fun h => ⟨_, h⟩, fun ⟨depth, h⟩ => ?_⟩
  have hends := endless_not_mem_of_follow h
  rw [itinerary_eq hends (Ends.endless_not_mem ⟨depth, hends⟩ s), h]

/-- A walk of a file that ends comes to the same state on another tree on which the files that it
opened show the same. -/
theorem processFile_onTree {s t : WalkState} (h : processFile ctx directory s = .ok () t)
    (hsame : ∀ path ∈ t.opened.toList, ∀ text, ctx.readText path = .ok text →
      (ctx.onTree tree).readText path = .ok text) :
    processFile (ctx.onTree tree) directory s = .ok () t := by
  rw [processFile_apply] at h
  have huntouched : ∀ d, .enter d ∈ itinerary ctx (depthBound ctx s) directory →
      Untouched ctx tree d := by
    intro d henter path hpath
    obtain ⟨lines, hlines⟩ := exists_fileLines?_of_follow h henter
    obtain ⟨path', text, hpath', -, htext, -⟩ := WalkContext.exists_of_fileLines? hlines
    obtain rfl : path = path' := by simpa [hpath] using hpath'
    rw [htext, hsame path (mem_opened_of_follow h henter hpath) text htext]
  refine processFile_ok_iff.2 ⟨depthBound ctx s, ?_⟩
  rw [itinerary_onTree huntouched, follow_onTree huntouched, h]

/-- So does a run. -/
theorem run_onTree {root : Option Text} {s t : WalkState} (h : run ctx root s = .ok () t)
    (hsame : ∀ path ∈ t.opened.toList, ∀ text, ctx.readText path = .ok text →
      (ctx.onTree tree).readText path = .ok text) :
    run (ctx.onTree tree) root s = .ok () t := by
  have hroot : openRoot (ctx.onTree tree) = openRoot ctx := rfl
  have hstart : startDirectory (ctx.onTree tree) root = startDirectory ctx root := rfl
  rw [run_apply] at h
  rw [run_apply, hroot, hstart]
  cases hopen : openRoot ctx s with
  | error e u => simp [hopen] at h
  | ok _ u =>
      cases hwalk : processFile ctx (startDirectory ctx root) u with
      | error e v => simp [hopen, hwalk] at h
      | ok _ v =>
          simp only [hopen, hwalk, EStateM.Result.ok.injEq, true_and] at h
          subst h
          simp only [processFile_onTree hwalk hsame]

end KconfigReference.Walk
