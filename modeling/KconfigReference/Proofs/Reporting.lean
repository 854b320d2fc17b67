import KconfigReference.Proofs.Coverage
import KconfigReference.Proofs.Limits
import KconfigReference.Proofs.Page.Composition
import KconfigReference.Proofs.Walk.Faults

/-!
Reports. Under the built-in settings only the files can be at fault: a file that cannot be opened is
reported with its path, and so is a line that takes the level or the conditions out of their limits.
Main statement: the one fault of a tree that is not reported is a path with a NUL character in it,
which the system does not take.
-/

namespace KconfigReference

/-- Under a token and an apps directory that the system takes, every argument is resolved, and what
it names is taken too. -/
theorem Layout.exists_resolve {layout : Layout} {point : CodePoint} {token apps : CodeText}
    (htoken : layout.appsToken = .text (point :: token)) (happs : layout.appsDirectory = .text apps)
    (hbytes : apps.nameBytes?.isSome = true) (argument : Text) :
    ∃ found, layout.resolve argument = .ok found ∧
      ∀ resolved, found = some resolved → resolved.isNameable = true := by
  have hsplice : ∀ part, ∃ directory,
      layout.splice (point :: token) part = .ok (directory, true) := by
    intro part
    unfold splice
    split
    · rw [happs]
      exact ⟨_, by rw [← hbytes]; rfl⟩
    · exact ⟨_, rfl⟩
  unfold resolve
  cases dequote argument with
  | none => exact ⟨none, rfl, fun _ h => nomatch h⟩
  | some path =>
      obtain ⟨directory, hdirectory⟩ :=
        hsplice (if Path.directory path = [] then ['.'] else Path.directory path)
      simp only [htoken, hdirectory]
      refine ⟨_, rfl, ?_⟩
      rintro resolved ⟨⟩
      rfl

namespace WalkContext

/-- Settings under which nothing but the files can be at fault. -/
structure Sound (ctx : WalkContext) : Prop where
  name : ∃ name, ctx.layout.fileName.shown = .ok name
  nameable : ctx.layout.hasNameableFiles = true
  resolves : ∀ line, ctx.Resolves line
  cuts : ∀ path physicals, ∃ lines, ctx.lineSize.lines path physicals = .ok lines

/-- The path of the file of a directory has a NUL character in it. -/
def Unnameable (ctx : WalkContext) (directory : Text) : Prop :=
  ∃ path, ctx.layout.filePath directory = .ok path ∧ '\x00' ∈ path

theorem sound_builtIn (tree : FileTree) (root : Text) :
    (ofSettings .builtIn tree root).Sound where
  name := ⟨_, rfl⟩
  nameable := by
    have hname : (ofSettings .builtIn tree root).layout.fileName =
        .text ("Kconfig".toList : CodeText) := rfl
    rw [Layout.hasNameableFiles, hname]
    decide
  resolves line _ := by
    have htoken : (ofSettings .builtIn tree root).layout.appsToken =
        .text ("$APPSDIR".toList : CodeText) := rfl
    have happs : (ofSettings .builtIn tree root).layout.appsDirectory =
        .text ("../apps".toList : CodeText) := rfl
    exact Layout.exists_resolve htoken happs (by decide) _
  cuts path physicals := ⟨_, rfl⟩

end WalkContext

namespace Walk

variable {ctx : WalkContext} {root : Option Text} {directory : Text} {start s t : WalkState}
  {maxLevels maxConditions : Int} {e : Failure} {m : Misuse}

/-- The walk of a run from `start` enters the file of a directory in a state: the steps before have
all been taken. -/
def Enters (ctx : WalkContext) (root : Option Text) (start : WalkState) (directory : Text)
    (s : WalkState) : Prop :=
  ∃ before rest,
    itinerary ctx (depthBound ctx start) (startDirectory ctx root) =
      before ++ .enter directory :: rest ∧
    follow ctx before start = .ok () s

/-- A file whose path cannot be read is reported with that path and the reason. -/
theorem openFile_of_read_error (hnameable : ctx.layout.hasNameableFiles = true) {path : Text}
    (hpath : ctx.layout.filePath directory = .ok path) (hnul : '\x00' ∉ path) {reason : SystemError}
    (hread : ctx.tree.read path = .error reason) (s : WalkState) :
    openFile ctx directory s =
      .error (.reported (.inFile .kconfigOpen ("open failed: " ++ reason.reason) path))
        (announced s path) := by
  have htext := WalkContext.readText_of_read_error (by simpa using hnul) hread
  rw [openFile_apply, hpath]
  simp only [hnameable, if_true, htext]

/-- A path with a NUL character is not. -/
theorem openFile_of_unnameable (hnameable : ctx.layout.hasNameableFiles = true)
    (h : ctx.Unnameable directory) (s : WalkState) :
    ∃ t, openFile ctx directory s = .error (.misused .badValue) t := by
  obtain ⟨path, hpath, hnul⟩ := h
  have htext : ctx.readText path = .error (.misused .badValue) := by
    rw [WalkContext.readText, if_pos (by simpa using hnul)]
  refine ⟨announced s path, ?_⟩
  rw [openFile_apply, hpath]
  simp only [hnameable, if_true, htext]

/-- Nothing else that keeps a file from being opened is a misuse. -/
theorem unnameable_of_misused (hctx : ctx.Sound)
    (h : openFile ctx directory s = .error (.misused m) t) :
    ctx.Unnameable directory ∧ m = .badValue := by
  obtain ⟨name, hname⟩ := hctx.name
  rw [openFile_apply, Layout.filePath_eq hname] at h
  simp only [hctx.nameable, if_true] at h
  cases htext : ctx.readText (directory ++ "/" ++ name.inName) with
  | error e =>
      simp only [htext, EStateM.Result.error.injEq] at h
      obtain ⟨rfl, -⟩ := h
      unfold WalkContext.readText at htext
      split at htext
      next hnul =>
        cases htext
        exact ⟨⟨_, Layout.filePath_eq hname directory, by simpa using hnul⟩, rfl⟩
      next => split at htext <;> cases htext
  | ok text =>
      obtain ⟨lines, hlines⟩ :=
        hctx.cuts (directory ++ "/" ++ name.inName) (Text.physicalLines text)
      simp only [htext, hlines] at h
      cases h

/-- A step that is taken finds what it looks for. -/
theorem finds_of_perform (hctx : ctx.Sound) {step : Step}
    (h : perform ctx step s = .ok () t) : step.Finds ctx := by
  cases step with
  | enter directory =>
      cases hlines : ctx.fileLines? directory with
      | some lines => exact ⟨lines, hlines⟩
      | none =>
          obtain ⟨e, u, hfailed⟩ := openFile_of_fileLines?_none hlines s
          simp [perform, map_apply, hfailed] at h
  | line directory line after => exact hctx.resolves line
  | leave unread => trivial
  | endless => trivial

/-- The steps of a walk that is under way keep to the limits. -/
theorem Within.of_follow (hctx : ctx.Sound) (hstart : Within maxLevels maxConditions start)
    {steps : List Step} (h : Walk.follow ctx steps start = .ok () s) :
    Within maxLevels maxConditions s := by
  obtain ⟨name, hname⟩ := hctx.name
  refine hstart.follow hname (fun step hstep => ?_) (endless_not_mem_of_follow h) h
  obtain ⟨u, v, hperform⟩ := exists_perform_of_mem h hstep
  exact finds_of_perform hctx hperform

/-- A walk that comes to an end stops at a misuse exactly where it enters a file whose path has a
NUL character in it. -/
theorem follow_misused_iff (hctx : ctx.Sound) (hstart : Within maxLevels maxConditions start)
    (hends : Ends ctx (startDirectory ctx root)) (m : Misuse) :
    (∃ t, follow ctx (itinerary ctx (depthBound ctx start) (startDirectory ctx root)) start =
        .error (.misused m) t) ↔
      m = .badValue ∧ ∃ directory s, Enters ctx root start directory s ∧
        ctx.Unnameable directory := by
  simp only [follow_error_iff]
  constructor
  · rintro ⟨t, before, step, rest, s, hsteps, hbefore, hfails⟩
    have hs : Within maxLevels maxConditions s := hstart.of_follow hctx hbefore
    cases step with
    | enter directory =>
        have hopen : openFile ctx directory s = .error (.misused m) t := by
          rw [perform, map_apply] at hfails
          cases hresult : openFile ctx directory s with
          | ok lines u => simp [hresult] at hfails
          | error e u => simpa [hresult] using hfails
        obtain ⟨hunnameable, rfl⟩ := unnameable_of_misused hctx hopen
        exact ⟨rfl, directory, s, ⟨before, rest, hsteps, hbefore⟩, hunnameable⟩
    | line directory line after =>
        obtain ⟨name, hname⟩ := hctx.name
        have hobeys := hs.effect hname (hctx.resolves line) directory after
        rw [show effect ctx (fun _ => pure ()) directory line after s = _ from hfails] at hobeys
        obtain ⟨_, -, hreported⟩ := hobeys
        cases hreported
    | leave unread => cases hfails
    | endless =>
        refine absurd ?_ (hends.endless_not_mem start)
        rw [hsteps]
        exact List.mem_append_right _ List.mem_cons_self
  · rintro ⟨rfl, directory, s, ⟨before, rest, hsteps, hbefore⟩, hunnameable⟩
    obtain ⟨t, hopen⟩ := openFile_of_unnameable hctx.nameable hunnameable s
    refine ⟨t, before, .enter directory, rest, s, hsteps, hbefore, ?_⟩
    rw [perform, map_apply, hopen]

/-- A file that cannot be read at its path ends the walk of its directory. -/
theorem processFile_of_read_error (hnameable : ctx.layout.hasNameableFiles = true) {path : Text}
    (hpath : ctx.layout.filePath directory = .ok path) (hnul : '\x00' ∉ path) {reason : SystemError}
    (hread : ctx.tree.read path = .error reason) (s : WalkState) :
    processFile ctx directory s =
      .error (.reported (.inFile .kconfigOpen ("open failed: " ++ reason.reason) path))
        (announced s path) := by
  obtain ⟨depth, hdepth⟩ : ∃ depth, depthBound ctx s = depth + 1 := by
    have := length_allFiles_add_two_le_depthBound ctx s
    exact ⟨depthBound ctx s - 1, by omega⟩
  rw [processFile_apply, hdepth, itinerary, follow_cons, bind_apply, perform, map_apply,
    openFile_of_read_error hnameable hpath hnul hread]

end Walk

namespace Reference

variable {settings : Settings} {tree : FileTree} {root : Text} {today : Date}
  {refusal : Option Text}

theorem startDirectory_ofSettings (settings : Settings) (tree : FileTree) (root : Text) :
    Walk.startDirectory (.ofSettings settings tree root) (some root) = root := by
  cases root <;> rfl

/-- What is reported while a reference is made is a fault of the staging buffer or of the walk. -/
theorem kind_of_reported {d : Diagnostic}
    (h : (generate settings tree root today refusal).result = .error (.reported d)) :
    d.kind = .staging ∨ d.kind.isOfWalk = true := by
  cases refusal with
  | some reason =>
      cases h
      exact .inl rfl
  | none =>
      rw [result_generate] at h
      cases hrun : Walk.run (.ofSettings settings tree root) (some root) (.ofSettings settings) with
      | error e s =>
          rw [hrun] at h
          cases h
          exact .inr (Walk.Fails.run (some root) _ _ _ hrun)
      | ok _ s =>
          rw [hrun] at h
          cases hheader : Frame.header settings today with
          | ok header => simp [hheader] at h
          | error m => simp [hheader] at h

/-- The state in which the walk under the built-in settings begins. -/
def builtInStart : WalkState :=
  .rooted (.count 100) (.count 100) false "NuttX Configuration Variables"

/-- Under the built-in settings a reference is what the walk of the root comes to. -/
theorem exists_result_builtIn (tree : FileTree) (root : Text) (today : Date) :
    ∃ pageOf : WalkState → CodeText, (generate .builtIn tree root today none).result =
      match Walk.processFile (.ofSettings .builtIn tree root) root builtInStart with
      | .ok _ t => .ok (pageOf t)
      | .error e _ => .error e := by
  have htexts : Settings.builtIn.HasBuiltInTexts := fun _ _ => rfl
  have hlevels : (Limit.count 100).reached 0 = .ok false := rfl
  have hbanner : (WalkContext.ofSettings .builtIn tree root).bannerText =
      .ok "NuttX Configuration Variables".toList := rfl
  have hrun := Walk.run_rooted hlevels hbanner (some root) (.count 100) false
  simp only [startDirectory_ofSettings, ← Walk.processFile_apply] at hrun
  have hstart : WalkState.ofSettings .builtIn = .fresh (.count 100) (.count 100) false := rfl
  refine ⟨fun t => (Frame.headerText .builtIn today).map CodePoint.char ++
    (t.closed.tocText ++ Text.normalizeLineEndings t.closed.bodyText ++ Frame.trailer).map
      CodePoint.char, ?_⟩
  rw [result_generate, Frame.header_eq htexts today, hstart, hrun, builtInStart]
  cases Walk.processFile _ root _ <;> rfl

/-- Under the built-in settings, on any tree whose walk comes to an end, a reference is made, or a
fault of the staging buffer, of a file that cannot be opened or of the limits is reported; a file
that cannot be read at its path is reported with that path. The one thing that is not reported is a
path with a NUL character in it to which the walk comes. -/
theorem generate_reports_iff (tree : FileTree) (root : Text) (today : Date)
    (refusal : Option Text) (hends : Walk.Ends (.ofSettings .builtIn tree root) root) :
    let ctx : WalkContext := .ofSettings .builtIn tree root
    let made := (generate .builtIn tree root today refusal).result
    (∀ d, made = .error (.reported d) → d.kind = .staging ∨ d.kind.isOfWalk = true) ∧
      (∀ m, made = .error (.misused m) ↔ m = .badValue ∧ refusal = none ∧
        ∃ directory s, Walk.Enters ctx (some root) builtInStart directory s ∧
          ctx.Unnameable directory) ∧
      ∀ directory path reason s, ctx.layout.filePath directory = .ok path → '\x00' ∉ path →
        tree.read path = .error reason →
        Walk.processFile ctx directory s =
          .error (.reported (.inFile .kconfigOpen ("open failed: " ++ reason.reason) path))
            (Walk.announced s path) := by
  intro ctx made
  have hctx : ctx.Sound := WalkContext.sound_builtIn tree root
  refine ⟨fun d h => kind_of_reported h, fun m => ?_,
    fun directory path reason s hpath hnul hread =>
      Walk.processFile_of_read_error hctx.nameable hpath hnul hread s⟩
  have hstart : Walk.Within 100 100 builtInStart :=
    Walk.within_rooted (by decide) (by decide) false _
  have hdirectory : Walk.startDirectory ctx (some root) = root :=
    startDirectory_ofSettings .builtIn tree root
  have hmisused : (∃ t, Walk.processFile ctx root builtInStart = .error (.misused m) t) ↔
      m = .badValue ∧ ∃ directory s, Walk.Enters ctx (some root) builtInStart directory s ∧
        ctx.Unnameable directory := by
    have hends' : Walk.Ends ctx (Walk.startDirectory ctx (some root)) := by
      rw [hdirectory]
      exact hends
    have hiff := Walk.follow_misused_iff hctx hstart hends' m
    rw [hdirectory, ← Walk.processFile_apply] at hiff
    exact hiff
  cases refusal with
  | some reason =>
      have hmade : ∃ d, made = .error (.reported d) := ⟨_, rfl⟩
      obtain ⟨d, hmade⟩ := hmade
      simp [hmade]
  | none =>
      obtain ⟨pageOf, hresult⟩ := exists_result_builtIn tree root today
      have hmade : made = .error (.misused m) ↔
          ∃ t, Walk.processFile ctx root builtInStart = .error (.misused m) t := by
        simp only [made, hresult]
        generalize Walk.processFile _ root builtInStart = outcome
        cases outcome <;> simp
      rw [hmade, hmisused]
      simp

/-- A tree that sources a directory with a NUL character in its name. -/
def nulTree : FileTree where
  root := .directory [("Kconfig", .file (Utf8.encode "source \"a\x00b/Kconfig\"\n"))]
  home := []

theorem ends_nulTree : Walk.Ends (.ofSettings .builtIn nulTree ".") "." :=
  ⟨2, by decide +kernel⟩

/-- The file of that directory cannot be opened, but that is not reported. -/
theorem generate_misuses_nul :
    Walk.Ends (.ofSettings .builtIn nulTree ".") "." ∧
      (generate .builtIn nulTree "." ⟨2013, 4, 5⟩ none).result = .error (.misused .badValue) :=
  ⟨ends_nulTree, by decide +kernel⟩

/-- It is the path to which the walk comes. -/
theorem generate_reports_iff_sample :
    Walk.Ends (.ofSettings .builtIn nulTree ".") "." ∧ ∃ directory s,
      Walk.Enters (.ofSettings .builtIn nulTree ".") (some ".") builtInStart directory s ∧
        (WalkContext.ofSettings .builtIn nulTree ".").Unnameable directory := by
  obtain ⟨-, hmisused, -⟩ := generate_reports_iff nulTree "." ⟨2013, 4, 5⟩ none ends_nulTree
  have hmade : (generate .builtIn nulTree "." ⟨2013, 4, 5⟩ none).result =
      .error (.misused .badValue) := by decide +kernel
  obtain ⟨-, -, hreached⟩ := (hmisused .badValue).1 hmade
  exact ⟨ends_nulTree, hreached⟩

end Reference

end KconfigReference
