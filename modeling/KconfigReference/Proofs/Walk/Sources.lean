import KconfigReference.Proofs.Files.Sourcing
import KconfigReference.Proofs.Walk.Contents

/-!
Itineraries that come to an end. Where no file leads back to itself, no itinerary has more files
open than there are files, and where every source line of the files that a file leads to names a
further file, every step finds its file. Main statements: an itinerary that ends at all ends within
the bound on open files, and it is the same under any bound that it ends within.
-/

namespace KconfigReference

namespace WalkContext

variable {ctx : WalkContext} {directory target : Text} {lines : List Line} {line : Line}

/-- A file with lines is at some location. -/
theorem exists_opens_of_fileLines? (h : ctx.fileLines? directory = some lines) :
    ∃ location, ctx.Opens directory location lines := by
  obtain ⟨path, text, hpath, -, htext, hcut⟩ := exists_of_fileLines? h
  obtain ⟨location, hlocate⟩ := exists_locate_of_readText htext
  exact ⟨location, path, text, hpath, hlocate, htext, hcut⟩

/-- What is known of a line that leads to a file. -/
theorem leadsTo_of_target? (h : ctx.target? line = some target) :
    line.keyword? = some .source ∧ ctx.LeadsTo line target := by
  unfold target? at h
  split at h
  next resolved hk hresolve =>
    split at h
    next hnameable =>
      cases h
      exact ⟨hk, resolved, hresolve, hnameable, rfl⟩
    next => cases h
  next => cases h

/-- A file that can be named is found from wherever it is opened. -/
theorem Opens.fileLines? {location : List Text} (h : ctx.Opens directory location lines)
    (hnameable : ctx.layout.hasNameableFiles = true) : ctx.fileLines? directory = some lines := by
  obtain ⟨path, text, hpath, -, htext, hcut⟩ := h
  simp only [WalkContext.fileLines?, hpath, hnameable, if_true, htext, hcut, Except.toOption]

/-- The file at the first location is entered from a line that is dispatched in the file at the
second one. -/
def EnteredFrom (ctx : WalkContext) (inner outer : List Text) : Prop :=
  ctx.layout.hasNameableFiles = true ∧
    ∃ directory lines place target innerLines, ctx.Opens directory outer lines ∧
      place ∈ Walk.dispatched false 0 lines ∧ ctx.target? place.1 = some target ∧
      ctx.Opens target inner innerLines

theorem EnteredFrom.sourcedBy {inner outer : List Text} (h : ctx.EnteredFrom inner outer) :
    ctx.SourcedBy inner outer := by
  obtain ⟨-, directory, lines, place, target, innerLines, hopens, hplace, htarget, hinner⟩ := h
  obtain ⟨hk, hleads⟩ := leadsTo_of_target? htarget
  have hline : place.1 ∈ lines := (Walk.suffix_of_mem_dispatched hplace).subset List.mem_cons_self
  exact ⟨directory, lines, place.1, target, innerLines, hopens, hline, hk, hleads, hinner⟩

/-- What a line does to the block structure and what it says of an entry depends on its text. -/
theorem structure_congr {line line' : Line} (h : line.text = line'.text) :
    line'.turn = line.turn ∧ line'.isAttribute = line.isAttribute ∧
      (line'.declares ↔ line.declares) := by
  have hk := keyword_congr h
  have hrest : line'.rest = line.rest := by rw [Line.rest, Line.rest, h]
  refine ⟨?_, ?_, ?_⟩
  · rw [Line.turn, Line.turn, hk]
  · rw [Line.isAttribute, Line.isAttribute, Line.attribute?, Line.attribute?, hk, hrest]
  · rw [Line.declares, Line.declares, hk, hrest]

/-- So does where it leads. -/
theorem target?_congr {line line' : Line} (h : line.text = line'.text) :
    ctx.target? line' = ctx.target? line := by
  rw [target?, target?, keyword_congr h, Line.rest, Line.rest, h]

/-- The files that are entered from a file are so from any of its openings. -/
theorem EnteredFrom.exists_place {inner location : List Text} (h : ctx.EnteredFrom inner location)
    (hopens : ctx.Opens directory location lines) :
    ∃ place ∈ Walk.dispatched false 0 lines, ∃ target innerLines,
      ctx.target? place.1 = some target ∧ ctx.Opens target inner innerLines := by
  obtain ⟨-, directory', lines', place', target, innerLines, hopens', hplace', htarget, hinner⟩ := h
  have htexts : List.Forall₂ (fun line line' : Line => line.text = line'.text) lines' lines := by
    rw [← List.forall₂_map_right_iff, ← List.forall₂_map_left_iff, List.forall₂_eq_eq_eq]
    exact hopens'.map_text hopens
  have hplaces := Walk.forall₂_dispatched (fun h => (structure_congr h).1)
    (fun h => (structure_congr h).2.1) (fun h => (structure_congr h).2.2) htexts false 0
  obtain ⟨place, hplace, htext, -⟩ := Walk.exists_of_forall₂ hplaces hplace'
  exact ⟨place, hplace, target, innerLines, (target?_congr htext).trans htarget, hinner⟩

/-- Every source line is resolved, and one that is not empty to a directory that the system takes as
a part of a path. -/
def Resolves (ctx : WalkContext) (line : Line) : Prop :=
  line.keyword? = some .source →
    ∃ found, ctx.layout.resolve (Text.firstWord line.rest) = .ok found ∧
      ∀ resolved, found = some resolved → resolved.isNameable = true

/-- The file of a directory can be opened, and so can the files that its source lines name, and
those that theirs name, and so on to an end. -/
inductive Sourceable (ctx : WalkContext) : Text → Prop where
  | intro (directory : Text) (lines : List Line) (hlines : ctx.fileLines? directory = some lines)
      (hresolves : ∀ line ∈ lines, ctx.Resolves line)
      (hbelow : ∀ line ∈ lines, ∀ target, ctx.target? line = some target → ctx.Sourceable target) :
      ctx.Sourceable directory

/-- A file all of whose sources can be opened leads to no endless sourcing. -/
theorem Sourceable.acc (h : ctx.Sourceable directory) {location : List Text}
    (hopens : ctx.Opens directory location lines) : Acc ctx.EnteredFrom location := by
  induction h generalizing location lines with
  | intro directory ownLines hlines _ _ ih =>
      refine Acc.intro location fun inner hinner => ?_
      obtain ⟨location', hown⟩ := exists_opens_of_fileLines? hlines
      obtain ⟨rfl, rfl⟩ := hopens.unique hown
      obtain ⟨place, hplace, target, innerLines, htarget, hinner⟩ := hinner.exists_place hopens
      have hline : place.1 ∈ lines :=
        (Walk.suffix_of_mem_dispatched hplace).subset List.mem_cons_self
      exact ih place.1 hline target htarget hinner

end WalkContext

namespace Walk

variable {ctx : WalkContext} {directory : Text} {step : Step}

/-- A step of a pass dispatches one of its lines or belongs to a file that one of them leads to. -/
theorem mem_passSteps {below : Text → List Step} {taking : Bool} {opened : Nat} {lines : List Line}
    (h : step ∈ passSteps ctx below directory taking opened lines) :
    ∃ line after, line :: after <:+ lines ∧ (step = .line directory line after ∨
      ∃ target, ctx.target? line = some target ∧ step ∈ below target) := by
  obtain ⟨place, hplace, hstep⟩ := mem_passSteps_iff.1 h
  exact ⟨place.1, place.2, suffix_of_mem_dispatched hplace, hstep⟩

/-- Below some open files there are never more files open than there are, by induction on how many
more may be open: each file that is opened is added to those that are open. -/
theorem endless_not_mem_of_acc {depth : Nat} {location : List Text} {lines : List Line}
    {around : List (List Text)} (hacc : Acc ctx.EnteredFrom location)
    (hopens : ctx.Opens directory location lines)
    (hopen : ctx.OpenFiles ctx.EnteredFrom location around)
    (hdepth : ctx.tree.allFiles.length + 1 < depth + (location :: around).length) :
    .endless ∉ itinerary ctx depth directory := by
  induction depth generalizing directory location lines around with
  | zero =>
      have hroom := hopen.length_le
      omega
  | succ depth ih =>
      intro hmem
      rw [itinerary] at hmem
      cases hlines : ctx.fileLines? directory with
      | none => simp [hlines] at hmem
      | some found =>
          simp only [hlines, Option.elim_some, List.mem_cons, reduceCtorEq, false_or,
            List.mem_append, List.not_mem_nil, or_false] at hmem
          obtain ⟨place, hplace, heq | ⟨target, htarget, hbelow⟩⟩ := mem_passSteps_iff.1 hmem
          · cases heq
          obtain ⟨own, hown⟩ := WalkContext.exists_opens_of_fileLines? hlines
          obtain ⟨rfl, rfl⟩ := hopens.unique hown
          have hroom := hopen.length_le
          cases htargetLines : ctx.fileLines? target with
          | none =>
              obtain ⟨fewer, rfl⟩ : ∃ fewer, depth = fewer + 1 := ⟨depth - 1, by omega⟩
              simp [itinerary, htargetLines] at hbelow
          | some innerLines =>
              obtain ⟨below, hbelowOpens⟩ := WalkContext.exists_opens_of_fileLines? htargetLines
              obtain ⟨_, _, _, hnameable, _⟩ := WalkContext.exists_of_fileLines? hlines
              have hentered : ctx.EnteredFrom below location :=
                ⟨hnameable, directory, lines, place, target, innerLines, hopens, hplace, htarget,
                  hbelowOpens⟩
              have haccBelow : Acc ctx.EnteredFrom below := hacc.inv hentered
              have hopenBelow := hopen.push hentered haccBelow hbelowOpens
              have hdepthBelow : ctx.tree.allFiles.length + 1 <
                  depth + (below :: location :: around).length := by
                simp only [List.length_cons] at hdepth ⊢
                omega
              exact ih haccBelow hbelowOpens hopenBelow hdepthBelow hbelow

/-- The bound on open files is enough for a file from which no file is entered without end. -/
theorem endless_not_mem_itinerary {location : List Text} {lines : List Line}
    (hacc : Acc ctx.EnteredFrom location) (hopens : ctx.Opens directory location lines)
    (s : WalkState) : .endless ∉ itinerary ctx (depthBound ctx s) directory := by
  have hbound := length_allFiles_add_two_le_depthBound ctx s
  refine endless_not_mem_of_acc hacc hopens (.single hopens) ?_
  simp only [List.length_cons, List.length_nil]
  omega

/-- The walk of the file of a directory comes to an end, however many files may be open. -/
def Ends (ctx : WalkContext) (directory : Text) : Prop :=
  ∃ depth, .endless ∉ itinerary ctx depth directory

/-- Where an itinerary comes to an end, no file is entered without end, by induction on how many
files may be open. -/
theorem acc_of_endless_not_mem {depth : Nat} {location : List Text} {lines : List Line}
    (h : .endless ∉ itinerary ctx depth directory) (hopens : ctx.Opens directory location lines) :
    Acc ctx.EnteredFrom location := by
  induction depth generalizing directory location lines with
  | zero => exact absurd (List.mem_singleton.2 rfl) h
  | succ depth ih =>
      refine Acc.intro location fun inner hinner => ?_
      obtain ⟨place, hplace, target, innerLines, htarget, hopensInner⟩ := hinner.exists_place hopens
      refine ih (fun hbelow => h ?_) hopensInner
      have hpass : .endless ∈ passSteps ctx (itinerary ctx depth) directory false 0 lines :=
        mem_passSteps_iff.2 ⟨place, hplace, .inr ⟨target, htarget, hbelow⟩⟩
      rw [itinerary, hopens.fileLines? hinner.1, Option.elim_some]
      exact List.mem_cons_of_mem _ (List.mem_append_left _ hpass)

/-- An itinerary that ends under some bound ends within the bound on open files. -/
theorem Ends.endless_not_mem (h : Ends ctx directory) (s : WalkState) :
    .endless ∉ itinerary ctx (depthBound ctx s) directory := by
  obtain ⟨depth, hdepth⟩ := h
  cases hlines : ctx.fileLines? directory with
  | none =>
      obtain ⟨fewer, hfewer⟩ : ∃ fewer, depthBound ctx s = fewer + 1 := by
        have := length_allFiles_add_two_le_depthBound ctx s
        exact ⟨depthBound ctx s - 1, by omega⟩
      simp [hfewer, itinerary, hlines]
  | some lines =>
      obtain ⟨location, hopens⟩ := WalkContext.exists_opens_of_fileLines? hlines
      exact endless_not_mem_itinerary (acc_of_endless_not_mem hdepth hopens) hopens s

/-- Where files do not source each other without end, every walk comes to an end. -/
theorem Ends.of_acc {location : List Text} {lines : List Line} (hacc : Acc ctx.SourcedBy location)
    (hopens : ctx.Opens directory location lines) : Ends ctx directory := by
  have hentered : Acc ctx.EnteredFrom location :=
    Subrelation.accessible (fun h => h.sourcedBy) hacc
  exact ⟨_, endless_not_mem_itinerary hentered hopens (.fresh .unordered .unordered false)⟩

/-- An itinerary that ends is the same where more files may be open, by induction on how many may
be. -/
theorem itinerary_of_le {depth depth' : Nat} (h : .endless ∉ itinerary ctx depth directory)
    (hle : depth ≤ depth') : itinerary ctx depth' directory = itinerary ctx depth directory := by
  induction depth generalizing depth' directory with
  | zero => exact absurd (List.mem_singleton.2 rfl) h
  | succ depth ih =>
      obtain ⟨more, rfl⟩ : ∃ more, depth' = more + 1 := ⟨depth' - 1, by omega⟩
      rw [itinerary] at h ⊢
      rw [itinerary]
      cases hlines : ctx.fileLines? directory with
      | none => rfl
      | some lines =>
          simp only [hlines, Option.elim_some, List.mem_cons, List.mem_append, not_or] at h ⊢
          have hsteps : ∀ place ∈ dispatched false 0 lines,
              lineSteps ctx (itinerary ctx more) directory place =
                lineSteps ctx (itinerary ctx depth) directory place := by
            intro place hplace
            cases htarget : ctx.target? place.1 with
            | none => simp only [lineSteps, htarget, Option.elim_none]
            | some target =>
                have hbelow : .endless ∉ itinerary ctx depth target := fun hmem =>
                  h.2.1 (mem_passSteps_iff.2 ⟨place, hplace, .inr ⟨target, htarget, hmem⟩⟩)
                have hsame := ih hbelow (show depth ≤ more by omega)
                simp only [lineSteps, htarget, Option.elim_some, hsame]
          rw [passSteps, passSteps, List.flatMap_congr hsteps]

/-- So an itinerary that ends is the same under both bounds. -/
theorem itinerary_eq {depth depth' : Nat} (h : .endless ∉ itinerary ctx depth directory)
    (h' : .endless ∉ itinerary ctx depth' directory) :
    itinerary ctx depth' directory = itinerary ctx depth directory := by
  rcases Nat.le_total depth depth' with hle | hle
  · exact itinerary_of_le h hle
  · exact (itinerary_of_le h' hle).symm

/-- A step that finds its file and its source. -/
def Step.Finds (ctx : WalkContext) : Step → Prop
  | .enter directory => ∃ lines, ctx.fileLines? directory = some lines
  | .line _ current _ => ctx.Resolves current
  | _ => True

/-- From a file all of whose sources can be opened every step finds what it looks for. -/
theorem finds_of_sourceable (h : ctx.Sourceable directory) {depth : Nat}
    (hstep : step ∈ itinerary ctx depth directory) : step.Finds ctx := by
  induction h generalizing depth with
  | intro directory lines hlines hresolves _ ih =>
      cases depth with
      | zero =>
          rw [List.mem_singleton.1 hstep]
          trivial
      | succ depth =>
          simp only [itinerary, hlines, Option.elim_some, List.mem_cons, List.mem_append,
            List.not_mem_nil, or_false] at hstep
          rcases hstep with rfl | hstep | rfl
          · exact ⟨lines, hlines⟩
          · obtain ⟨line, after, hsuffix, rfl | ⟨target, htarget, hbelow⟩⟩ := mem_passSteps hstep
            · exact hresolves line (hsuffix.subset List.mem_cons_self)
            · exact ih line (hsuffix.subset List.mem_cons_self) target htarget hbelow
          · trivial

/-- Nor does one stop for too many open files. -/
theorem endless_not_mem_of_sourceable (h : ctx.Sourceable directory) (s : WalkState) :
    .endless ∉ itinerary ctx (depthBound ctx s) directory := by
  obtain ⟨lines, hlines⟩ : ∃ lines, ctx.fileLines? directory = some lines := by
    cases h with
    | intro _ lines hlines _ _ => exact ⟨lines, hlines⟩
  obtain ⟨location, hopens⟩ := WalkContext.exists_opens_of_fileLines? hlines
  exact endless_not_mem_itinerary (h.acc hopens) hopens s

end Walk

end KconfigReference
