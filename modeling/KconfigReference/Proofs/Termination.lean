import KconfigReference.Proofs.Walk.Machine
import KconfigReference.Proofs.Walk.Sources
import Mathlib.Data.Set.Finite.Basic

/-!
Walks that end. There are finitely many files, so where none of those to which a file leads sources
itself, however indirectly, sourcing is well-founded below it. Main statement: the machine that
walks such a tree stops, with the outcome of the run, whatever else its files hold.
-/

namespace KconfigReference

namespace WalkContext

/-- Whether no file leads to itself among those to which the file at a location leads. -/
def AcyclicBelow (ctx : WalkContext) (location : List Text) : Prop :=
  ∀ x, Relation.ReflTransGen ctx.SourcedBy x location → ¬Relation.TransGen ctx.SourcedBy x x

variable {ctx : WalkContext} {location : List Text}

theorem SourcedBy.mem_allFiles {inner outer : List Text} (h : ctx.SourcedBy inner outer) :
    inner ∈ ctx.tree.allFiles.map (·.1) := by
  obtain ⟨_, _, _, _, _, _, _, _, _, hopens⟩ := h
  exact hopens.mem_allFiles

/-- Sourcing without cycles is well-founded, because there are finitely many files. -/
theorem AcyclicBelow.acc (h : ctx.AcyclicBelow location) : Acc ctx.SourcedBy location := by
  let Below := { x // Relation.ReflTransGen ctx.SourcedBy x location }
  let leads : Below → Below → Prop := fun x y => Relation.TransGen ctx.SourcedBy x.1 y.1
  have hfinite : Finite Below := by
    have hmem : ∀ x, Relation.ReflTransGen ctx.SourcedBy x location →
        x ∈ location :: ctx.tree.allFiles.map (·.1) := by
      intro x hx
      rcases Relation.ReflTransGen.cases_head hx with rfl | ⟨y, hxy, -⟩
      · exact List.mem_cons_self
      · exact List.mem_cons_of_mem _ hxy.mem_allFiles
    exact (Set.Finite.subset (List.finite_toSet _) hmem).to_subtype
  have htrans : IsTrans Below leads := ⟨fun _ _ _ => Relation.TransGen.trans⟩
  have hirrefl : Std.Irrefl leads := ⟨fun x => h x.1 x.2⟩
  have hwf : WellFounded leads := Finite.wellFounded_of_trans_of_irrefl leads
  have hacc : ∀ y : Below, Acc ctx.SourcedBy y.1 := by
    intro y
    induction y using hwf.induction with
    | h y ih => exact Acc.intro _ fun x hx => ih ⟨x, .head hx y.2⟩ (.single hx)
  exact hacc ⟨location, .refl⟩

end WalkContext

namespace Walk

variable {ctx : WalkContext} {root : Option Text}

/-- A walk whose sources do not lead in circles comes to an end. -/
theorem Ends.of_acyclic {directory : Text}
    (h : ∀ location lines, ctx.Opens directory location lines → ctx.AcyclicBelow location) :
    Ends ctx directory := by
  cases hlines : ctx.fileLines? directory with
  | none => exact ⟨1, by simp [itinerary, hlines]⟩
  | some lines =>
      obtain ⟨location, hopens⟩ := WalkContext.exists_opens_of_fileLines? hlines
      exact .of_acc (h location lines hopens).acc hopens

/-- A run whose sources do not lead in circles stops after finitely many steps, with a result or a
failure, whatever else its files hold: no bound on open files is needed for it. Each of its steps
leaves the innermost file fewer lines, or ends a loop over an entry, a block or a file. -/
theorem run_stops
    (hacyclic : ∀ location lines, ctx.Opens (startDirectory ctx root) location lines →
      ctx.AcyclicBelow location) (s : WalkState) :
    (∃ n, (Machine.step ctx)^[n] (.start ctx root s) = .stopped (run ctx root s)) ∧
      ∀ frame outer t,
        Machine.Shrinks frame outer (Machine.step ctx (.walking (frame :: outer) t)) := by
  refine ⟨?_, Machine.shrinks_step ctx⟩
  apply Machine.Reaches.exists_iterate
  exact Machine.reaches_run ctx root s fun t => (Ends.of_acyclic hacyclic).endless_not_mem t

/-- A menu without an end, and a file that opens a condition and is sourced twice. -/
def repeatedTree : FileTree where
  root := .directory
    [("Kconfig", .file (Utf8.encode "menu \"M\"\nsource \"s/Kconfig\"\nsource \"s/Kconfig\"\n")),
      ("s", .directory [("Kconfig", .file (Utf8.encode "if A\n"))])]
  home := []

def repeatedContext : WalkContext := .ofSettings .builtIn repeatedTree "."

def repeatedLines : List Line :=
  [⟨"menu \"M\"", "./Kconfig", 1⟩, ⟨"source \"s/Kconfig\"", "./Kconfig", 2⟩,
    ⟨"source \"s/Kconfig\"", "./Kconfig", 3⟩]

theorem opens_repeated : repeatedContext.Opens "." ["Kconfig"] repeatedLines := by
  refine ⟨"./Kconfig", "menu \"M\"\nsource \"s/Kconfig\"\nsource \"s/Kconfig\"\n", rfl, by rfl,
    by rfl, ?_⟩
  exact congrArg Except.ok (readLines_of_fits (by decide +kernel))

theorem opens_repeatedBelow :
    repeatedContext.Opens "./s" ["s", "Kconfig"] [⟨"if A", "./s/Kconfig", 1⟩] := by
  refine ⟨"./s/Kconfig", "if A\n", rfl, by rfl, by rfl, ?_⟩
  exact congrArg Except.ok (readLines_of_fits (by decide +kernel))

/-- Only the first file sources one, and that is the other. -/
theorem sourcedBy_repeated {inner outer : List Text} (h : repeatedContext.SourcedBy inner outer) :
    inner = ["s", "Kconfig"] ∧ outer = ["Kconfig"] := by
  have hfiles : outer = ["Kconfig"] ∨ outer = ["s", "Kconfig"] := by
    obtain ⟨_, _, _, _, _, hopens, _⟩ := h
    have hmem := hopens.mem_allFiles
    have hall : repeatedContext.tree.allFiles.map (·.1) =
        ([["Kconfig"], ["s", "Kconfig"]] : List (List Text)) := rfl
    rw [hall] at hmem
    simpa using hmem
  rcases hfiles with rfl | rfl
  · obtain ⟨line, hline, hk, target, innerLines, ⟨resolved, hresolve, _, rfl⟩, hinner⟩ :=
      h.exists_line opens_repeated
    refine ⟨?_, rfl⟩
    simp only [repeatedLines, List.mem_cons, List.not_mem_nil, or_false] at hline
    rcases hline with rfl | rfl | rfl
    · exact absurd hk (by decide)
    · cases hresolve
      exact (hinner.unique opens_repeatedBelow).1
    · cases hresolve
      exact (hinner.unique opens_repeatedBelow).1
  · obtain ⟨line, hline, hk, -⟩ := h.exists_line opens_repeatedBelow
    obtain rfl := List.mem_singleton.1 hline
    exact absurd hk (by decide)

theorem acyclicBelow_repeated : repeatedContext.AcyclicBelow ["Kconfig"] := by
  intro x _ hcycle
  obtain ⟨y, hxy, -⟩ := Relation.TransGen.head'_iff.1 hcycle
  obtain ⟨z, -, hzx⟩ := Relation.TransGen.tail'_iff.1 hcycle
  have hinner := (sourcedBy_repeated hxy).1
  have houter := (sourcedBy_repeated hzx).2
  exact absurd (hinner.symm.trans houter) (by decide)

/-- The walk of that tree stops with a level and two conditions open. -/
theorem run_stops_sample :
    repeatedContext.AcyclicBelow ["Kconfig"] ∧
      ∃ n t, (Machine.step repeatedContext)^[n]
          (.start repeatedContext none (.ofSettings .builtIn)) = .stopped (.ok () t) ∧
        t.opened.toList = ["./Kconfig", "./s/Kconfig", "./s/Kconfig"] ∧ t.nesting.level = 2 ∧
        t.conditions.height = 2 := by
  have hacyclic : ∀ location lines, repeatedContext.Opens (startDirectory repeatedContext none)
      location lines → repeatedContext.AcyclicBelow location := by
    intro location lines hopens
    obtain ⟨rfl, -⟩ := hopens.unique opens_repeated
    exact acyclicBelow_repeated
  have hends : endsWith (run repeatedContext none) (fun t => decide
      (t.opened.toList = ["./Kconfig", "./s/Kconfig", "./s/Kconfig"] ∧ t.nesting.level = 2 ∧
        t.conditions.height = 2)) (.ofSettings .builtIn) = true := by decide +kernel
  obtain ⟨_, t, hrun, ht⟩ := exists_of_endsWith hends
  obtain ⟨⟨n, hn⟩, -⟩ := run_stops hacyclic (.ofSettings .builtIn)
  rw [hrun] at hn
  exact ⟨acyclicBelow_repeated, n, t, hn, of_decide_eq_true ht⟩

end Walk

end KconfigReference
