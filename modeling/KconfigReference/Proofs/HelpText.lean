import KconfigReference.Proofs.Padding

/-!
Help texts. White space at the beginning of a line is lost, so that the lines below a help line are
told from directives by their words alone. Main statement: help text whose lines ask for nothing
makes no difference to a run. A line of prose that begins with a reserved word is a directive like
any other.
-/

namespace KconfigReference

/-- The second lines are the first under other numbers, with help text below help lines. The text
may begin with lines that ask for help again; the lines after them ask for nothing, and the first of
them is no attribute line. Nor is the line after the text. -/
inductive WithHelpText (showInternal : Bool) : List Line → List Line → Prop where
  | nil : WithHelpText showInternal [] []
  | line (line : Line) (number : Nat) {after after' : List Line}
      (hafter : WithHelpText showInternal after after') :
      WithHelpText showInternal (line :: after) (line.renumber number :: after')
  | help {line : Line} (number : Nat) {again text after after' : List Line}
      (hline : line.attribute? = some .help) (hagain : ∀ a ∈ again, a.attribute? = some .help)
      (htext : Invisible showInternal text) (hfirst : Line.NoAttributeFirst text)
      (hnext : Line.NoAttributeFirst after) (hafter : WithHelpText showInternal after after') :
      WithHelpText showInternal (line :: after)
        (line.renumber number :: (again ++ (text ++ after')))

/-- Help text is added like any other lines of which nothing is seen. -/
theorem WithHelpText.padded {showInternal : Bool} {lines lines' : List Line}
    (h : WithHelpText showInternal lines lines') : Padded showInternal lines lines' := by
  induction h with
  | nil => exact .nil
  | line line number _ ih => exact .line line number ih
  | help number hline hagain htext hfirst hnext _ ih =>
      apply Padded.again number hline hagain
      exact .extra htext hfirst hnext ih

namespace Walk

/-- Help text makes no difference as long as its lines ask for nothing. It may begin with lines whose
first word is `help`; on the line after these it must not be an attribute word. Otherwise the first
word of a line may be any that is not reserved or an attribute word, it may be `config` or `source`
where nothing follows, and where hidden entries are not shown there may be one. With such text below
any help lines of any files, none of them before an attribute line, a run ends or fails alike, for
the same reason if it fails; it writes the same table of contents and the same body, and it leaves
the same blocks and conditions open. -/
theorem run_ignores_help_text {ctx : WalkContext} {tree : FileTree} {showInternal : Bool}
    (htree : ctx.tree.Alike (ctx.CutBy (WithHelpText showInternal)) tree) (root : Option Text)
    (maxLevels maxConditions : Int) :
    let start : WalkState := .fresh (.count maxLevels) (.count maxConditions) showInternal
    SameOutcome (run ctx root start) (run (ctx.onTree tree) root start) := by
  intro start
  have hpaths : ∀ path, LinesAlike ctx (ctx.onTree tree) (Padded showInternal) path := by
    intro path
    exact (linesAlike_onTree htree path).mono fun _ _ h => h.padded
  exact sameOutcome_of_meets (shadows_run htree hpaths root (.count maxLevels)
    (.count maxConditions))

/-- Two entries, the first with a help line. -/
def helpedText : Text := "config A\nhelp\nconfig B\n"

def helpContext : WalkContext :=
  .ofSettings .builtIn ⟨.directory [("Kconfig", .file (Utf8.encode helpedText))], []⟩ "."

/-- Text that asks for help once more, says something, and begins a line with an attribute word. -/
def advisedText : Text := "config A\nhelp\n\thelp is near\n\tSay Y\n\tdefault\nconfig B\n"

def advisedTree : FileTree := ⟨.directory [("Kconfig", .file (Utf8.encode advisedText))], []⟩

theorem advised_help :
    helpContext.tree.Alike (helpContext.CutBy (WithHelpText true)) advisedTree := by
  have hlines : ∀ path, helpContext.cut path (Utf8.encode helpedText) =
      .ok [⟨"config A", path, 1⟩, ⟨"help", path, 2⟩, ⟨"config B", path, 3⟩] := by
    intro path
    have htext : Text.normalizeLineEndings (Utf8.decodeLenient (Utf8.encode helpedText)) =
        helpedText := by rfl
    rw [WalkContext.cut, htext]
    exact congrArg Except.ok (readLines_of_fits (by decide +kernel))
  have hlines' : ∀ path, helpContext.cut path (Utf8.encode advisedText) =
      .ok [⟨"config A", path, 1⟩, ⟨"help", path, 2⟩, ⟨"help is near", path, 3⟩,
        ⟨"Say Y", path, 4⟩, ⟨"default", path, 5⟩, ⟨"config B", path, 6⟩] := by
    intro path
    have htext : Text.normalizeLineEndings (Utf8.decodeLenient (Utf8.encode advisedText)) =
        advisedText := by rfl
    rw [WalkContext.cut, htext]
    exact congrArg Except.ok (readLines_of_fits (by decide +kernel))
  refine ⟨rfl, rfl, fun path => ?_, trivial⟩
  rw [hlines, hlines']
  have hagain : ∀ a ∈ [(⟨"help is near", path, 3⟩ : Line)], a.attribute? = some .help := by
    simp only [List.mem_singleton, forall_eq]
    rfl
  have htext : Invisible true [⟨"Say Y", path, 4⟩, ⟨"default", path, 5⟩] := by
    apply Invisible.inert (of_decide_eq_true rfl)
    exact .inert (of_decide_eq_true rfl) .nil
  have htail : WithHelpText true [⟨"config B", path, 3⟩] [⟨"config B", path, 6⟩] :=
    .line ⟨"config B", path, 3⟩ 6 .nil
  have hhelp : WithHelpText true [⟨"help", path, 2⟩, ⟨"config B", path, 3⟩]
      [⟨"help", path, 2⟩, ⟨"help is near", path, 3⟩, ⟨"Say Y", path, 4⟩, ⟨"default", path, 5⟩,
        ⟨"config B", path, 6⟩] :=
    .help 2 (show Line.attribute? ⟨"help", path, 2⟩ = some .help by rfl) hagain htext
      (Line.noAttributeFirst_cons.2 rfl) (Line.noAttributeFirst_cons.2 rfl) htail
  exact .line ⟨"config A", path, 1⟩ 1 hhelp

/-- The text leaves the first entry as it is, and the second. -/
theorem run_ignores_help_text_sample : ∃ t t',
    run helpContext none (.fresh (.count 1) (.count 0) true) = .ok () t ∧
      run (helpContext.onTree advisedTree) none (.fresh (.count 1) (.count 0) true) = .ok () t' ∧
      SameReference t t' ∧
      t'.detailed = [⟨"A", ".", none, none, none, true, []⟩,
        ⟨"B", ".", none, none, none, false, []⟩] := by
  have hends : endsWith (run (helpContext.onTree advisedTree) none)
      (fun t => t.detailed = [⟨"A", ".", none, none, none, true, []⟩,
        ⟨"B", ".", none, none, none, false, []⟩])
      (.fresh (.count 1) (.count 0) true) = true := by decide +kernel
  obtain ⟨_, t', hrun', ht'⟩ := exists_of_endsWith hends
  have hruns := @run_ignores_help_text helpContext advisedTree true advised_help none 1 0
  obtain ⟨t, hrun, hsame⟩ := hruns.exists_of_ok hrun'
  exact ⟨t, t', hrun, hrun', hsame, of_decide_eq_true ht'⟩

/-- Prose whose first line begins with a reserved word. -/
def proseTree : FileTree :=
  ⟨.directory [("Kconfig", .file (Utf8.encode "config A\nhelp\n\tif unsure, say N\nconfig B\n"))], []⟩

/-- Help text that begins with `if` opens a condition, which the entries after it show. -/
theorem run_obeys_help_text : ∃ t t',
    run helpContext none (.fresh (.count 1) (.count 1) true) = .ok () t ∧
      run (helpContext.onTree proseTree) none (.fresh (.count 1) (.count 1) true) = .ok () t' ∧
      t.conditions.inForce = [] ∧ t'.conditions.inForce = ["unsure, say N"] ∧
      t.detailed = [⟨"A", ".", none, none, none, true, []⟩,
        ⟨"B", ".", none, none, none, false, []⟩] ∧
      t'.detailed = [⟨"A", ".", none, none, none, true, []⟩,
        ⟨"B", ".", none, none, none, false, ["unsure, say N"]⟩] := by
  have hends : endsWith (run helpContext none) (fun t => t.conditions.inForce = [] ∧
      t.detailed = [⟨"A", ".", none, none, none, true, []⟩,
        ⟨"B", ".", none, none, none, false, []⟩]) (.fresh (.count 1) (.count 1) true) = true := by
    decide +kernel
  have hends' : endsWith (run (helpContext.onTree proseTree) none)
      (fun t => t.conditions.inForce = ["unsure, say N"] ∧
        t.detailed = [⟨"A", ".", none, none, none, true, []⟩,
          ⟨"B", ".", none, none, none, false, ["unsure, say N"]⟩])
      (.fresh (.count 1) (.count 1) true) = true := by decide +kernel
  obtain ⟨_, t, hrun, ht⟩ := exists_of_endsWith hends
  obtain ⟨_, t', hrun', ht'⟩ := exists_of_endsWith hends'
  obtain ⟨hnone, hplain⟩ := of_decide_eq_true ht
  obtain ⟨hprose, hguarded⟩ := of_decide_eq_true ht'
  exact ⟨t, t', hrun, hrun', hnone, hprose, hplain, hguarded⟩

end Walk

end KconfigReference
