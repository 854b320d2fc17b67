import KconfigReference.Proofs.Command.Failing
import KconfigReference.Proofs.Verified
import KconfigReference.Proofs.Walk.Untouched

/-!
Commands that succeed. The output is emptied before the tree is walked, so that a walk that comes to
it reads an empty file. Main statement: the output then holds the reference of the tree with that
file emptied, nothing else has changed, and if the walk does not read the output it is the reference
of the tree as it was.
-/

namespace KconfigReference

/-- Whether a setting is not given at all. -/
def Setting.isNull : Setting → Bool
  | .null => true
  | _ => false

theorem Setting.eq_null_of_isNull {value : Setting} (h : value.isNull = true) : value = .null := by
  cases value with
  | null => rfl
  | _ => cases h

namespace Reference

variable {settings : Settings} {tree tree' : FileTree} {root : Text} {today : Date}
  {refusal : Option Text} {page : CodeText}

/-- A reference that is made is made of every tree on which the files that it was made of are the
same. -/
theorem generate_of_read_eq (h : (generate settings tree root today refusal).result = .ok page)
    (hsame : ∀ path ∈ filesRead settings tree root, ∀ content, tree.read path = .ok content →
      tree'.read path = .ok content) :
    (generate settings tree' root today refusal).result = .ok page := by
  have hcontext : WalkContext.ofSettings settings tree' root =
      (WalkContext.ofSettings settings tree root).onTree tree' := rfl
  obtain ⟨hstaged, s, header, hrun, hheader, hpage⟩ := generate_ok_iff.1 h
  have htexts : ∀ path ∈ s.opened.toList, ∀ text,
      (WalkContext.ofSettings settings tree root).readText path = .ok text →
        ((WalkContext.ofSettings settings tree root).onTree tree').readText path = .ok text := by
    intro path hpath text htext
    have hopened : path ∈ filesRead settings tree root := by
      rwa [filesRead, Walk.stateAfter, hrun]
    unfold WalkContext.readText at htext ⊢
    split at htext
    · cases htext
    next hnul =>
      split at htext
      · cases htext
      next content hread =>
        cases htext
        have hread' : tree'.read path = .ok content := hsame path hopened content hread
        simp only [if_neg hnul, WalkContext.onTree, hread']
  have hrun' := Walk.run_onTree hrun htexts
  rw [← hcontext] at hrun'
  exact generate_ok_iff.2 ⟨hstaged, s, header, hrun', hheader, hpage⟩

end Reference

namespace Command

variable {a : Arguments} {arguments : List Text} {tree : FileTree} {today : Date} {path : Text}

/-- The output of a command that succeeds holds the reference of the tree in which the output has
been emptied, and nothing else has changed. It is the reference of the tree as it was if no file
that is read for it stands where the output does. -/
theorem generate_delivers (host : Host) (harguments : parseArguments arguments = .ok a)
    (hpath : a.outputPath? = some path)
    (hdone : (generate host arguments tree today).ending = .exit 0) :
    let outcome := generate host arguments tree today
    ∃ settings location opened text,
      Template.settings host.yaml tree (Arguments.text? a.template) a.overrides = .ok settings ∧
      tree.target path = .ok location ∧ tree.write path [] = .ok opened ∧
      (Reference.generate settings opened a.root today host.staging).result =
        .ok (text.map CodePoint.char) ∧
      outcome.output = [] ∧ outcome.tree.read path = .ok (Utf8.encode text) ∧
      FileTree.SameElsewhere location tree outcome.tree ∧
      ((∀ read ∈ Reference.filesRead settings opened a.root,
          opened.locate read ≠ .ok location) →
        (Reference.generate settings tree a.root today host.staging).result =
          .ok (text.map CodePoint.char)) := by
  intro outcome
  have hgenerate : outcome = generateWith host a tree today := by
    simp only [outcome, generate, harguments]
  have hending : (generateWith host a tree today).ending = .exit 0 := hgenerate ▸ hdone
  rw [hgenerate]
  have hcourse := course_generateWith host a tree today
  generalize generateWith host a tree today = outcome at hcourse hending ⊢
  cases hcourse with
  | unprepared failure hfailure => exact absurd hending (fail_ending_ne _ _ _ hfailure)
  | failed settings opened spoiled log failure hfailure =>
      exact absurd hending (withdraw_ending_ne _ _ (fail_ending_ne _ _ _ hfailure))
  | shown settings opened log page hprepares hnone =>
      rw [hnone] at hpath
      cases hpath
  | written settings opened written log page path' text hprepares hpath' hmade hplain hwritten =>
      obtain rfl : path = path' := Option.some.inj (hpath.symm.trans hpath')
      have houtput := hprepares.output
      rw [hpath] at houtput
      obtain ⟨location, htarget, hopened, hsame, hempty, htarget'⟩ :=
        exists_target_of_openOutput houtput
      obtain ⟨written', hwritten', hsame', hcontent⟩ :=
        FileTree.exists_write htarget' (Utf8.encode text)
      obtain rfl : written = written' := Except.ok.inj (hwritten.symm.trans hwritten')
      obtain rfl := CodeText.eq_of_plain? hplain
      refine ⟨settings, location, opened, text, hprepares.settings, htarget, hopened, hmade, rfl,
        ?_, hsame.trans hsame', fun hothers => ?_⟩
      · exact FileTree.read_of_target (hsame'.target htarget' (by simp [hcontent])) hcontent
      · exact Reference.generate_of_read_eq hmade fun read hread content hfound =>
          hsame.symm.read (by simp [hempty]) hfound (hothers read hread)

def entryTree : FileTree where
  root := .directory [("Kconfig", .file (Utf8.encode "config A\n\tbool \"a\"\n"))]
  home := []

/-- The arguments that ask for the reference of the tree at home in an output file. -/
def deliveringArguments (output : Text) : List Text := ["-o".toList, output, ".".toList]

/-- A command whose output is the root file ends as if it had succeeded, but what it leaves is not
the reference of the tree that it was given. -/
theorem generate_empties_source :
    let outcome := generate .willing (deliveringArguments "Kconfig") entryTree ⟨2013, 4, 5⟩
    outcome.ending = .exit 0 ∧ ∃ text,
      (Reference.generate .builtIn entryTree "." ⟨2013, 4, 5⟩ none).result =
        .ok (text.map CodePoint.char) ∧
      outcome.tree.read "Kconfig" ≠ .ok (Utf8.encode text) := by
  intro outcome
  obtain ⟨hending, hdiffers⟩ : outcome.ending = .exit 0 ∧
      let text? := (Reference.generate .builtIn entryTree "." ⟨2013, 4, 5⟩ none).result.toOption.bind
        CodeText.plain?
      text? ≠ none ∧ text?.map Utf8.encode ≠ (outcome.tree.read "Kconfig").toOption := by
    decide +kernel
  cases hmade : (Reference.generate .builtIn entryTree "." ⟨2013, 4, 5⟩ none).result with
  | error e =>
      rw [hmade] at hdiffers
      exact absurd rfl hdiffers.1
  | ok page =>
      simp only [hmade, Except.toOption, Option.bind_some] at hdiffers
      obtain ⟨hsome, hne⟩ := hdiffers
      obtain ⟨text, htext⟩ := Option.ne_none_iff_exists'.1 hsome
      refine ⟨hending, text, by rw [CodeText.eq_of_plain? htext], fun hread => hne ?_⟩
      rw [htext, hread]
      rfl

/-- Options that give no setting leave the built-in ones. -/
theorem settings_eq_builtIn (yaml : Template.YamlReader) (tree : FileTree)
    (htemplate : Arguments.text? a.template = none)
    (hnull : ∀ given ∈ a.overrides, given.2 = .null) :
    Template.settings yaml tree (Arguments.text? a.template) a.overrides = .ok .builtIn := by
  simp only [Arguments.overrides, List.forall_mem_cons] at hnull
  obtain ⟨htitle, happs, hinternal, -⟩ := hnull
  rw [htemplate, Arguments.overrides, htitle, happs, hinternal]
  rfl

/-- A command whose output is another file leaves the reference of the tree that it was given. -/
theorem generate_delivers_sample :
    let outcome := generate .willing (deliveringArguments "out.html") entryTree ⟨2013, 4, 5⟩
    outcome.ending = .exit 0 ∧ ∃ text,
      (Reference.generate .builtIn entryTree "." ⟨2013, 4, 5⟩ none).result =
        .ok (text.map CodePoint.char) ∧
      outcome.tree.read "out.html" = .ok (Utf8.encode text) := by
  intro outcome
  let emptied : FileTree :=
    ⟨.directory [("Kconfig", .file (Utf8.encode "config A\n\tbool \"a\"\n")),
      ("out.html", .file [])], []⟩
  obtain ⟨hending, hgiven, hother⟩ : outcome.ending = .exit 0 ∧
      (parseArguments (deliveringArguments "out.html")).toOption.map (fun a =>
        (a.outputPath?, Arguments.text? a.template, a.root, a.overrides.all (·.2.isNull))) =
          some (some "out.html".toList, none, ".".toList, true) ∧
      ∀ read ∈ Reference.filesRead .builtIn emptied ".",
        emptied.locate read ≠ .ok ["out.html".toList] := by decide +kernel
  cases harguments : parseArguments (deliveringArguments "out.html") with
  | error refused =>
      rw [harguments] at hgiven
      cases hgiven
  | ok a =>
      simp only [harguments, Except.toOption, Option.map_some, Option.some.injEq,
        Prod.mk.injEq] at hgiven
      obtain ⟨hpath, htemplate, hroot, hnull⟩ := hgiven
      have hbuiltIn := settings_eq_builtIn Yaml.reader entryTree htemplate fun given hmem =>
        Setting.eq_null_of_isNull (List.all_eq_true.1 hnull given hmem)
      obtain ⟨settings, location, opened, text, hsettings, htarget, hopened, -, -, hread, -,
        hsame⟩ := generate_delivers .willing harguments hpath hending
      obtain rfl : Settings.builtIn = settings := Except.ok.inj (hbuiltIn.symm.trans hsettings)
      obtain rfl : emptied = opened := Except.ok.inj (Eq.trans (by rfl) hopened)
      obtain rfl : ["out.html".toList] = location := Except.ok.inj (Eq.trans (by rfl) htarget)
      rw [hroot] at hsame
      exact ⟨hending, text, hsame hother, hread⟩

end Command

end KconfigReference
