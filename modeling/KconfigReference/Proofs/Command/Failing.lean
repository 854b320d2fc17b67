import KconfigReference.Proofs.Command.Course

/-!
Commands that fail. Whatever goes wrong, nothing of a reference is shown, the only file that is
touched is the output, and it is touched only once it has been opened. Main statement: then it does
not exist any more, and everything else is as it was. A system that refuses to remove the output
ends the command by that; there is no other way in which it stays.
-/

namespace KconfigReference.Command

/-- The output of a command is opened: its arguments and its template are in order, and this is the
tree once the file at the path has been emptied. -/
def OpensOutput (host : Host) (arguments : List Text) (tree : FileTree) (path : Text)
    (opened : FileTree) : Prop :=
  ∃ a settings, parseArguments arguments = .ok a ∧ a.outputPath? = some path ∧
    a.Prepares host tree settings opened

/-- A command does not come to success: it ends with another exit code or without one, or it only
shows its help. -/
def Unfinished (arguments : List Text) (outcome : Outcome) : Prop :=
  outcome.ending ≠ .exit 0 ∨ parseArguments arguments = .error .help

variable {host : Host} {a : Arguments} {arguments : List Text} {tree opened spoiled : FileTree}
  {settings : Settings} {today : Date} {outcome failed : Outcome} {path : Text}
  {location : List Text} {content : Bytes}

/-- An output that was opened is an empty file at its place, and everything else is as it was. -/
theorem exists_target_of_openOutput (h : openOutput host tree (some path) = .ok opened) :
    ∃ location, tree.target path = .ok location ∧ tree.write path [] = .ok opened ∧
      FileTree.SameElsewhere location tree opened ∧ opened.glimpse? location = some (some []) ∧
      opened.target path = .ok location := by
  simp only [openOutput] at h
  split at h
  · cases h
  · split at h
    next => cases h
    next => cases h
    next hwritten _ =>
      cases h
      obtain ⟨location, htarget⟩ := FileTree.exists_target_of_write hwritten
      obtain ⟨written, hwritten', hsame, hempty⟩ := FileTree.exists_write htarget []
      obtain rfl : opened = written := by simpa [hwritten] using hwritten'
      exact ⟨location, htarget, hwritten', hsame, hempty, hsame.target htarget (by simp [hempty])⟩

/-- What a failure finds of an output that was opened is a file at its place, empty unless writing
it broke off, and everything else is as it was. -/
theorem Arguments.Spoils.exists_content (h : a.Spoils host opened spoiled)
    (hpath : a.outputPath? = some path) (hopened : openOutput host tree (some path) = .ok opened) :
    ∃ location content, tree.target path = .ok location ∧
      FileTree.SameElsewhere location tree spoiled ∧ spoiled.target path = .ok location ∧
      spoiled.glimpse? location = some (some content) ∧ (host.writing = none → content = []) := by
  obtain ⟨location, htarget, -, hsame, hempty, htarget'⟩ := exists_target_of_openOutput hopened
  cases h with
  | empty => exact ⟨location, [], htarget, hsame, htarget', hempty, fun _ => rfl⟩
  | partly spoiled path' content hpath' hbroken hwritten =>
      obtain rfl : path = path' := Option.some.inj (hpath.symm.trans hpath')
      obtain ⟨written, hwritten', hsame', hcontent⟩ := FileTree.exists_write htarget' content
      obtain rfl : spoiled = written := Except.ok.inj (hwritten.symm.trans hwritten')
      exact ⟨location, content, htarget, hsame.trans hsame',
        hsame'.target htarget' (by simp [hcontent]), hcontent, fun h => absurd h hbroken⟩

section

variable (htarget : failed.tree.target path = .ok location)
  (hcontent : failed.tree.glimpse? location = some (some content))

include htarget hcontent

theorem exists?_of_content : failed.tree.exists? path = .ok true := by
  rw [FileTree.exists?_of_target htarget, hcontent, Option.isSome_some]

/-- An output that is withdrawn is removed. -/
theorem exists_withdraw_of_removal (hremoval : host.removal = none) :
    ∃ removed, withdraw host (some path) failed = { failed with tree := removed } ∧
      FileTree.SameElsewhere location failed.tree removed ∧ removed.glimpse? location = none ∧
      removed.exists? path = .ok false := by
  obtain ⟨removed, hremoved, hsame, hgone⟩ := FileTree.exists_remove htarget hcontent
  have htarget' : removed.target path = .ok location := hsame.target htarget (by simp [hgone])
  refine ⟨removed, ?_, hsame, hgone, ?_⟩
  · simp only [withdraw, exists?_of_content htarget hcontent, hremoval, hremoved]
  · rw [FileTree.exists?_of_target htarget', hgone, Option.isSome_none]

/-- Where the system refuses to remove it, an output that is withdrawn stays. -/
theorem withdraw_of_refusal {e : SystemError} (hremoval : host.removal = some e) :
    withdraw host (some path) failed = { failed with ending := .stopped (.ofSystem e) } := by
  simp only [withdraw, exists?_of_content htarget hcontent, hremoval,
    FileTree.remove_of_target htarget hcontent]

end

/-- What a failure leaves of an output that was opened, whether or not its host lets it be
removed. -/
theorem Arguments.Spoils.withdrawn (h : a.Spoils host opened failed.tree)
    (hpath : a.outputPath? = some path) (hopened : openOutput host tree (some path) = .ok opened) :
    let outcome := withdraw host (some path) failed
    ∃ location, tree.target path = .ok location ∧
      FileTree.SameElsewhere location tree outcome.tree ∧
      (host.removal = none → outcome.tree.glimpse? location = none ∧
        outcome.tree.exists? path = .ok false) ∧
      ∀ e, host.removal = some e → outcome.ending = .stopped (.ofSystem e) ∧
        ∃ content, outcome.tree.read path = .ok content ∧ (host.writing = none → content = []) := by
  intro outcome
  obtain ⟨location, content, htarget, hsame, htarget', hcontent, hempty⟩ :=
    h.exists_content hpath hopened
  refine ⟨location, htarget, ?_⟩
  cases hremoval : host.removal with
  | none =>
      obtain ⟨removed, hwithdrawn, hdropped, hgone⟩ :=
        exists_withdraw_of_removal htarget' hcontent hremoval
      have hremoved : outcome = { failed with tree := removed } := hwithdrawn
      rw [hremoved]
      exact ⟨hsame.trans hdropped, fun _ => hgone, fun e he => nomatch he⟩
  | some e =>
      have hstays : outcome = { failed with ending := .stopped (.ofSystem e) } :=
        withdraw_of_refusal htarget' hcontent hremoval
      rw [hstays]
      refine ⟨hsame, (nomatch ·), fun e' he => ?_⟩
      obtain rfl : e = e' := Option.some.inj he
      exact ⟨rfl, content, FileTree.read_of_target htarget' hcontent, hempty⟩

namespace Course

/-- A command that fails shows nothing. -/
theorem output_eq_nil (h : Course host a tree today outcome) (hending : outcome.ending ≠ .exit 0) :
    outcome.output = [] := by
  cases h with
  | unprepared failure => exact fail_output ..
  | failed settings opened spoiled log failure => rw [withdraw_output, fail_output]
  | shown => exact absurd rfl hending
  | written => exact absurd rfl hending

/-- Where no output was opened, a command that fails has touched nothing. -/
theorem tree_eq (h : Course host a tree today outcome) (hending : outcome.ending ≠ .exit 0)
    (hclosed : ∀ path settings opened, a.outputPath? = some path →
      ¬a.Prepares host tree settings opened) : outcome.tree = tree := by
  cases h with
  | unprepared failure => exact fail_tree ..
  | failed settings opened spoiled log failure hfailure hprepares hspoiled =>
      cases hpath : a.outputPath? with
      | none =>
          have houtput := hprepares.output
          rw [hpath] at houtput
          cases hspoiled with
          | empty =>
              simp only [withdraw, fail_tree]
              exact (Except.ok.inj houtput).symm
          | partly spoiled path content hpath' => cases hpath.symm.trans hpath'
      | some path => exact absurd hprepares (hclosed path settings opened hpath)
  | shown => exact absurd rfl hending
  | written => exact absurd rfl hending

/-- Where an output was opened, a command that fails has withdrawn it as the failure found it. -/
theorem exists_withdraw (h : Course host a tree today outcome) (hending : outcome.ending ≠ .exit 0)
    (hprepares : a.Prepares host tree settings opened) :
    ∃ failed, outcome = withdraw host a.outputPath? failed ∧ a.Spoils host opened failed.tree := by
  cases h with
  | unprepared failure hfailure hnone => exact absurd hprepares (hnone settings opened)
  | failed settings' opened' spoiled log failure hfailure hprepares' hspoiled =>
      obtain rfl : opened = opened' :=
        Except.ok.inj (hprepares.output.symm.trans hprepares'.output)
      exact ⟨_, rfl, by rwa [fail_tree]⟩
  | shown => exact absurd rfl hending
  | written => exact absurd rfl hending

end Course

/-- A tree whose first line ends a condition that is not open, beside an older reference. -/
def brokenTree : FileTree where
  root := .directory
    [("Kconfig", .file (Utf8.encode "endif\n")), ("out", .file (Utf8.encode "old"))]
  home := []

def brokenArguments : List Text := ["-o", "out", "."].map String.toList

-- Where it is not allowed to remove the file, the command ends by that and leaves it empty.
example :
    let host := { Host.willing with removal := some .notPermitted }
    let outcome := generate host brokenArguments brokenTree ⟨2013, 4, 5⟩
    outcome.ending = .stopped .notPermitted ∧
      (outcome.tree.read "out").toOption = some [] := by
  decide +kernel

end KconfigReference.Command
