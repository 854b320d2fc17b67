import KconfigReference.Command.Generate
import KconfigReference.Proofs.Files.Change
import KconfigReference.Proofs.Reporting
import KconfigReference.Proofs.Template.Load

/-!
The course of a command. Its settings are made and its output is opened, or it fails before it has
touched a file; then the reference is made and handed over, or what was opened is removed again.
Main statement: every command that is understood takes one of these courses, whatever its host
refuses.
-/

namespace KconfigReference

/-- A failure that is not taken for success: a misuse, or a report with an exit code of its own. -/
def Failure.Unsuccessful : Failure → Prop
  | .reported d => ∃ code, d.kind.exitCode? = some code ∧ code ≠ .success
  | .misused _ => True

theorem Failure.OfWalk.unsuccessful {e : Failure} (h : e.OfWalk) : e.Unsuccessful := by
  cases e with
  | misused m => trivial
  | reported d =>
      obtain ⟨kind, message, place⟩ := d
      cases kind with
      | kconfigOpen => exact ⟨_, rfl, by decide⟩
      | conditionOverflow => exact ⟨_, rfl, by decide⟩
      | conditionUnderflow => exact ⟨_, rfl, by decide⟩
      | nestingOverflow => exact ⟨_, rfl, by decide⟩
      | nestingUnderflow => exact ⟨_, rfl, by decide⟩
      | _ => cases h

namespace Template

variable {yaml : YamlReader} {tree : FileTree} {path : Text} {e : Failure}

theorem unsuccessful_unusable (path message : Text) : (unusable path message).Unsuccessful :=
  ⟨.templateLoadFailure, rfl, by decide⟩

theorem unsuccessful_describeFault (path : Text) (fault : Assignment.Fault) :
    (describeFault path fault).Unsuccessful := by
  cases fault with
  | system arguments =>
      simp only [describeFault]
      split
      · exact unsuccessful_unusable _ _
      · trivial
  | _ => exact unsuccessful_unusable _ _

theorem unsuccessful_readAssignments {content : Bytes}
    (h : readAssignments path content = .error e) : e.Unsuccessful := by
  unfold readAssignments at h
  split at h
  · cases h
    exact unsuccessful_describeFault _ _
  · split at h
    · cases h
    · cases h
      exact unsuccessful_unusable _ _

theorem ReportsOr.unsuccessful {name : Text} {allowed : Misuse → Prop}
    (h : ReportsOr name allowed e) : e.Unsuccessful := by
  cases e with
  | reported d =>
      obtain ⟨message, hd⟩ := h
      rw [hd]
      exact unsuccessful_unusable _ _
  | misused m => trivial

theorem unsuccessful_readValue (h : readValue yaml tree path = .error e) : e.Unsuccessful := by
  unfold readValue at h
  split at h
  · cases h
    exact unsuccessful_unusable _ _
  next format _ =>
    split at h
    · cases h
      cases format with
      | assignments => exact unsuccessful_unusable _ _
      | yaml => trivial
      | json => trivial
    · split at h
      · cases h
        exact unsuccessful_unusable _ _
      · cases format with
        | assignments => exact unsuccessful_readAssignments h
        | yaml => exact (reportsOr_readYaml h).unsuccessful
        | json =>
            have hreports : ReportsOr path (Escapes yaml .json _) e := reportsOr_readJson h
            exact hreports.unsuccessful

theorem unsuccessful_load (h : load yaml tree path = .error e) : e.Unsuccessful := by
  rcases bind_eq_error_iff.1 h with hvalue | ⟨value, -, hentries⟩
  · exact unsuccessful_readValue hvalue
  · split at hentries
    · cases hentries
    · cases hentries
    · cases hentries
      exact unsuccessful_unusable _ _

/-- Settings that cannot be made are never taken for success. -/
theorem unsuccessful_settings {template : Option Text} {overrides : List (Setting × Setting)}
    (h : settings yaml tree template overrides = .error e) : e.Unsuccessful := by
  unfold settings at h
  split at h
  · cases h
  · rcases bind_eq_error_iff.1 h with hgiven | ⟨given, -, hmade⟩
    · exact unsuccessful_load hgiven
    · cases hmade

end Template

namespace Reference

/-- A reference that is not made is never taken for one. -/
theorem unsuccessful_generate {settings : Settings} {tree : FileTree} {root : Text} {today : Date}
    {refusal : Option Text} {e : Failure}
    (h : (generate settings tree root today refusal).result = .error e) : e.Unsuccessful := by
  cases e with
  | misused m => trivial
  | reported d =>
      rcases kind_of_reported h with hstaging | hwalk
      · exact ⟨.stagingOpenFailure, by rw [hstaging]; rfl, by decide⟩
      · have hfailure : Failure.OfWalk (.reported d) := hwalk
        exact hfailure.unsuccessful

end Reference

namespace Command

/-- The settings are made from the template and the options, and the output is opened: this is the
tree once its file has been emptied. -/
structure Arguments.Prepares (a : Arguments) (host : Host) (tree : FileTree) (settings : Settings)
    (opened : FileTree) : Prop where
  settings :
    Template.settings host.yaml tree (Arguments.text? a.template) a.overrides = .ok settings
  output : openOutput host tree a.outputPath? = .ok opened

/-- What a failure may find of the output: it is as it was opened, or the writing of a page broke
off and some of its bytes are there. -/
inductive Arguments.Spoils (a : Arguments) (host : Host) (opened : FileTree) : FileTree → Prop where
  | empty : Spoils a host opened opened
  | partly (spoiled : FileTree) (path : Text) (content : Bytes) (hpath : a.outputPath? = some path)
      (hbroken : host.writing ≠ none) (hwritten : opened.write path content = .ok spoiled) :
      Spoils a host opened spoiled

/-- How a command with arguments may go, and how it ends then. -/
inductive Course (host : Host) (a : Arguments) (tree : FileTree) (today : Date) :
    Outcome → Prop where
  /-- It fails before an output is opened. -/
  | unprepared (failure : Failure) (hfailure : failure.Unsuccessful)
      (hnone : ∀ settings opened, ¬a.Prepares host tree settings opened) :
      Course host a tree today (fail a.logLevel a.announcements tree failure)
  /-- It fails later, and the output is withdrawn. -/
  | failed (settings : Settings) (opened spoiled : FileTree) (log : List LogRecord)
      (failure : Failure) (hfailure : failure.Unsuccessful)
      (hopened : a.Prepares host tree settings opened) (hspoiled : a.Spoils host opened spoiled) :
      Course host a tree today
        (withdraw host a.outputPath? (fail a.logLevel log spoiled failure))
  /-- The reference is shown. -/
  | shown (settings : Settings) (opened : FileTree) (log : List LogRecord) (page : CodeText)
      (hopened : a.Prepares host tree settings opened) (hpath : a.outputPath? = none)
      (hmade : (Reference.generate settings opened a.root today host.staging).result = .ok page)
      (htaken : host.output page = none) :
      Course host a tree today ⟨.exit 0, page.joined, logText a.logLevel log, opened⟩
  /-- The reference is written to its file. -/
  | written (settings : Settings) (opened written : FileTree) (log : List LogRecord)
      (page : CodeText) (path text : Text) (hopened : a.Prepares host tree settings opened)
      (hpath : a.outputPath? = some path)
      (hmade : (Reference.generate settings opened a.root today host.staging).result = .ok page)
      (hplain : page.plain? = some text)
      (hwritten : opened.write path (Utf8.encode text) = .ok written) :
      Course host a tree today ⟨.exit 0, [], logText a.logLevel log, written⟩

variable {host : Host} {a : Arguments} {tree opened spoiled written : FileTree}
  {settings : Settings} {today : Date} {level : LogLevel} {log : List LogRecord}
  {failure : Failure} {failed : Outcome} {output : Option Text} {path text : Text}

theorem fail_tree (level : LogLevel) (log : List LogRecord) (tree : FileTree) (failure : Failure) :
    (fail level log tree failure).tree = tree := by cases failure <;> rfl

theorem fail_output (level : LogLevel) (log : List LogRecord) (tree : FileTree)
    (failure : Failure) : (fail level log tree failure).output = [] := by cases failure <;> rfl

/-- What is not taken for success does not end a command as success does. -/
theorem fail_ending_ne (level : LogLevel) (log : List LogRecord) (tree : FileTree)
    (h : failure.Unsuccessful) : (fail level log tree failure).ending ≠ .exit 0 := by
  cases failure with
  | misused m => simp [fail]
  | reported d =>
      obtain ⟨code, hcode, hne⟩ := h
      have hnumber : code.number ≠ 0 := by
        revert hne
        cases code <;> decide
      simpa [fail, hcode] using hnumber

/-- Nothing is shown because an output is withdrawn. -/
theorem withdraw_output (host : Host) (output : Option Text) (failed : Outcome) :
    (withdraw host output failed).output = failed.output := by
  unfold withdraw
  split
  · rfl
  · split
    · split <;> rfl
    · rfl

theorem withdraw_ending_ne (host : Host) (output : Option Text)
    (h : failed.ending ≠ .exit 0) : (withdraw host output failed).ending ≠ .exit 0 := by
  unfold withdraw
  split
  · exact h
  · split
    · split
      · exact h
      · simp
    · exact h

theorem unsuccessful_openOutput (h : openOutput host tree output = .error failure) :
    failure.Unsuccessful := by
  unfold openOutput at h
  split at h
  · cases h
  · split at h
    · cases h
      trivial
    · split at h
      · cases h
        exact ⟨.outputOpenFailure, rfl, by decide⟩
      · cases h
        exact ⟨.outputOpenFailure, rfl, by decide⟩
      · cases h

/-- A page that is written is in its file. -/
theorem write_of_writePage (h : writePage host tree path text = (written, none)) :
    tree.write path (Utf8.encode text) = .ok written := by
  unfold writePage at h
  split at h
  · split at h
    next hwritten =>
      obtain ⟨rfl, -⟩ := Prod.mk.inj h
      exact hwritten
    next => cases h
  · split at h <;> cases h

/-- Where the writing of a page fails, nothing of it has come to the file or a part has. -/
theorem spoils_of_writePage {reason : Text} (hpath : a.outputPath? = some path)
    (h : writePage host opened path text = (spoiled, some reason)) :
    a.Spoils host opened spoiled := by
  unfold writePage at h
  split at h
  · split at h
    · cases h
    · cases h
      exact .empty
  next count broken hwriting =>
    split at h
    next hwritten =>
      cases h
      exact .partly _ path _ hpath (by simp [hwriting]) hwritten
    next =>
      cases h
      exact .empty

/-- What comes of a reference that was made. -/
theorem course_deliver {page : CodeText} (hopened : a.Prepares host tree settings opened)
    (hmade : (Reference.generate settings opened a.root today host.staging).result = .ok page) :
    Course host a tree today (deliver host a.logLevel log opened a.outputPath? page) := by
  cases hpath : a.outputPath? with
  | none =>
      unfold deliver
      cases htaken : host.output page with
      | none => exact .shown settings opened log page hopened hpath hmade htaken
      | some m =>
          have hfailed : Course host a tree today _ :=
            .failed settings opened opened log (.misused m) trivial hopened .empty
          rwa [hpath] at hfailed
  | some path =>
      unfold deliver
      cases hplain : page.plain? with
      | none =>
          have hfailed : Course host a tree today _ :=
            .failed settings opened opened log (.misused .unencodable) trivial hopened .empty
          rwa [hpath] at hfailed
      | some text =>
          obtain ⟨left, hleft⟩ : ∃ left, writePage host opened path text = left := ⟨_, rfl⟩
          obtain ⟨written, _ | reason⟩ := left
          · simp only [hleft]
            exact .written settings opened written _ page path text hopened hpath hmade hplain
              (write_of_writePage hleft)
          · have hfailed : Course host a tree today _ :=
              .failed settings opened written log
                (.reported (.inFile .outputOpen ("write failed: " ++ reason) path))
                ⟨.outputOpenFailure, rfl, by decide⟩ hopened (spoils_of_writePage hpath hleft)
            simp only [hleft]
            rwa [hpath] at hfailed

/-- Every command that is understood takes one of these courses. -/
theorem course_generateWith (host : Host) (a : Arguments) (tree : FileTree) (today : Date) :
    Course host a tree today (generateWith host a tree today) := by
  unfold generateWith
  cases hsettings :
      Template.settings host.yaml tree (Arguments.text? a.template) a.overrides with
  | error failure =>
      refine .unprepared failure (Template.unsuccessful_settings hsettings)
        fun settings opened h => ?_
      exact nomatch hsettings.symm.trans h.settings
  | ok settings =>
      cases hopened : openOutput host tree a.outputPath? with
      | error failure =>
          simp only [hopened, bind, Except.bind]
          refine .unprepared failure (unsuccessful_openOutput hopened) fun settings opened h => ?_
          exact nomatch hopened.symm.trans h.output
      | ok opened =>
          have hprepares : a.Prepares host tree settings opened := ⟨hsettings, hopened⟩
          simp only [hopened, bind, Except.bind, pure, Except.pure]
          cases hmade :
              (Reference.generate settings opened a.root today host.staging).result with
          | error failure =>
              exact .failed settings opened opened _ failure
                (Reference.unsuccessful_generate hmade) hprepares .empty
          | ok page => exact course_deliver hprepares hmade

end Command

end KconfigReference
