import KconfigReference.Proofs.Template.Json
import KconfigReference.Proofs.Template.Yaml.Drawing

/-!
What becomes of a template in YAML or JSON. It gives entries or is reported with its path, but for
faults that the parsers show in ways of their own, which end the program without a report. What is
said of YAML holds for every reader of it that keeps to its documentation. Main statement: which
faults these are, and that each of them does end the program so.
-/

namespace KconfigReference

namespace Template

/-- What a reader of YAML is documented to do, as far as it matters to templates. -/
structure YamlReader.Documented (yaml : YamlReader) : Prop where
  /-- Only bytes that are no text fail to be decoded. -/
  undecodable : ∀ content, yaml content = .error (.misused .badEncoding) →
    Utf8.decode? content = none
  /-- A date that no calendar has is a bad value. -/
  impossibleDate : yaml (Utf8.encode "2001-99-99") = .error (.misused .badValue)

/-- A path leads to a template of a format with a content. -/
structure Holds (tree : FileTree) (path : Text) (format : Format) (content : Bytes) : Prop where
  format_eq : Format.ofSuffix? (Path.suffix (Path.normal path)) = some format
  nameable : (Path.normal path).contains '\x00' = false
  read_eq : tree.read (Path.normal path) = .ok content

/-- The ways in which the content of a template may end the program without a report. -/
inductive Escapes (yaml : YamlReader) : Format → Bytes → Misuse → Prop where
  /-- The bytes are no text. -/
  | undecodable {format : Format} {content : Bytes} (h : Utf8.decode? content = none) :
      Escapes yaml format content .badEncoding
  /-- In JSON an integer has too many digits. -/
  | longNumber {content : Bytes} {text : Text} (h : Utf8.decode? content = some text)
      (hlong : Json.HasLongNumber (Text.normalizeLineEndings text)) :
      Escapes yaml .json content .badValue
  /-- In YAML the reader fails otherwise than by saying that the file is malformed. -/
  | unread {content : Bytes} {m : Misuse} (h : yaml content = .error (.misused m))
      (hm : m ≠ .badEncoding) : Escapes yaml .yaml content m

variable {yaml : YamlReader} {tree : FileTree} {path : Text} {content : Bytes} {e : Failure}

/-- A failure is a report of the template at a path, or a misuse of an allowed kind. -/
def ReportsOr (name : Text) (allowed : Misuse → Prop) : Failure → Prop
  | .reported d => ∃ message, Failure.reported d = unusable name message
  | .misused m => allowed m

theorem ReportsOr.mono {name : Text} {allowed allowed' : Misuse → Prop}
    (h : ReportsOr name allowed e) (himp : ∀ m, allowed m → allowed' m) :
    ReportsOr name allowed' e := by
  cases e with
  | reported d => exact h
  | misused m => exact himp m h

theorem reportsOr_readYaml (h : readYaml yaml path content = .error e) :
    ReportsOr path (fun m => yaml content = .error (.misused m)) e := by
  unfold readYaml at h
  split at h
  next => cases h
  next =>
    cases h
    exact ⟨_, rfl⟩
  next m hread =>
    cases h
    exact hread

theorem YamlReader.Documented.escapes {m : Misuse} (hyaml : yaml.Documented)
    (h : yaml content = .error (.misused m)) : Escapes yaml .yaml content m := by
  by_cases hm : m = .badEncoding
  · subst hm
    exact .undecodable (hyaml.undecodable content h)
  · exact .unread h hm

theorem reportsOr_readJson (h : readJson path content = .error e) :
    ReportsOr path (Escapes yaml .json content) e := by
  unfold readJson textOf at h
  cases hdecoded : Utf8.decode? content with
  | none =>
      rw [hdecoded] at h
      cases h
      exact .undecodable hdecoded
  | some text =>
      simp only [hdecoded, bind, Except.bind] at h
      split at h
      next => cases h
      next =>
        cases h
        exact ⟨_, rfl⟩
      next hread =>
        cases h
        exact .longNumber hdecoded (Json.hasLongNumber_of_read hread)

/-- Whether a template ends the program without a report, and how. -/
def MayEscape (yaml : YamlReader) (tree : FileTree) (path : Text) (m : Misuse) : Prop :=
  ((Path.normal path).contains '\x00' = true ∧ m = .badValue) ∨
    ∃ format content, Holds tree path format content ∧ Escapes yaml format content m

theorem reportsOr_readValue (hyaml : yaml.Documented)
    (hformat : Format.ofSuffix? (Path.suffix (Path.normal path)) ≠ some .assignments)
    (h : readValue yaml tree (Path.normal path) = .error e) :
    ReportsOr (Path.normal path) (MayEscape yaml tree path) e := by
  unfold readValue at h
  split at h
  next =>
    cases h
    exact ⟨_, rfl⟩
  next format hknown =>
    split at h
    next hnull =>
      cases h
      cases format with
      | assignments => exact absurd hknown hformat
      | yaml => exact .inl ⟨hnull, rfl⟩
      | json => exact .inl ⟨hnull, rfl⟩
    next hnameable =>
      split at h
      next =>
        cases h
        exact ⟨_, rfl⟩
      next content hread =>
        have hholds : Holds tree path format content :=
          ⟨hknown, by simpa using hnameable, hread⟩
        cases format with
        | assignments => exact absurd hknown hformat
        | yaml =>
            exact (reportsOr_readYaml h).mono fun m hm => .inr ⟨_, _, hholds, hyaml.escapes hm⟩
        | json => exact (reportsOr_readJson h).mono fun m hm => .inr ⟨_, _, hholds, hm⟩

theorem Holds.readValue_yaml (h : Holds tree path .yaml content) :
    readValue yaml tree (Path.normal path) = readYaml yaml (Path.normal path) content := by
  simp only [readValue, h.format_eq, h.nameable, h.read_eq, Bool.false_eq_true, if_false]

theorem Holds.readValue_json (h : Holds tree path .json content) :
    readValue yaml tree (Path.normal path) = readJson (Path.normal path) content := by
  simp only [readValue, h.format_eq, h.nameable, h.read_eq, Bool.false_eq_true, if_false]

theorem load_of_readValue_error (h : readValue yaml tree (Path.normal path) = .error e) :
    load yaml tree path = .error e := by
  simp only [load, h, bind, Except.bind]

/-- What is malformed is reported as its reader says. -/
theorem Holds.load_of_malformed {said : Text} (h : Holds tree path .yaml content)
    (hread : yaml content = .error (.malformed said)) :
    load yaml tree path = .error (unusable (Path.normal path) ("parse failed: " ++ said)) := by
  apply load_of_readValue_error
  rw [h.readValue_yaml]
  simp only [readYaml, hread]

/-- A template in YAML ends the program without a report exactly as its reader fails. -/
theorem Holds.load_misused_iff {m : Misuse} (h : Holds tree path .yaml content) :
    load yaml tree path = .error (.misused m) ↔ yaml content = .error (.misused m) := by
  constructor
  · intro hload
    rcases bind_eq_error_iff.1 hload with hvalue | ⟨value, -, hentries⟩
    · rw [h.readValue_yaml] at hvalue
      exact reportsOr_readYaml hvalue
    · split at hentries <;> cases hentries
  · intro hread
    apply load_of_readValue_error
    rw [h.readValue_yaml]
    simp only [readYaml, hread]

theorem Holds.load_of_undecodable (h : Holds tree path .json content)
    (hbytes : Utf8.decode? content = none) :
    load yaml tree path = .error (.misused .badEncoding) := by
  apply load_of_readValue_error
  rw [h.readValue_json]
  simp only [readJson, textOf, hbytes]
  rfl

/-- A template in YAML or JSON gives the entries of its mapping, or none for null, or it is reported
with its path, but for the misuses that may escape. Bytes that are no text always escape in JSON. In
YAML it is the reader that decides: what it calls malformed is reported with what it says, and how
it fails otherwise the program ends, as on a date that no calendar has. -/
theorem load_outcomes (yaml : YamlReader) (hyaml : yaml.Documented) (tree : FileTree) (path : Text)
    (hformat : Format.ofSuffix? (Path.suffix (Path.normal path)) ≠ some .assignments) :
    ((∃ entries, load yaml tree path = .ok entries ∧
        (readValue yaml tree (Path.normal path) = .ok .null ∧ entries = [] ∨
          readValue yaml tree (Path.normal path) = .ok (.dict entries))) ∨
      (∃ message, load yaml tree path = .error (unusable (Path.normal path) message)) ∨
      ∃ m, load yaml tree path = .error (.misused m) ∧ MayEscape yaml tree path m) ∧
    (∀ content, Holds tree path .json content → Utf8.decode? content = none →
      load yaml tree path = .error (.misused .badEncoding)) ∧
    (∀ content, Holds tree path .yaml content →
      (∀ said, yaml content = .error (.malformed said) →
        load yaml tree path = .error (unusable (Path.normal path) ("parse failed: " ++ said))) ∧
      ∀ m, load yaml tree path = .error (.misused m) ↔ yaml content = .error (.misused m)) ∧
    (Holds tree path .yaml (Utf8.encode "2001-99-99") →
      load yaml tree path = .error (.misused .badValue)) := by
  refine ⟨?_, fun content => Holds.load_of_undecodable, fun content hholds => ?_, fun hholds => ?_⟩
  · cases hvalue : readValue yaml tree (Path.normal path) with
    | error e =>
        rw [load_of_readValue_error hvalue]
        have he := reportsOr_readValue hyaml hformat hvalue
        cases e with
        | reported d =>
            obtain ⟨message, hreport⟩ := he
            exact .inr (.inl ⟨message, congrArg Except.error hreport⟩)
        | misused m => exact .inr (.inr ⟨m, rfl, he⟩)
    | ok value =>
        simp only [load, hvalue, bind, Except.bind]
        split
        next => exact .inl ⟨[], rfl, .inl ⟨rfl, rfl⟩⟩
        next entries => exact .inl ⟨entries, rfl, .inr rfl⟩
        next => exact .inr (.inl ⟨_, rfl⟩)
  · exact ⟨fun said => hholds.load_of_malformed, fun m => hholds.load_misused_iff⟩
  · exact hholds.load_misused_iff.2 hyaml.impossibleDate

/-- A template in JSON of one byte, which begins no character. -/
def undecodableTree : FileTree where
  root := .directory [("t.json", .file [0xFF])]
  home := []

/-- A template whose bytes are no text gives no entries and is not reported. -/
theorem load_undecodable :
    load Yaml.reader undecodableTree "t.json" = .error (.misused .badEncoding) := by
  rfl

end Template

namespace Yaml

theorem reader_eq_misused_iff {content : Bytes} {m : Misuse} :
    reader content = .error (.misused m) ↔ read content = .error (.misused m) := by
  unfold reader
  cases read content with
  | ok value => simp [Except.mapError]
  | error fault => cases fault <;> simp [Except.mapError]

/-- The failure of a reading, if it is one without a report. -/
def misuse? : Except Fault Setting → Option Misuse
  | .error (.misused m) => some m
  | _ => none

theorem eq_of_misuse? {outcome : Except Fault Setting} {m : Misuse}
    (h : misuse? outcome = some m) : outcome = .error (.misused m) := by
  unfold misuse? at h
  split at h
  · cases h
    rfl
  · cases h

/-- The reader of the program keeps to the documentation. -/
theorem documented_reader : Template.YamlReader.Documented reader where
  undecodable content h := by
    rcases within_of_read (reader_eq_misused_iff.1 h) with hunread | hunfit
    · exact hunread
    · exact hunfit.elim
  impossibleDate := reader_eq_misused_iff.2 (eq_of_misuse? (by decide +kernel))

end Yaml

namespace Template

/-- A template in YAML that is a date which no calendar has. -/
def datedTree : FileTree where
  root := .directory [("t.yaml", .file (Utf8.encode "2001-99-99"))]
  home := []

theorem load_outcomes_sample :
    Format.ofSuffix? (Path.suffix (Path.normal "t.yaml")) ≠ some .assignments ∧
      Yaml.reader (Utf8.encode "2001-99-99") = .error (.misused .badValue) ∧
      load Yaml.reader datedTree "t.yaml" = .error (.misused .badValue) := by
  have hformat : Format.ofSuffix? (Path.suffix (Path.normal "t.yaml")) ≠ some .assignments := by
    decide
  have hholds : Holds datedTree "t.yaml" .yaml (Utf8.encode "2001-99-99") :=
    ⟨by rfl, by rfl, by rfl⟩
  obtain ⟨-, -, -, hdated⟩ :=
    load_outcomes Yaml.reader Yaml.documented_reader datedTree "t.yaml" hformat
  exact ⟨hformat, Yaml.documented_reader.impossibleDate, hdated hholds⟩

end Template

end KconfigReference
