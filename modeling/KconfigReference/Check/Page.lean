import KconfigReference.Text.Basic

/-!
The checks of a page: every link has an anchor, no two anchors have one name, and the lists are
balanced. Links and lists are errors; anchors of one name are warnings. Targets and names are found
wherever their text stands, inside a tag or not.
-/

namespace KconfigReference.Check

/-- The values in a line that stand between `opening` and the next quotation mark and are not empty,
from left to right. -/
def values (opening : Text) (line : Text) : List Text :=
  match line with
  | [] => []
  | c :: rest =>
      if opening.isPrefixOf (c :: rest) then
        let inside := (c :: rest).drop opening.length
        let value := inside.takeWhile (· ≠ '"')
        if value ≠ [] && value.length < inside.length then
          value :: values opening (rest.drop (opening.length + value.length))
        else values opening rest
      else values opening rest
termination_by line.length
decreasing_by all_goals simp only [List.length_drop, List.length_cons]; omega

def linkTargets (line : Text) : List Text := values "href=\"#" line

def anchorNames (line : Text) : List Text := values "name=\"" line

/-- A tag that opens or closes a list. -/
inductive ListTag where
  | opening
  | closing
deriving Repr, DecidableEq

/-- The list tags of a line, from left to right. -/
def listTags : Text → List ListTag
  | [] => []
  | c :: rest =>
      if ("<ul>" : Text).isPrefixOf (c :: rest) then .opening :: listTags rest
      else if ("</ul>" : Text).isPrefixOf (c :: rest) then .closing :: listTags rest
      else listTags rest

inductive Severity where
  | error
  | warning
deriving Repr, DecidableEq

structure Issue where
  line : Nat
  severity : Severity
  message : Text
deriving Repr, DecidableEq

/-- The lines with their numbers. -/
def numbered (lines : List Text) : List (Text × Nat) := lines.zipIdx 1

/-- One error for each link to a name that no line has as an anchor. -/
def linkIssues (lines : List Text) : List Issue :=
  let names := lines.flatMap anchorNames
  (numbered lines).flatMap fun (line, number) =>
    ((linkTargets line).filter (!names.contains ·)).map fun target =>
      ⟨number, .error, "Link to missing anchor: #" ++ target⟩

/-- One warning for each anchor whose name was met before; `seen` has the names met before with the
line of the first of each. -/
def duplicates (seen : List (Text × Nat)) : List (Text × Nat) → List Issue
  | [] => []
  | (name, number) :: rest =>
      match seen.lookup name with
      | some first =>
          ⟨number, .warning, "Duplicate anchor \"" ++ name ++ "\" (first at line " ++
            Text.ofNat first ++ ")"⟩ :: duplicates seen rest
      | none => duplicates ((name, number) :: seen) rest

def duplicateIssues (lines : List Text) : List Issue :=
  duplicates [] ((numbered lines).flatMap fun (line, number) =>
    (anchorNames line).map (·, number))

/-- One error for each closing tag without an open list, and then one for each list that stays open,
the outermost first; `opened` has the lines of the open lists, innermost first. -/
def unbalanced (opened : List Nat) : List (ListTag × Nat) → List Issue
  | [] => opened.reverse.map fun start =>
      ⟨start, .error, "Unclosed <ul> starting at line " ++ Text.ofNat start⟩
  | (.opening, number) :: rest => unbalanced (number :: opened) rest
  | (.closing, number) :: rest =>
      match opened with
      | [] => ⟨number, .error, "Unmatched </ul>"⟩ :: unbalanced [] rest
      | _ :: outer => unbalanced outer rest

def balanceIssues (lines : List Text) : List Issue :=
  unbalanced [] ((numbered lines).flatMap fun (line, number) => (listTags line).map (·, number))

/-- All issues, in the order of the checks. -/
def issues (lines : List Text) : List Issue :=
  linkIssues lines ++ duplicateIssues lines ++ balanceIssues lines

/-- The issues in the order of their lines; those of one line stay in the order of the checks. -/
def sorted (found : List Issue) : List Issue := found.mergeSort fun a b => a.line ≤ b.line

/-- Whether no issue is an error. -/
def passes (found : List Issue) : Bool := found.all (·.severity ≠ .error)

private def rule : Text := List.replicate 80 '='

private def reportGroup (title : Text) (group : List Issue) : List Text :=
  if group = [] then []
  else
    [rule, title, rule] ++
      group.map (fun issue => "Line " ++ Text.ofNat issue.line ++ ": " ++ issue.message) ++ [[]]

/-- The lines of the report. -/
def reportLines (found : List Issue) : List Text :=
  if found = [] then ["All checks passed.".toList]
  else
    let errors := (sorted found).filter (·.severity = .error)
    let warnings := (sorted found).filter (·.severity = .warning)
    ["Found " ++ Text.ofNat found.length ++ " issues:",
      "  - " ++ Text.ofNat errors.length ++ " ERRORS",
      "  - " ++ Text.ofNat warnings.length ++ " WARNINGS",
      []] ++
      reportGroup "ERRORS (must fix):" errors ++ reportGroup "WARNINGS (should review):" warnings

/-- What is said before a page is read. -/
def opening (path : Text) : Text := "Verifying " ++ path ++ "...\n\n"

/-- The report on the lines of a page. -/
def report (lines : List Text) : Text := (reportLines (issues lines)).flatMap (· ++ ['\n'])

end KconfigReference.Check
