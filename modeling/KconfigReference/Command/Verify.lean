import KconfigReference.Check.Page
import KconfigReference.Command.Outcome
import KconfigReference.Text.Basic

/-!
The command that checks a page.
-/

namespace KconfigReference.Command

/-- The lines of a page, whose bytes must be a text. -/
def pageLines (content : Bytes) : Except Misuse (List Text) :=
  match Utf8.decode? content with
  | some text => .ok (Text.physicalLines (Text.normalizeLineEndings text))
  | none => .error .badEncoding

/-- Reads the lines of the page that a path names. -/
def readPage (tree : FileTree) (path : Text) : Except Misuse (List Text) :=
  match tree.read path with
  | .ok content => pageLines content
  | .error e => .error (.ofSystem e)

/-- Checks the page that the first argument names. -/
def verify (arguments : List Text) (tree : FileTree) : Outcome :=
  match arguments with
  | [] => ⟨.exit 1, "Usage: kconfig2html-verify <path_to_html_file>\n", [], tree⟩
  | path :: _ =>
      -- a NUL character is in no name
      let known := if path.contains '\x00' then .ok false else tree.exists? (Path.normal path)
      match known with
      | .error e => ⟨.stopped (.ofSystem e), [], [], tree⟩
      | .ok false => ⟨.exit 1, "Error: File not found: " ++ path ++ "\n", [], tree⟩
      | .ok true =>
          match readPage tree path with
          | .error m => ⟨.stopped m, Check.opening path, [], tree⟩
          | .ok lines =>
              ⟨.exit (if Check.passes (Check.issues lines) then 0 else 1),
                Check.opening path ++ Check.report lines, [], tree⟩

end KconfigReference.Command
