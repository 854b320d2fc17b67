import KconfigReference.Number.Binary64
import KconfigReference.Text.Basic
import KconfigReference.Text.Utf8

/-!
A text file while it is read. Its text is handed out in pieces of one size, and its bytes come in
parts that are larger when there are many bytes to a character. A fault in the bytes shows as soon
as the part that holds it comes in, which may be some pieces before the text that it stands in.
-/

namespace KconfigReference

structure Intake where
  /-- The bytes that have not come in. -/
  left : Bytes
  unfinished : Option Utf8.Partial
  /-- Whether the text so far ends with a carriage return; what it counts as depends on what
  follows. -/
  heldReturn : Bool
  /-- The characters that have come in and have not been handed out. -/
  ready : Text
  /-- How many bytes there were to a character in the last part; zero if it had no character. -/
  density : Binary64

namespace Intake

/-- The least number of bytes that come in at a time. -/
def partSize : Nat := 8192

/-- The number of characters that are handed out at a time. -/
def pieceSize : Nat := 4096

def ofBytes (bytes : Bytes) : Intake := ⟨bytes, none, false, [], .zero false⟩

/-- Takes in one more part, given how many characters are wanted, and tells whether the file went
on; none if there is a fault in it. -/
def takeIn (wanted : Nat) (intake : Intake) : Option (Intake × Bool) := do
  let size := max partSize (intake.density.mul (.ofInt wanted)).wholePart
  let part := intake.left.take size
  let atEnd := part.isEmpty
  let (decoded, unfinished) ← Utf8.decodePart? intake.unfinished part
  if atEnd && unfinished.isSome then none
  let text := if intake.heldReturn && (decoded ≠ [] || atEnd) then '\r' :: decoded else decoded
  let holds := text.getLast? = some '\r' && !atEnd
  let text := Text.normalizeLineEndings (if holds then text.dropLast else text)
  let density := if text = [] then .zero false else .ofRatio false part.length text.length
  pure
    (⟨intake.left.drop size, unfinished, holds || (intake.heldReturn && decoded = [] && !atEnd),
      intake.ready ++ text, density⟩, text ≠ [] || !atEnd)

/-- Takes in parts until a whole piece is ready or the file ends. The first argument bounds the
parts still to come in. -/
def prepare : Nat → Intake → Option Intake
  | 0, intake => some intake
  | bound + 1, intake =>
      if pieceSize ≤ intake.ready.length then some intake
      else
        match intake.takeIn (pieceSize - intake.ready.length) with
        | none => none
        | some (next, false) => some next
        | some (next, true) => prepare bound next

/-- The pieces up to the end of the file or to a fault, and whether there is one. The first argument
bounds the pieces still to be handed out. -/
def piecesFrom : Nat → Intake → List Text × Bool
  | 0, _ => ([], false)
  | bound + 1, intake =>
      match intake.prepare (intake.left.length + 2) with
      | none => ([], true)
      | some next =>
          if next.ready = [] then ([], false)
          else
            let (more, faulty) :=
              piecesFrom bound { next with ready := next.ready.drop pieceSize }
            (next.ready.take pieceSize :: more, faulty)

end Intake

/-- The pieces in which the text of a file is handed out, and whether a fault comes after them. -/
def Text.pieceWise (bytes : Bytes) : List Text × Bool :=
  Intake.piecesFrom (bytes.length + 1) (.ofBytes bytes)

end KconfigReference
