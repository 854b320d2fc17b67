import KconfigReference.Proofs.Page.Staging

/-!
Documents under any operations in any order. What a document answers is told by what was asked of it
before: the table of contents is all that was written to it, and the body is what was written since
the staging buffer was opened.
-/

namespace KconfigReference.Document

namespace Operation

/-- What an operation writes to the table of contents. -/
def tocPart : Operation → CodeText
  | .writeToc text => text
  | _ => []

/-- What an operation writes to an open staging buffer; it takes no halves of surrogate pairs. -/
def bodyPart : Operation → Text
  | .writeBody text => text.plain?.getD []
  | _ => []

/-- Whether an operation only reads. -/
def isReading : Operation → Bool
  | .tocText | .bodyText | .compose _ _ => true
  | _ => false

/-- Whether an operation takes an open staging buffer. -/
def needsStaging : Operation → Bool
  | .writeBody _ | .bodyText | .compose _ _ => true
  | _ => false

/-- The operations since the staging buffer was opened, after one more; none while it is closed. -/
def extend (since : Option (List Operation)) : Operation → Option (List Operation)
  | .openStaging none => some []
  | .close => none
  | operation => since.map (· ++ [operation])

theorem extend_of_ne {operation : Operation} (hopen : operation ≠ .openStaging none)
    (hclose : operation ≠ .close) (since : Option (List Operation)) :
    extend since operation = since.map (· ++ [operation]) := by
  unfold extend
  split
  · exact absurd rfl hopen
  · exact absurd rfl hclose
  · rfl

/-- What comes of an operation: its answer, and the document after it. -/
def outcome (operation : Operation) (d : Document) : Except Failure (Option CodeText) × Document :=
  match operation.perform d with
  | .ok answer d => (.ok answer, d)
  | .error e d => (.error e, d)

end Operation

/-- The operations since the staging buffer was last opened, if it is open. -/
def sinceOpened (operations : List Operation) : Option (List Operation) :=
  operations.foldl Operation.extend none

/-- The document after some operations, whether or not they succeed. -/
def after (operations : List Operation) (d : Document) : Document :=
  operations.foldl (fun d operation => (operation.outcome d).2) d

/-- What some operations answer, one after the other. -/
def answers : List Operation → Document → List (Except Failure (Option CodeText))
  | [], _ => []
  | operation :: more, d => (operation.outcome d).1 :: answers more (operation.outcome d).2

theorem sinceOpened_append (operations : List Operation) (operation : Operation) :
    sinceOpened (operations ++ [operation]) = operation.extend (sinceOpened operations) := by
  simp [sinceOpened]

namespace Operation

variable {d : Document}

theorem outcome_of_closed (h : d.staging = none) {operation : Operation}
    (hneeds : operation.needsStaging = true) :
    operation.outcome d = (.error (.reported stagingClosed), d) := by
  cases operation with
  | writeBody text =>
      simp only [outcome, perform, Drafting.bind_apply, writeBody_of_closed h]
  | bodyText => simp only [outcome, perform, Drafting.bind_apply, bodyText_of_closed h]
  | compose header trailer =>
      simp only [outcome, perform, Drafting.bind_apply, compose_of_closed h]
  | openStaging refusal => cases hneeds
  | close => cases hneeds
  | writeToc text => cases hneeds
  | tocText => cases hneeds

theorem outcome_writeToc (text : CodeText) (d : Document) :
    (writeToc text).outcome d = (.ok none, { d with toc := text :: d.toc }) := rfl

theorem outcome_tocText (d : Document) :
    tocText.outcome d = (.ok (some d.toc.reverse.flatten), d) := rfl

section Opened

variable {s : Staging} (h : d.staging = some s)

include h

theorem outcome_writeBody {text : CodeText} {plain : Text} (htext : text.plain? = some plain) :
    (writeBody text).outcome d = (.ok none, { d with staging := some (s.write plain) }) := by
  simp only [outcome, perform, Drafting.bind_apply, writeBody_of_opened h htext]
  rfl

theorem outcome_writeBody_of_unencodable {text : CodeText} (htext : text.plain? = none) :
    (writeBody text).outcome d = (.error (.misused .unencodable), d) := by
  simp only [outcome, perform, Drafting.bind_apply, writeBody_of_unencodable h htext]

theorem outcome_bodyText {text : Text} (hs : s.Holds text) :
    bodyText.outcome d = (.ok (some (Text.normalizeLineEndings text)), d) := by
  simp only [outcome, perform, Drafting.bind_apply, bodyText_of_opened h hs]
  rfl

theorem outcome_compose {text : Text} (hs : s.Holds text) (header trailer : CodeText) :
    (compose header trailer).outcome d = (.ok (some
      (header ++ d.toc.reverse.flatten ++ Text.normalizeLineEndings text ++ trailer)), d) := by
  simp only [outcome, perform, Drafting.bind_apply, compose_of_opened h hs]
  rfl

end Opened

end Operation

/-- A document that holds what was written to it: the whole table of contents, and the body since
the staging buffer was opened. -/
structure Follows (d : Document) (operations : List Operation) : Prop where
  toc : d.toc.reverse.flatten = operations.flatMap Operation.tocPart
  closed : sinceOpened operations = none → d.staging = none
  opened : ∀ since, sinceOpened operations = some since →
    ∃ s : Staging, d.staging = some s ∧ s.Holds (since.flatMap Operation.bodyPart)

namespace Follows

variable {d : Document} {operations : List Operation}

theorem fresh (maxSize : Int) : (Document.fresh maxSize).Follows [] where
  toc := rfl
  closed _ := rfl
  opened _ h := by cases h

theorem openStaging (h : d.Follows operations) :
    Follows { d with staging := some (.empty d.maxSize) } (operations ++ [.openStaging none]) where
  toc := by simpa [Operation.tocPart] using h.toc
  closed hsince := by simp [sinceOpened_append, Operation.extend] at hsince
  opened since hsince := by
    rw [sinceOpened_append, Operation.extend] at hsince
    cases hsince
    exact ⟨_, rfl, .empty d.maxSize⟩

theorem close (h : d.Follows operations) :
    Follows { d with staging := none } (operations ++ [.close]) where
  toc := by simpa [Operation.tocPart] using h.toc
  closed _ := rfl
  opened since hsince := by simp [sinceOpened_append, Operation.extend] at hsince

/-- An operation that writes its parts, and leaves the staging buffer open or closed as it was. -/
theorem write (h : d.Follows operations) {d' : Document} {operation : Operation}
    (hopen : operation ≠ .openStaging none) (hclose : operation ≠ .close)
    (htoc : d'.toc.reverse.flatten = d.toc.reverse.flatten ++ operation.tocPart)
    (hclosed : d.staging = none → d'.staging = none)
    (hopened : ∀ s text, d.staging = some s → s.Holds text →
      ∃ s' : Staging, d'.staging = some s' ∧ s'.Holds (text ++ operation.bodyPart)) :
    d'.Follows (operations ++ [operation]) where
  toc := by simpa [h.toc] using htoc
  closed hsince := by
    rw [sinceOpened_append, Operation.extend_of_ne hopen hclose,
      Option.map_eq_none_iff] at hsince
    exact hclosed (h.closed hsince)
  opened since hsince := by
    rw [sinceOpened_append, Operation.extend_of_ne hopen hclose,
      Option.map_eq_some_iff] at hsince
    obtain ⟨before, hbefore, rfl⟩ := hsince
    obtain ⟨s, hs, hholds⟩ := h.opened before hbefore
    simpa using hopened s _ hs hholds

/-- An operation that writes nothing, and leaves the document as it was. -/
theorem same (h : d.Follows operations) {operation : Operation}
    (hopen : operation ≠ .openStaging none) (hclose : operation ≠ .close)
    (htoc : operation.tocPart = []) (hbody : d.staging = none ∨ operation.bodyPart = []) :
    d.Follows (operations ++ [operation]) := by
  apply h.write hopen hclose
  · rw [htoc, List.append_nil]
  · exact id
  · intro s text hs hholds
    rcases hbody with hnone | hbody
    · rw [hnone] at hs
      cases hs
    · exact ⟨s, hs, by rwa [hbody, List.append_nil]⟩

/-- Either the staging buffer is closed, or it holds what was written since it was opened. -/
theorem closed_or_opened (h : d.Follows operations) :
    (sinceOpened operations = none ∧ d.staging = none) ∨
      ∃ since s, sinceOpened operations = some since ∧ d.staging = some s ∧
        s.Holds (since.flatMap Operation.bodyPart) := by
  cases hsince : sinceOpened operations with
  | none => exact .inl ⟨rfl, h.closed hsince⟩
  | some since =>
      obtain ⟨s, hs, hholds⟩ := h.opened since hsince
      exact .inr ⟨since, s, rfl, hs, hholds⟩

/-- An operation that only reads leaves the document as it was. -/
theorem of_reading (h : d.Follows operations) {operation : Operation}
    (hreading : operation.isReading = true) : (operation.outcome d).2 = d := by
  rcases h.closed_or_opened with ⟨-, hclosed⟩ | ⟨since, s, -, hs, hholds⟩
  · cases operation with
    | tocText => rfl
    | bodyText => rw [Operation.outcome_of_closed hclosed rfl]
    | compose header trailer => rw [Operation.outcome_of_closed hclosed rfl]
    | openStaging refusal => cases hreading
    | close => cases hreading
    | writeToc text => cases hreading
    | writeBody text => cases hreading
  · cases operation with
    | tocText => rfl
    | bodyText => rw [Operation.outcome_bodyText hs hholds]
    | compose header trailer => rw [Operation.outcome_compose hs hholds]
    | openStaging refusal => cases hreading
    | close => cases hreading
    | writeToc text => cases hreading
    | writeBody text => cases hreading

/-- An operation that fails leaves the document as it was. -/
theorem of_error (h : d.Follows operations) {operation : Operation} {e : Failure}
    (he : (operation.outcome d).1 = .error e) : (operation.outcome d).2 = d := by
  cases operation with
  | openStaging refusal =>
      cases refusal with
      | none => cases he
      | some reason => rfl
  | close => cases he
  | writeToc text => cases he
  | writeBody text =>
      rcases h.closed_or_opened with ⟨-, hclosed⟩ | ⟨since, s, -, hs, -⟩
      · rw [Operation.outcome_of_closed hclosed rfl]
      · cases htext : text.plain? with
        | none => rw [Operation.outcome_writeBody_of_unencodable hs htext]
        | some plain => simp [Operation.outcome_writeBody hs htext] at he
  | tocText => cases he
  | bodyText => exact h.of_reading rfl
  | compose header trailer => exact h.of_reading rfl

/-- The document after an operation holds what the operation wrote. -/
theorem outcome (h : d.Follows operations) (operation : Operation) :
    (operation.outcome d).2.Follows (operations ++ [operation]) := by
  cases operation with
  | openStaging refusal =>
      cases refusal with
      | none => exact h.openStaging
      | some reason => exact h.same (by simp) (by simp) rfl (.inr rfl)
  | close => exact h.close
  | writeToc text =>
      rw [Operation.outcome_writeToc]
      apply h.write (by simp) (by simp)
      · simp [Operation.tocPart]
      · exact id
      · intro s body hs hholds
        exact ⟨s, hs, by simpa [Operation.bodyPart] using hholds⟩
  | writeBody text =>
      rcases h.closed_or_opened with ⟨-, hclosed⟩ | ⟨since, s, -, hs, -⟩
      · rw [Operation.outcome_of_closed hclosed rfl]
        exact h.same (by simp) (by simp) rfl (.inl hclosed)
      · cases htext : text.plain? with
        | none =>
            rw [Operation.outcome_writeBody_of_unencodable hs htext]
            exact h.same (by simp) (by simp) rfl (.inr (by simp [Operation.bodyPart, htext]))
        | some plain =>
            rw [Operation.outcome_writeBody hs htext]
            apply h.write (by simp) (by simp)
            · simp [Operation.tocPart]
            · intro hclosed
              rw [hclosed] at hs
              cases hs
            · intro s' body hs' hholds
              obtain rfl : s = s' := by simpa [hs] using hs'
              exact ⟨_, rfl, by simpa [Operation.bodyPart, htext] using hholds.write plain⟩
  | tocText => exact h.same (by simp) (by simp) rfl (.inr rfl)
  | bodyText =>
      rw [h.of_reading rfl]
      exact h.same (by simp) (by simp) rfl (.inr rfl)
  | compose header trailer =>
      rw [h.of_reading rfl]
      exact h.same (by simp) (by simp) rfl (.inr rfl)

end Follows

/-- A document goes on to hold what is written to it, whatever is asked of it in whatever order. -/
theorem Follows.after {d : Document} {before : List Operation} (h : d.Follows before)
    (operations : List Operation) :
    (Document.after operations d).Follows (before ++ operations) := by
  induction operations generalizing d before with
  | nil => simpa [Document.after] using h
  | cons operation more ih =>
      have hmore := ih (h.outcome operation)
      rw [List.append_assoc, List.singleton_append] at hmore
      exact hmore

/-- After any operations: the composed text is the header, all that was written to the table of
contents, all that was written to the body since the staging buffer was opened, with its line
endings made line feeds, and the trailer. Reading in between changes no later answer. Writing to
the body, reading it and composing fail with a fault of the staging buffer exactly while it is
closed, and what fails changes nothing. -/
theorem after_answers (maxSize : Int) (operations : List Operation) :
    let d := after operations (fresh maxSize)
    let toc := operations.flatMap Operation.tocPart
    (∀ since, sinceOpened operations = some since →
      let body := Text.normalizeLineEndings (since.flatMap Operation.bodyPart)
      Operation.bodyText.outcome d = (.ok (some body), d) ∧
        ∀ header trailer : CodeText, (Operation.compose header trailer).outcome d =
          (.ok (some (header ++ toc ++ body ++ trailer)), d)) ∧
      Operation.tocText.outcome d = (.ok (some toc), d) ∧
      (∀ (operation : Operation) later, operation.isReading = true →
        answers (operation :: later) d = (operation.outcome d).1 :: answers later d) ∧
      (∀ operation : Operation, operation.needsStaging = true →
        ((∃ diagnostic : Diagnostic, diagnostic.kind = .staging ∧
          (operation.outcome d).1 = .error (.reported diagnostic)) ↔
            sinceOpened operations = none)) ∧
      ∀ (operation : Operation) e, (operation.outcome d).1 = .error e →
        (operation.outcome d).2 = d := by
  intro d toc
  have h : d.Follows operations := (Follows.fresh maxSize).after operations
  refine ⟨fun since hsince => ?_, ?_, fun operation later hreading => ?_,
    fun operation hneeds => ⟨?_, fun hsince => ?_⟩, fun operation e he => h.of_error he⟩
  · obtain ⟨s, hs, hholds⟩ := h.opened since hsince
    refine ⟨Operation.outcome_bodyText hs hholds, fun header trailer => ?_⟩
    rw [Operation.outcome_compose hs hholds, h.toc]
  · rw [Operation.outcome_tocText, h.toc]
  · rw [answers, h.of_reading hreading]
  · rintro ⟨diagnostic, -, hfails⟩
    rcases h.closed_or_opened with ⟨hsince, -⟩ | ⟨since, s, -, hs, hholds⟩
    · exact hsince
    · cases operation with
      | writeBody text =>
          cases htext : text.plain? with
          | none => simp [Operation.outcome_writeBody_of_unencodable hs htext] at hfails
          | some plain => simp [Operation.outcome_writeBody hs htext] at hfails
      | bodyText => simp [Operation.outcome_bodyText hs hholds] at hfails
      | compose header trailer => simp [Operation.outcome_compose hs hholds] at hfails
      | openStaging refusal => cases hneeds
      | close => cases hneeds
      | writeToc text => cases hneeds
      | tocText => cases hneeds
  · exact ⟨stagingClosed, rfl, by rw [Operation.outcome_of_closed (h.closed hsince) hneeds]⟩

/-- A line ending may stand across two writes, and a small buffer goes to disk between them. -/
example : answers [.openStaging none, .writeBody ("a\x0d" : Text), .bodyText,
      .writeToc ("t" : Text), .writeBody ("\x0ab" : Text), .compose ("h" : Text) ("e" : Text),
      .close, .bodyText] (fresh 1) =
    [.ok none, .ok none, .ok (some ("a\n" : Text)), .ok none, .ok none,
      .ok (some ("hta\nbe" : Text)), .ok none, .error (.reported stagingClosed)] := by
  rfl

end KconfigReference.Document
