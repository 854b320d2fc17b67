import KconfigReference.Proofs.Page.Frame
import KconfigReference.Proofs.Page.Staging
import KconfigReference.Proofs.Page.Tidy
import KconfigReference.Proofs.Text.Utf8

/-!
The page as one text: header, table of contents, body and trailer. Its tags and its links are those
of the items, in their order, and every line of it that an item begins is a line of the page.
-/

namespace KconfigReference

namespace TocItem

variable {items : List TocItem}

theorem links_items (h : ∀ item ∈ items, item.Tidy) (before rest : Text) :
    Check.links before (items.flatMap text ++ rest) =
      (items.filterMap link?).map Link.target ++
        Check.links ((items.flatMap text).reverse ++ before) rest := by
  rw [List.map_filterMap, List.filterMap_eq_flatMap_toList]
  exact Check.links_flatMap (fun item hitem => (h item hitem).links_text) before rest

theorem endsLine_items (items : List TocItem) : Text.EndsLine (items.flatMap text) :=
  .flatMap endsLine_text items

end TocItem

namespace BodyItem

variable {items : List BodyItem}

/-- There are no links in the body. -/
theorem links_items (h : ∀ item ∈ items, item.Tidy) (before rest : Text) :
    Check.links before (items.flatMap text ++ rest) =
      Check.links ((items.flatMap text).reverse ++ before) rest := by
  have hnone : items.flatMap (fun _ => ([] : List Text)) = [] :=
    List.flatMap_eq_nil_iff.2 fun _ _ => rfl
  have hlinks : Check.links before (items.flatMap text ++ rest) =
      items.flatMap (fun _ => []) ++ Check.links ((items.flatMap text).reverse ++ before) rest :=
    Check.links_flatMap (fun item hitem => (h item hitem).links_text) before rest
  rwa [hnone] at hlinks

theorem endsLine_items (items : List BodyItem) : Text.EndsLine (items.flatMap text) :=
  .flatMap endsLine_text items

end BodyItem

namespace Reference

theorem page_of_header_error {settings : Settings} {today : Date} {m : Misuse}
    (hheader : Frame.header settings today = .error m) (s : WalkState) (d : Document) :
    page settings today s d = .error (.misused m) d := by
  rw [page, Drafting.bind_apply, hheader]
  rfl

/-- The page of a walk: header, table of contents, body with its line endings made line feeds, and
trailer. -/
theorem page_eq {settings : Settings} {today : Date} {header : CodeText}
    (hheader : Frame.header settings today = .ok header) (maxSize : Int) (s : WalkState) :
    ∃ d, page settings today s ⟨maxSize, [], some (.empty maxSize)⟩ = .ok (header ++
      (s.tocText ++ Text.normalizeLineEndings s.bodyText ++ Frame.trailer).map CodePoint.char)
        d := by
  obtain ⟨written, hwritten, hdraft⟩ := draft_apply s maxSize
  have hlift (d : Document) :
      (MonadExcept.ofExcept ((Except.ok header : Except Misuse CodeText).mapError Failure.misused) :
        Drafting CodeText) d = .ok header d := rfl
  have htoc : (s.toc.toList.map fun item => (item.text : CodeText)).reverse.reverse.flatten =
      s.tocText.map CodePoint.char := by
    simp [WalkState.tocText, List.flatMap_def, List.map_flatten, Function.comp_def]
  refine ⟨⟨maxSize, (s.toc.toList.map fun item => (item.text : CodeText)).reverse, some written⟩,
    ?_⟩
  rw [page, Drafting.bind_apply, hheader, hlift]
  dsimp only
  rw [Drafting.bind_apply, hdraft]
  dsimp only
  rw [Document.compose_of_opened rfl hwritten, htoc, List.map_append, List.map_append,
    List.append_assoc, List.append_assoc, List.append_assoc]

/-- What is made if the staging buffer is opened: the failure of the run or of the header, or the
page of what the run wrote. -/
theorem result_generate (settings : Settings) (tree : FileTree) (root : Text) (today : Date) :
    (generate settings tree root today none).result =
      match Walk.run (.ofSettings settings tree root) (some root) (.ofSettings settings) with
      | .error e _ => .error e
      | .ok _ s => match Frame.header settings today with
        | .error m => .error (.misused m)
        | .ok header => .ok (header ++
            (s.tocText ++ Text.normalizeLineEndings s.bodyText ++ Frame.trailer).map
              CodePoint.char) := by
  have hopened : Document.openStaging none (.fresh Document.defaultMaxSize) =
      .ok () ⟨Document.defaultMaxSize, [], some (.empty Document.defaultMaxSize)⟩ := rfl
  unfold generate
  rw [hopened]
  dsimp only
  cases Walk.run (.ofSettings settings tree root) (some root) (.ofSettings settings) with
  | error e s => rfl
  | ok _ s =>
      cases hheader : Frame.header settings today with
      | error m => simp only [page_of_header_error hheader]
      | ok header =>
          obtain ⟨d, hpage⟩ := page_eq hheader Document.defaultMaxSize s
          simp only [hpage]

/-- A reference is made exactly if the buffer can be opened, the run ends and the header can be
written; then it is the page of what the run wrote. -/
theorem generate_ok_iff {settings : Settings} {tree : FileTree} {root : Text} {today : Date}
    {refusal : Option Text} {page : CodeText} :
    (generate settings tree root today refusal).result = .ok page ↔ refusal = none ∧ ∃ s header,
      Walk.run (.ofSettings settings tree root) (some root) (.ofSettings settings) = .ok () s ∧
      Frame.header settings today = .ok header ∧ page = header ++
        (s.tocText ++ Text.normalizeLineEndings s.bodyText ++ Frame.trailer).map
          CodePoint.char := by
  cases refusal with
  | some reason =>
      obtain ⟨d, hrefused⟩ : ∃ d, (generate settings tree root today (some reason)).result =
          .error (.reported d) := ⟨_, rfl⟩
      simp [hrefused]
  | none =>
      rw [result_generate]
      cases Walk.run (.ofSettings settings tree root) (some root) (.ofSettings settings) with
      | error e s => simp
      | ok _ s =>
          cases Frame.header settings today with
          | error m => simp
          | ok header => simp [eq_comm]

theorem eq_ok_of_toOption {outcome : Except Failure CodeText} {page : CodeText}
    (h : outcome.toOption = some page) : outcome = .ok page := by
  cases outcome with
  | error e => cases h
  | ok found =>
      cases h
      rfl

end Reference

end KconfigReference
