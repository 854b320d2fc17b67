import KconfigReference.Proofs.Text.LineEnding
import KconfigReference.Proofs.Text.Utf8
import KconfigReference.Reference

/-!
The staging buffer between operations. Its place is always at its end: reading it goes to its
beginning and comes back, and moving it to disk keeps the place. So what is written comes after all
that was written before, and what is read is the whole. Main statement: a document into which a walk
is drafted carries the texts of all its items, in their order.
-/

namespace KconfigReference

namespace Stream

/-- A stream is what stands on both sides of its place. -/
theorem eq_of_sides {s t : Stream} (hbehind : s.behind = t.behind) (hahead : s.ahead = t.ahead) :
    s = t := by
  obtain ⟨behind, ahead, position, hcounted⟩ := s
  obtain ⟨behind', ahead', position', hcounted'⟩ := t
  subst hbehind hahead hcounted hcounted'
  rfl

theorem contents_seek (s : Stream) (position : Nat) : (s.seek position).contents = s.contents := by
  simp [contents, seek]

theorem ahead_seek_zero (s : Stream) : (s.seek 0).ahead = s.contents := by simp [seek]

theorem seek_position (s : Stream) : s.seek s.position = s := by
  apply eq_of_sides <;> simp [seek, contents, s.counted]

theorem contents_write_empty (bytes : Bytes) : (empty.write bytes).contents = bytes := by
  simp [empty, write, contents]

/-- A place is found again in any stream with the same contents. -/
theorem seek_position_of_contents {s t : Stream} (h : s.contents = t.contents) :
    s.seek t.position = t := by
  have hseek : s.seek t.position = t.seek t.position := by
    apply eq_of_sides <;> simp [seek, h]
  rw [hseek, seek_position]

theorem seekEnd_of_ahead {s : Stream} (h : s.ahead = []) : s.seekEnd = s := by
  apply eq_of_sides
  · simp [seekEnd, seek, contents, h, List.take_of_length_le]
  · simp [seekEnd, seek, h]

theorem seekEnd_of_contents {s t : Stream} (h : s.contents = t.contents) :
    s.seekEnd = t.seekEnd := by
  apply eq_of_sides <;> simp [seekEnd, seek, h]

end Stream

namespace Staging

/-- Moving a buffer to disk changes neither what it holds nor its place. -/
theorem stream_rollOver (s : Staging) : s.rollOver.stream = s.stream :=
  Stream.seek_position_of_contents (Stream.contents_write_empty _)

theorem stream_write (s : Staging) (text : Text) :
    (s.write text).stream = s.stream.write (Utf8.encode text) := by
  unfold write
  dsimp only
  split
  · exact stream_rollOver _
  · rfl

/-- A buffer at its end that holds a text. -/
structure Holds (s : Staging) (text : Text) : Prop where
  behind : s.stream.behind.reverse = Utf8.encode text
  ahead : s.stream.ahead = []

namespace Holds

variable {s : Staging} {text : Text}

theorem empty (limit : Int) : (Staging.empty limit).Holds [] := ⟨rfl, rfl⟩

theorem contents (h : s.Holds text) : s.stream.contents = Utf8.encode text := by
  rw [Stream.contents, h.ahead, List.append_nil, h.behind]

/-- What is written comes last. -/
theorem write (h : s.Holds text) (more : Text) : (s.write more).Holds (text ++ more) where
  behind := by
    rw [stream_write, Stream.write]
    simp [h.behind, Utf8.encode]
  ahead := by
    rw [stream_write, Stream.write, h.ahead, List.drop_nil]

/-- What is read is all that was written; the buffer is left as it was. -/
theorem read (h : s.Holds text) :
    s.rewind.read = (some (Text.normalizeLineEndings text), s) := by
  have hahead : s.rewind.stream.ahead = Utf8.encode text := by
    rw [rewind, Stream.ahead_seek_zero, h.contents]
  have hend : s.rewind.stream.seekEnd = s.stream := by
    rw [rewind, Stream.seekEnd_of_contents (Stream.contents_seek _ 0),
      Stream.seekEnd_of_ahead h.ahead]
  rw [Staging.read, hahead, hend, Utf8.decode?_encode]
  rfl

theorem seekEnd (h : s.Holds text) : s.seekEnd = s := by
  rw [Staging.seekEnd, Stream.seekEnd_of_ahead h.ahead]

end Holds

end Staging

theorem Drafting.bind_apply (m : Drafting α) (f : α → Drafting β) (d : Document) :
    (m >>= f) d = match m d with
      | .ok a d => f a d
      | .error e d => .error e d := by
  simp only [bind, EStateM.bind]
  cases m d <;> rfl

namespace Document

theorem tocText_apply (d : Document) : tocText d = .ok d.toc.reverse.flatten d := rfl

theorem setStaging_apply (s : Staging) (d : Document) :
    setStaging s d = .ok () { d with staging := some s } := rfl

section Closed

variable {d : Document} (h : d.staging = none)

include h

theorem openedStaging_of_closed : openedStaging d = .error (.reported stagingClosed) d := by
  have hget : (get : Drafting Document) d = .ok d d := rfl
  rw [openedStaging, Drafting.bind_apply, hget]
  simp only [h]
  rfl

theorem writeBody_of_closed (text : CodeText) :
    writeBody text d = .error (.reported stagingClosed) d := by
  rw [writeBody, Drafting.bind_apply, openedStaging_of_closed h]

theorem bodyText_of_closed : bodyText d = .error (.reported stagingClosed) d := by
  rw [bodyText, Drafting.bind_apply, openedStaging_of_closed h]

theorem compose_of_closed (header trailer : CodeText) :
    compose header trailer d = .error (.reported stagingClosed) d := by
  simp only [compose, Drafting.bind_apply, tocText_apply, bodyText_of_closed h]

end Closed

section Opened

variable {d : Document} {s : Staging} (h : d.staging = some s)

include h

theorem openedStaging_of_opened : openedStaging d = .ok s d := by
  have hget : (get : Drafting Document) d = .ok d d := rfl
  rw [openedStaging, Drafting.bind_apply, hget]
  simp only [h]
  rfl

theorem writeBody_of_opened {text : CodeText} {plain : Text} (htext : text.plain? = some plain) :
    writeBody text d = .ok () { d with staging := some (s.write plain) } := by
  rw [writeBody, Drafting.bind_apply, openedStaging_of_opened h]
  simp only [htext, setStaging_apply]

/-- Half of a surrogate pair is refused. -/
theorem writeBody_of_unencodable {text : CodeText} (htext : text.plain? = none) :
    writeBody text d = .error (.misused .unencodable) d := by
  rw [writeBody, Drafting.bind_apply, openedStaging_of_opened h]
  simp only [htext]
  rfl

theorem bodyText_of_opened {text : Text} (hs : s.Holds text) :
    bodyText d = .ok (Text.normalizeLineEndings text) d := by
  rw [bodyText, Drafting.bind_apply, openedStaging_of_opened h]
  simp only [hs.read, hs.seekEnd, Drafting.bind_apply, setStaging_apply, ← h]
  rfl

theorem compose_of_opened {text : Text} (hs : s.Holds text) (header trailer : CodeText) :
    compose header trailer d =
      .ok (header ++ d.toc.reverse.flatten ++ Text.normalizeLineEndings text ++ trailer) d := by
  simp only [compose, Drafting.bind_apply, tocText_apply, bodyText_of_opened h hs]
  rfl

end Opened

end Document

/-- A document carries these texts in its table of contents, one after the other, and these in its
staging buffer. -/
structure Document.Carries (d : Document) (toc body : List Text) : Prop where
  toc_eq : d.toc.reverse = toc.map fun (text : Text) => (text : CodeText)
  staged : ∃ s : Staging, d.staging = some s ∧ s.Holds body.flatten

namespace Reference

theorem forM_writeToc (items : List TocItem) (d : Document) :
    (items.forM fun item => Document.writeToc item.text) d =
      .ok () { d with toc := (items.map fun item => (item.text : CodeText)).reverse ++ d.toc } := by
  induction items generalizing d with
  | nil => rfl
  | cons item more ih =>
      have hstep : Document.writeToc item.text d =
          .ok () { d with toc := (item.text : CodeText) :: d.toc } := rfl
      have hcons : (item :: more).forM (fun item => Document.writeToc item.text) =
          Document.writeToc item.text >>= fun _ =>
            more.forM fun item => Document.writeToc item.text := rfl
      rw [hcons, Drafting.bind_apply, hstep]
      simp only [ih]
      simp

theorem forM_writeBody (items : List BodyItem) {d : Document} {staging : Staging} {text : Text}
    (hd : d.staging = some staging) (hstaging : staging.Holds text) :
    ∃ written : Staging, written.Holds (text ++ items.flatMap BodyItem.text) ∧
      (items.forM fun item => Document.writeBody item.text) d =
        .ok () { d with staging := some written } := by
  induction items generalizing d staging text with
  | nil => exact ⟨staging, by simpa using hstaging, by rw [← hd]; rfl⟩
  | cons item more ih =>
      have hstep := Document.writeBody_of_opened hd (CodeText.plain?_char item.text)
      obtain ⟨written, hwritten, hmore⟩ := ih (d := { d with staging := some (staging.write _) })
        rfl (hstaging.write item.text)
      refine ⟨written, by simpa using hwritten, ?_⟩
      have hcons : (item :: more).forM (fun item => Document.writeBody item.text) =
          Document.writeBody item.text >>= fun _ =>
            more.forM fun item => Document.writeBody item.text := rfl
      rw [hcons, Drafting.bind_apply, hstep]
      exact hmore

/-- What a walk wrote, in a document with an empty staging buffer. -/
theorem draft_apply (s : WalkState) (maxSize : Int) :
    ∃ written : Staging, written.Holds s.bodyText ∧
      draft s ⟨maxSize, [], some (.empty maxSize)⟩ = .ok ()
        ⟨maxSize, (s.toc.toList.map fun item => (item.text : CodeText)).reverse, some written⟩ := by
  obtain ⟨written, hwritten, hbody⟩ := forM_writeBody s.body.toList
    (d := ⟨maxSize, (s.toc.toList.map fun item => (item.text : CodeText)).reverse,
      some (.empty maxSize)⟩) rfl (.empty maxSize)
  refine ⟨written, hwritten, ?_⟩
  rw [draft, Drafting.bind_apply, forM_writeToc, List.append_nil]
  exact hbody

/-- A new document carries what a walk wrote once it is drafted there. -/
theorem exists_carries (s : WalkState) (maxSize : Int) :
    ∃ d, (do Document.openStaging none; draft s) (.fresh maxSize) = .ok () d ∧
      d.Carries (s.toc.toList.map TocItem.text) (s.body.toList.map BodyItem.text) := by
  have hopened : Document.openStaging none (.fresh maxSize) =
      .ok () ⟨maxSize, [], some (.empty maxSize)⟩ := rfl
  obtain ⟨written, hwritten, hdraft⟩ := draft_apply s maxSize
  let d : Document :=
    ⟨maxSize, (s.toc.toList.map fun item => (item.text : CodeText)).reverse, some written⟩
  refine ⟨d, ?_, ?_, written, rfl, ?_⟩
  · rw [Drafting.bind_apply, hopened]
    exact hdraft
  · rw [List.reverse_reverse, List.map_map]
    rfl
  · rwa [← List.flatMap_def]

end Reference

end KconfigReference
