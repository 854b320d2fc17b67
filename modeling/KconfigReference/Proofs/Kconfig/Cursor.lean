import KconfigReference.Kconfig.Cursor

/-!
Requests to a cursor. Main statement: whatever a cursor is asked for, in whatever order, it replies
as the plain list of its lines does. What was taken and what is left are the lines of the beginning
in their order, together with the lines that were put back.
-/

namespace KconfigReference.Cursor

open scoped List

/-- What a cursor can be asked for. -/
inductive Request where
  | next
  | peek
  | pushBack (line : Line)
  /-- One step of an iteration over the lines. -/
  | advance
deriving Repr, DecidableEq

/-- A line, or nothing, or why there is neither. -/
abbrev Reply := Except Misuse (Option Line)

/-- The reply of a cursor, with the cursor after it. -/
def reply : Request → StateM Cursor Reply
  | .next, c => (.ok c.next.1, c.next.2)
  | .peek, c => (.ok c.peek.1, c.peek.2)
  | .pushBack line, c => (.ok none, c.pushBack line)
  | .advance, c => (c.advance.1.map some, c.advance.2)

namespace Request

/-- The reply of a plain list, whose head is the next line, with the list after it. -/
def onList : Request → StateM (List Line) Reply
  | .next, [] => (.ok none, [])
  | .next, line :: rest => (.ok (some line), rest)
  | .peek, lines => (.ok lines.head?, lines)
  | .pushBack line, lines => (.ok none, line :: lines)
  | .advance, [] => (.error .exhausted, [])
  | .advance, line :: rest => (.ok (some line), rest)

/-- The line that a request puts back. -/
def putBack? : Request → Option Line
  | .pushBack line => some line
  | _ => none

/-- The line that a request takes with its reply. A look at the next line takes none. -/
def taken? : Request × Reply → Option Line
  | (.next, .ok line?) => line?
  | (.advance, .ok line?) => line?
  | _ => none

end Request

/-- The replies to requests in turn. -/
def replies {σ : Type} (reply : Request → StateM σ Reply) (requests : List Request) :
    StateM σ (List Reply) :=
  requests.mapM reply

theorem replies_cons {σ : Type} (reply : Request → StateM σ Reply) (request : Request)
    (rest : List Request) (s : σ) : replies reply (request :: rest) s =
      ((reply request s).1 :: (replies reply rest (reply request s).2).1,
        (replies reply rest (reply request s).2).2) := by
  rw [replies, List.mapM_cons]
  rfl

theorem filterMap_cons_toList {α β : Type} (f : α → Option β) (a : α) (rest : List α) :
    (a :: rest).filterMap f = (f a).toList ++ rest.filterMap f := by
  rw [List.filterMap_cons]
  cases f a <;> rfl

/-- The lines that requests take with their replies. -/
def taken (requests : List Request) (replies : List Reply) : List Line :=
  (requests.zip replies).filterMap Request.taken?

theorem taken_cons (request : Request) (rest : List Request) (reply : Reply)
    (others : List Reply) : taken (request :: rest) (reply :: others) =
      (Request.taken? (request, reply)).toList ++ taken rest others :=
  filterMap_cons_toList ..

/-- A cursor replies as the list of its lines and becomes a cursor over what is left of it. -/
theorem reply_eq_onList (request : Request) (c : Cursor) :
    (reply request c).1 = (request.onList c.lines).1 ∧
      (reply request c).2.lines = (request.onList c.lines).2 := by
  have hhead := next_fst c
  have htail := lines_next_snd c
  cases request with
  | next => cases hlines : c.lines <;> simp_all [reply, Request.onList]
  | peek => exact ⟨congrArg Except.ok (peek_fst c), lines_peek_snd c⟩
  | pushBack line => exact ⟨rfl, rfl⟩
  | advance =>
      rcases hnext : c.next with ⟨line?, rest⟩
      rw [hnext] at hhead htail
      cases hlines : c.lines <;> simp_all [reply, advance, Request.onList, Except.map]

/-- What a list gives away and what it keeps are what was added to it and what it had. -/
theorem onList_accounts (request : Request) (lines : List Line) :
    (Request.taken? (request, (request.onList lines).1)).toList ++ (request.onList lines).2 =
      request.putBack?.toList ++ lines := by
  cases request <;> cases lines <;> rfl

theorem replies_eq_onList (requests : List Request) (c : Cursor) :
    (replies reply requests c).1 = (replies Request.onList requests c.lines).1 ∧
      (replies reply requests c).2.lines = (replies Request.onList requests c.lines).2 := by
  induction requests generalizing c with
  | nil => exact ⟨rfl, rfl⟩
  | cons request rest ih =>
      obtain ⟨hreply, hlines⟩ := reply_eq_onList request c
      obtain ⟨hreplies, hleft⟩ := ih (reply request c).2
      rw [hlines] at hreplies hleft
      rw [replies_cons, replies_cons, hreply, hreplies, hleft]
      exact ⟨rfl, rfl⟩

/-- The lines of the beginning stay in order, and none is added but those that are put back. By
induction on the requests, from the account of the first one. -/
theorem onList_keeps (requests : List Request) (lines : List Line) :
    let listed := replies Request.onList requests lines
    lines <+ taken requests listed.1 ++ listed.2 ∧
      taken requests listed.1 ++ listed.2 ~ requests.filterMap Request.putBack? ++ lines := by
  induction requests generalizing lines with
  | nil => exact ⟨List.Sublist.refl lines, List.Perm.refl lines⟩
  | cons request rest ih =>
      have haccount := onList_accounts request lines
      rcases hfirst : request.onList lines with ⟨reply, left⟩
      rw [hfirst] at haccount
      obtain ⟨hordered, hsame⟩ := ih left
      simp only [replies_cons, taken_cons, hfirst, filterMap_cons_toList, List.append_assoc]
      constructor
      · calc
          lines <+ request.putBack?.toList ++ lines := List.sublist_append_right ..
          _ = (Request.taken? (request, reply)).toList ++ left := haccount.symm
          _ <+ _ := hordered.append_left _
      · calc
          _ ~ (Request.taken? (request, reply)).toList ++
                (rest.filterMap Request.putBack? ++ left) := hsame.append_left _
          _ ~ rest.filterMap Request.putBack? ++
                ((Request.taken? (request, reply)).toList ++ left) :=
            List.perm_append_comm_assoc ..
          _ = rest.filterMap Request.putBack? ++ (request.putBack?.toList ++ lines) := by
            rw [haccount]
          _ ~ _ := List.perm_append_comm_assoc ..

/-- A cursor over lines replies to any requests as the list of the lines does, and has the lines
that are left of the list. No line is lost, repeated or moved: taken one after another and followed
by those that are left, the lines of the beginning come in their order, and with them only those
that were put back, as often as they were. -/
theorem replies_as_list (lines : List Line) (requests : List Request) :
    let given := replies reply requests (ofLines lines)
    let listed := replies Request.onList requests lines
    given.1 = listed.1 ∧ given.2.lines = listed.2 ∧
      lines <+ taken requests given.1 ++ given.2.lines ∧
      taken requests given.1 ++ given.2.lines ~
        requests.filterMap Request.putBack? ++ lines := by
  intro given listed
  obtain ⟨hreplies, hleft⟩ := replies_eq_onList requests (ofLines lines)
  obtain ⟨hordered, hsame⟩ := onList_keeps requests lines
  rw [lines_ofLines] at hreplies hleft
  refine ⟨hreplies, hleft, ?_, ?_⟩
  · rw [hreplies, hleft]
    exact hordered
  · rw [hreplies, hleft]
    exact hsame

/-- Lines that are put back at the end of the input come again, the last one first. -/
example (a b : Line) :
    (replies reply [.next, .pushBack a, .pushBack b, .peek, .advance, .next, .advance]
      (ofLines [])).1 =
      [.ok none, .ok none, .ok none, .ok (some b), .ok (some b), .ok (some a),
        .error .exhausted] := rfl

end KconfigReference.Cursor
