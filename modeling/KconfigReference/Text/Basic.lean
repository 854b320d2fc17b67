/-!
Texts as lists of code points, their lines and their words.

Every length, index and chunk size of the library counts code points, so a text is the list of its
code points and the theory of lists is the theory of texts.

A text file ends its lines with a line feed, a carriage return, or both; once read, every line ends
with a line feed, and no other character ends a line. The blank characters are those with the
Unicode property of white space and the four separators U+001C to U+001F; no word is empty or holds
a blank character.
-/

namespace KconfigReference

/-- A text is the list of its code points. -/
abbrev Text := List Char

instance : Coe String Text := ⟨String.toList⟩

namespace Text

/-- The decimal digits of a count. -/
def ofNat (n : Nat) : Text := Nat.toDigits 10 n

/-- An integer in decimal, with a minus sign when negative. -/
def ofInt : Int → Text
  | .ofNat n => ofNat n
  | .negSucc n => '-' :: ofNat (n + 1)

/-- `parts` with `separator` between neighbours. -/
def join (separator : Text) (parts : List Text) : Text := separator.intercalate parts

/-- The pieces of a text between the characters that satisfy `p`, empty pieces included; there is
one piece more than there are such characters. -/
def pieces (p : Char → Bool) : Text → List Text
  | [] => [[]]
  | c :: rest =>
      if p c then [] :: pieces p rest
      else
        match pieces p rest with
        | [] => [[c]]
        | piece :: more => (c :: piece) :: more

theorem pieces_ne_nil (p : Char → Bool) (t : Text) : pieces p t ≠ [] := by
  cases t with
  | nil => simp [pieces]
  | cons c rest =>
      simp only [pieces]
      split
      · simp
      · split <;> simp

/-- The two sides of the leftmost occurrence of `token`, if there is one. -/
def splitAtFirst (token : Text) : Text → Option (Text × Text)
  | [] => if token = [] then some ([], []) else none
  | c :: rest =>
      if token.isPrefixOf (c :: rest) then some ([], (c :: rest).drop token.length)
      else (splitAtFirst token rest).map fun (before, after) => (c :: before, after)

/-- Whether `token` occurs in the text. -/
def occursIn (token t : Text) : Bool := (splitAtFirst token t).isSome

theorem eq_append_of_splitAtFirst {token t before after : Text}
    (h : splitAtFirst token t = some (before, after)) : t = before ++ token ++ after := by
  induction t generalizing before after with
  | nil =>
      by_cases htoken : token = []
      · simp_all [splitAtFirst]
      · simp [splitAtFirst, htoken] at h
  | cons c rest ih =>
      rw [splitAtFirst] at h
      split at h
      · next hpre =>
          simp only [Option.some.injEq, Prod.mk.injEq] at h
          obtain ⟨rfl, rfl⟩ := h
          obtain ⟨tail, htail⟩ := List.isPrefixOf_iff_prefix.1 hpre
          rw [← htail]
          simp
      · obtain ⟨⟨b, a⟩, hba, heq⟩ := Option.map_eq_some_iff.1 h
        simp only [Prod.mk.injEq] at heq
        obtain ⟨rfl, rfl⟩ := heq
        simpa using ih hba

/-- The text up to the first space: the first word of a line whose words are
separated by single spaces. -/
def firstWord (t : Text) : Text := t.takeWhile (· ≠ ' ')

/-- What follows the first space, or nothing when there is no space. -/
def afterFirstSpace (t : Text) : Text := (t.dropWhile (· ≠ ' ')).drop 1

/-- The text without its trailing characters that satisfy `p`. -/
def dropTrailing (p : Char → Bool) (t : Text) : Text := (t.reverse.dropWhile p).reverse

/-- Every `\r\n` and every other `\r` becomes `\n`. -/
def normalizeLineEndings : Text → Text
  | [] => []
  | '\r' :: '\n' :: rest => '\n' :: normalizeLineEndings rest
  | c :: rest => (if c = '\r' then '\n' else c) :: normalizeLineEndings rest

/-- The lines of a text, each with its line feed; the last one may lack it. -/
def physicalLines : Text → List Text
  | [] => []
  | c :: rest =>
      if c = '\n' then [c] :: physicalLines rest
      else
        match physicalLines rest with
        | [] => [[c]]
        | line :: more => (c :: line) :: more

theorem flatten_physicalLines (t : Text) : (physicalLines t).flatten = t := by
  induction t with
  | nil => rfl
  | cons c rest ih =>
      simp only [physicalLines]
      split
      · simp [ih]
      · split
        · next h => simp_all
        · next h => simp_all

/-- The first and last code points of the runs of blank characters. -/
def blankRanges : List (Nat × Nat) :=
  [(0x9, 0xD), (0x1C, 0x20), (0x85, 0x85), (0xA0, 0xA0), (0x1680, 0x1680), (0x2000, 0x200A),
    (0x2028, 0x2029), (0x202F, 0x202F), (0x205F, 0x205F), (0x3000, 0x3000)]

def isBlank (c : Char) : Bool :=
  blankRanges.any fun (first, last) => first ≤ c.toNat && c.toNat ≤ last

/-- The maximal runs of characters that are not blank, in order. -/
def words (t : Text) : List Text := (pieces isBlank t).filter (· ≠ [])

/-- The words separated by single spaces. -/
def squeeze (t : Text) : Text := join [' '] (words t)

theorem ne_nil_of_mem_words {t w : Text} (h : w ∈ words t) : w ≠ [] := by
  simpa using (List.mem_filter.1 h).2

theorem not_of_mem_pieces {p : Char → Bool} {t piece : Text} (hp : piece ∈ pieces p t) {c : Char}
    (hc : c ∈ piece) : p c = false := by
  induction t generalizing piece with
  | nil => simp_all [pieces]
  | cons d rest ih =>
      by_cases hd : p d = true
      · simp only [pieces, hd, if_true, List.mem_cons] at hp
        rcases hp with rfl | hp
        · simp at hc
        · exact ih hp hc
      · simp only [pieces, hd] at hp
        cases hr : pieces p rest with
        | nil => exact absurd hr (pieces_ne_nil p rest)
        | cons first more =>
            simp only [hr, Bool.false_eq_true, if_false, List.mem_cons] at hp
            rcases hp with rfl | hp
            · rcases List.mem_cons.1 hc with rfl | hc
              · simpa using hd
              · exact ih (by simp [hr]) hc
            · exact ih (by simp [hr, hp]) hc

theorem isBlank_eq_false_of_mem_words {t w : Text} (h : w ∈ words t) {c : Char} (hc : c ∈ w) :
    isBlank c = false :=
  not_of_mem_pieces (List.mem_filter.1 h).1 hc

end Text

end KconfigReference
