/-
Glob patterns, which exclude files by name. A star stands for any text and a question mark for any
character, slashes and line ends included; a set in brackets stands for one of its characters.

A set is read in two steps, and the order matters. First its text is cut at the hyphens that make
ranges, and ranges whose ends are in the wrong order are taken out; then an exclamation mark at the
front of what is left makes it the set of all other characters. A bracket that nothing closes is an
ordinary character.
-/

set_option autoImplicit false

namespace DocCoverage.Glob

/-- A part of a pattern. -/
inductive Part where
  | anyText
  | anyChar
  | char (c : Char)
  /-- One character of the ranges, or one of all others. -/
  | set (others : Bool) (ranges : List (Char × Char))
  deriving DecidableEq, Repr

/-- Whether a part other than `anyText` accepts a character. -/
def Part.accepts (c : Char) : Part → Bool
  | .anyText => false
  | .anyChar => true
  | .char d => c == d
  | .set others ranges => (ranges.any fun r => r.1 ≤ c && c ≤ r.2) != others

/-! ## Sets -/

/-- The text of a set up to its closing bracket, and what follows the bracket. A bracket right at
the front, or right behind an exclamation mark there, closes nothing. -/
def setText? (cs : List Char) : Option (List Char × List Char) :=
  let mark := cs.takeWhile (· == '!') |>.take 1
  let afterMark := cs.drop mark.length
  let bracket := afterMark.takeWhile (· == ']') |>.take 1
  let afterBracket := afterMark.drop bracket.length
  let inner := afterBracket.takeWhile (· != ']')
  match afterBracket.drop inner.length with
  | _ :: rest => some (mark ++ bracket ++ inner, rest)
  | [] => none

/-- The text cut at its range hyphens. A hyphen makes a range only if at least `need` characters
stand between it and the cut before. -/
def chunks (need : Nat) (current : List Char) : List Char → List (List Char)
  | [] => [current]
  | c :: rest =>
    if c == '-' && need ≤ current.length then current :: chunks 2 [] rest
    else chunks need (current ++ [c]) rest

/-- A hyphen at the very end makes no range. -/
def mendLast : List (List Char) → List (List Char)
  | [chunk, []] => [chunk ++ ['-']]
  | chunk :: rest => chunk :: mendLast rest
  | [] => []

/-- Ranges whose first end lies behind the second are taken out, from the last one on. -/
def dropEmptyRanges : List (List Char) → List (List Char)
  | [] => []
  | chunk :: rest =>
    match dropEmptyRanges rest with
    | [] => [chunk]
    | next :: others =>
      match chunk.getLast?, next.head? with
      | some low, some high =>
        if high < low then (chunk.dropLast ++ next.drop 1) :: others else chunk :: next :: others
      | _, _ => chunk :: next :: others

/-- The chunks put together again: `none` stands for a hyphen that makes a range. -/
def joined : List (List Char) → List (Option Char)
  | [] => []
  | [chunk] => chunk.map some
  | chunk :: rest => chunk.map some ++ none :: joined rest

/-- The ranges of a set, single characters being ranges of one. -/
def ranges : List (Option Char) → List (Char × Char)
  | some low :: none :: some high :: rest => (low, high) :: ranges rest
  | some c :: rest => (c, c) :: ranges rest
  | none :: rest => ('-', '-') :: ranges rest
  | [] => []

/-- **A set**, from its text. -/
def setOf (text : List Char) : Part :=
  let need := if text.head? = some '!' then 2 else 1
  match joined (dropEmptyRanges (mendLast (chunks need [] text))) with
  | some '!' :: rest => .set true (ranges rest)
  | items => .set false (ranges items)

/-! ## Patterns -/

/-- What follows a set is shorter than the text from its opening bracket on. -/
theorem length_of_setText? {cs text rest : List Char} (h : setText? cs = some (text, rest)) :
    rest.length ≤ cs.length := by
  unfold setText? at h
  simp only at h
  split at h
  · next hrest =>
    have := congrArg List.length hrest
    simp only [List.length_drop, List.length_cons] at this
    simp only [Option.some.injEq, Prod.mk.injEq] at h
    rw [← h.2]
    omega
  · simp at h

/-- **The parts of a pattern.** -/
def parts : List Char → List Part
  | [] => []
  | '*' :: rest => .anyText :: parts rest
  | '?' :: rest => .anyChar :: parts rest
  | '[' :: rest =>
    match _h : setText? rest with
    | some (text, after) => setOf text :: parts after
    | none => .char '[' :: parts rest
  | c :: rest => .char c :: parts rest
termination_by cs => cs.length
decreasing_by
  all_goals simp_wf
  all_goals
    have := length_of_setText? _h
    omega

/-- A text and all that is left of it when characters are dropped from its front. -/
def tails : List Char → List (List Char)
  | [] => [[]]
  | c :: rest => (c :: rest) :: tails rest

/-- The parts match the whole of a text. -/
def matchParts : List Part → List Char → Bool
  | [], cs => cs.isEmpty
  | .anyText :: rest, cs => (tails cs).any fun cs => matchParts rest cs
  | part :: rest, c :: cs => part.accepts c && matchParts rest cs
  | _ :: _, [] => false

/-- **A pattern matches a name.** -/
def isMatch (pattern name : String) : Bool :=
  matchParts (parts pattern.toList) name.toList

end DocCoverage.Glob
