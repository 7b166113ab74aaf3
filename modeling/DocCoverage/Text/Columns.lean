/-
How many columns a text takes on a terminal. The characters of the East Asian scripts and most
pictographs take two, controls and marks that combine with the character before them take none, and
all others take one.

Two characters change what stands beside them: behind a joiner the next character becomes a part of
the one before, and a selector makes some characters of one column as wide as a pictograph.
-/
import DocCoverage.Text.ColumnRanges
import DocCoverage.Text.Ranges

set_option autoImplicit false

namespace DocCoverage.Text

/-- The columns of a character by itself. -/
def columns (c : Char) : Nat :=
  if c.toNat < 0x20 || (0x7F ≤ c.toNat && c.toNat < 0xA0) then 0
  else if c.toNat < 0x0300 then 1
  else if inRanges combiningRanges c then 0
  else if inRanges wideRanges c then 2
  else 1

/-- What joins the character behind it to the one before. -/
def joiner : Char := '\u200d'

/-- What asks for a pictograph in place of the character before it. -/
def selector : Char := '\ufe0f'

/-- The columns that a selector adds behind a character. -/
def widening (before : Option Char) : Nat :=
  if before.any (inRanges widenedRanges) then 1 else 0

/-! ## The width of a text -/

/-- A text measured so far. -/
structure Measure where
  columns : Nat := 0
  /-- The character that a selector would be about. -/
  before : Option Char := none
  /-- The next character is joined to the one before. -/
  joining : Bool := false
  deriving DecidableEq, Repr

/-- One more character is measured. -/
def Measure.add (m : Measure) (c : Char) : Measure :=
  if m.joining then { m with joining := false }
  else if c = joiner then { m with joining := true }
  else if c = selector then
    { m with columns := m.columns + widening m.before, before := none }
  else if Text.columns c = 0 then m
  else { m with columns := m.columns + Text.columns c, before := some c }

/-- **The columns of a text.** -/
def width (cs : List Char) : Nat := (cs.foldl Measure.add {}).columns

/-- A text is measured from its front. -/
theorem width_append (cs ds : List Char) :
    width (cs ++ ds) = (ds.foldl Measure.add (cs.foldl Measure.add {})).columns := by
  rw [width, List.foldl_append]

/-- A character that changes nothing beside it adds its own columns. -/
theorem Measure.columns_add {m : Measure} {c : Char} (hm : m.joining = false) (hj : c ≠ joiner)
    (hs : c ≠ selector) : (m.add c).columns = m.columns + Text.columns c ∧
      (m.add c).joining = false := by
  unfold Measure.add
  by_cases h0 : Text.columns c = 0 <;> simp [hm, hj, hs, h0]

/-- **Where nothing joins and nothing selects, the width is the sum** of the columns of the
characters. -/
theorem width_eq_sum {cs : List Char} (h : ∀ c ∈ cs, c ≠ joiner ∧ c ≠ selector) :
    width cs = cs.foldr (fun c n => columns c + n) 0 := by
  have step : ∀ (cs : List Char) (m : Measure), m.joining = false →
      (∀ c ∈ cs, c ≠ joiner ∧ c ≠ selector) →
      (cs.foldl Measure.add m).columns = m.columns + cs.foldr (fun c n => columns c + n) 0 := by
    intro cs
    induction cs with
    | nil => intro m _ _; simp
    | cons c cs ih =>
      intro m hm hcs
      obtain ⟨hj, hs⟩ := hcs c List.mem_cons_self
      obtain ⟨hc, hn⟩ := Measure.columns_add hm hj hs
      rw [List.foldl_cons, ih _ hn fun d hd => hcs d (List.mem_cons_of_mem _ hd), hc,
        List.foldr_cons, Nat.add_assoc]
  have := step cs {} rfl h
  simpa [width] using this

/-! ## Cutting a text -/

/-- Characters that cannot be cut apart, and the columns they take together. -/
structure Cluster where
  chars : List Char
  columns : Nat
  deriving DecidableEq, Repr

/-- A text cut into clusters so far, the last one first. -/
structure Cutting where
  clusters : List Cluster := []
  before : Option Char := none
  joining : Bool := false

namespace Cutting

/-- A character that belongs to the last cluster and adds some columns to it. A text may begin with
such a character. -/
def attach (k : Cutting) (c : Char) (more : Nat) : Cutting :=
  match k.clusters with
  | last :: rest =>
    { k with clusters := ⟨last.chars ++ [c], last.columns + more⟩ :: rest }
  | [] => { k with clusters := [⟨[c], 0⟩] }

/-- One more character. -/
def add (k : Cutting) (c : Char) : Cutting :=
  if k.joining then { k.attach c 0 with joining := false }
  else if c = joiner then { k.attach c 0 with joining := !k.clusters.isEmpty }
  else if c = selector then
    let more := widening k.before
    { k.attach c more with before := if more = 0 then k.before else none }
  else if Text.columns c = 0 then k.attach c 0
  else { k with clusters := ⟨[c], Text.columns c⟩ :: k.clusters, before := some c }

end Cutting

/-- The clusters of a text. -/
def clusters (cs : List Char) : List Cluster := (cs.foldl Cutting.add {}).clusters.reverse

/-- The characters of a text that fill `room` columns from the left. A cluster that would stand
across the end gives way to a blank. -/
def filling (room : Nat) : List Cluster → List Char
  | [] => []
  | c :: rest =>
    if room = 0 then []
    else if c.columns ≤ room then c.chars ++ filling (room - c.columns) rest
    else [' ']

/-- **A text brought to a width:** filled up with blanks, or cut off. -/
def fit (room : Nat) (cs : List Char) : List Char :=
  if width cs ≤ room then cs ++ List.replicate (room - width cs) ' '
  else filling room (clusters cs)

/-- A text of the right width stays as it is. -/
theorem fit_eq_self (cs : List Char) : fit (width cs) cs = cs := by simp [fit]

/-- The clusters in lines of `room` columns, `line` being the one that is begun and `used` its
columns. -/
def chopFrom (room : Nat) (line : List Char) (used : Nat) : List Cluster → List (List Char)
  | [] => if used = 0 then [] else [line]
  | c :: rest =>
    if room < used + c.columns then line :: chopFrom room c.chars c.columns rest
    else chopFrom room (line ++ c.chars) (used + c.columns) rest

/-- **A text chopped into lines** of a width. -/
def chop (room : Nat) (cs : List Char) : List (List Char) := chopFrom room [] 0 (clusters cs)

end DocCoverage.Text
