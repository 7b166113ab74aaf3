/-
Counts of a run: for each kind how many entities were documented and how many were not, and how many
files and directories were gone through. Counting does not depend on what is reported.
-/
import DocCoverage.Entity.Kind

set_option autoImplicit false

namespace DocCoverage

/-- How many entities of a kind have their doc comment and how many lack it. -/
structure Tally where
  found : Int := 0
  missing : Int := 0
  deriving DecidableEq, Repr

/-- How many entities were looked at. -/
def Tally.total (t : Tally) : Int := t.found + t.missing

/-- Two tallies together. -/
def Tally.plus (s t : Tally) : Tally := ⟨s.found + t.found, s.missing + t.missing⟩

/-- A tally for every kind. -/
structure Tallies where
  file : Tally := {}
  classDecl : Tally := {}
  interfaceDecl : Tally := {}
  function : Tally := {}
  classVariable : Tally := {}
  classConstant : Tally := {}
  constant : Tally := {}
  deriving DecidableEq, Repr

namespace Tallies

/-- The tally of a kind. -/
def get (ts : Tallies) : EntityKind → Tally
  | .file => ts.file
  | .declared .classDecl => ts.classDecl
  | .declared .interfaceDecl => ts.interfaceDecl
  | .declared .function => ts.function
  | .declared .classVariable => ts.classVariable
  | .declared .classConstant => ts.classConstant
  | .declared .constant => ts.constant

/-- The tallies with that of one kind replaced. -/
def set (ts : Tallies) (t : Tally) : EntityKind → Tallies
  | .file => { ts with file := t }
  | .declared .classDecl => { ts with classDecl := t }
  | .declared .interfaceDecl => { ts with interfaceDecl := t }
  | .declared .function => { ts with function := t }
  | .declared .classVariable => { ts with classVariable := t }
  | .declared .classConstant => { ts with classConstant := t }
  | .declared .constant => { ts with constant := t }

/-- The tallies of two parts together. -/
def plus (ss ts : Tallies) : Tallies :=
  { file := ss.file.plus ts.file
    classDecl := ss.classDecl.plus ts.classDecl
    interfaceDecl := ss.interfaceDecl.plus ts.interfaceDecl
    function := ss.function.plus ts.function
    classVariable := ss.classVariable.plus ts.classVariable
    classConstant := ss.classConstant.plus ts.classConstant
    constant := ss.constant.plus ts.constant }

/-- Replacing one tally leaves the others. -/
theorem get_set (ts : Tallies) (t : Tally) (kind other : EntityKind) :
    (ts.set t kind).get other = if other = kind then t else ts.get other := by
  rcases kind with _ | k
  · rcases other with _ | o
    · rfl
    · cases o <;> rfl
  · rcases other with _ | o
    · cases k <;> rfl
    · cases k <;> cases o <;> rfl

/-- Two parts are put together kind by kind. -/
theorem get_plus (ss ts : Tallies) (kind : EntityKind) :
    (ss.plus ts).get kind = (ss.get kind).plus (ts.get kind) := by
  rcases kind with _ | k
  · rfl
  · cases k <;> rfl

/-- Tallies are the same if they are for every kind. -/
theorem eq_of_get {ss ts : Tallies} (h : ∀ kind, ss.get kind = ts.get kind) : ss = ts := by
  rcases ss with ⟨⟩
  rcases ts with ⟨⟩
  simp only [mk.injEq]
  exact ⟨h .file, h (.declared .classDecl), h (.declared .interfaceDecl), h (.declared .function),
    h (.declared .classVariable), h (.declared .classConstant), h (.declared .constant)⟩

end Tallies

/-- The counts of a run. -/
structure Counters where
  tallies : Tallies := {}
  files : Int := 0
  directories : Int := 0
  deriving DecidableEq, Repr

namespace Counters

/-- The tally of a kind. -/
def tally (c : Counters) (kind : EntityKind) : Tally := c.tallies.get kind

/-- One more documented entity. -/
def addFound (c : Counters) (kind : EntityKind) : Counters :=
  let t := c.tally kind
  { c with tallies := c.tallies.set { t with found := t.found + 1 } kind }

/-- One more entity without its doc comment. -/
def addMissing (c : Counters) (kind : EntityKind) : Counters :=
  let t := c.tally kind
  { c with tallies := c.tallies.set { t with missing := t.missing + 1 } kind }

/-- More files gone through. -/
def addFiles (c : Counters) (n : Int) : Counters := { c with files := c.files + n }

/-- More directories gone through. -/
def addDirectories (c : Counters) (n : Int) : Counters :=
  { c with directories := c.directories + n }

/-- The counts of two parts together. -/
def plus (c d : Counters) : Counters :=
  { tallies := c.tallies.plus d.tallies
    files := c.files + d.files
    directories := c.directories + d.directories }

/-- All documented entities. -/
def totalFound (c : Counters) : Int :=
  EntityKind.all.foldr (fun k n => (c.tally k).found + n) 0

/-- All entities without their doc comment. -/
def totalMissing (c : Counters) : Int :=
  EntityKind.all.foldr (fun k n => (c.tally k).missing + n) 0

/-- Finding an entity raises its own tally and no other. -/
theorem tally_addFound (c : Counters) (kind other : EntityKind) :
    (c.addFound kind).tally other
      = if other = kind then ⟨(c.tally kind).found + 1, (c.tally kind).missing⟩
        else c.tally other := by
  unfold addFound tally
  rw [Tallies.get_set]

/-- Missing an entity raises its own tally and no other. -/
theorem tally_addMissing (c : Counters) (kind other : EntityKind) :
    (c.addMissing kind).tally other
      = if other = kind then ⟨(c.tally kind).found, (c.tally kind).missing + 1⟩
        else c.tally other := by
  unfold addMissing tally
  rw [Tallies.get_set]

/-- The tally of two parts together. -/
@[simp] theorem tally_plus (c d : Counters) (kind : EntityKind) :
    (c.plus d).tally kind = (c.tally kind).plus (d.tally kind) :=
  Tallies.get_plus c.tallies d.tallies kind

/-- Counts are the same if their tallies, files and directories are. -/
theorem eq_of_tally {c d : Counters} (htally : ∀ kind, c.tally kind = d.tally kind)
    (hfiles : c.files = d.files) (hdirectories : c.directories = d.directories) : c = d := by
  have htallies : c.tallies = d.tallies := Tallies.eq_of_get htally
  rcases c with ⟨⟩
  rcases d with ⟨⟩
  simp only [mk.injEq]
  exact ⟨htallies, hfiles, hdirectories⟩

/-- An entity found in the second part is found in the whole. -/
theorem addFound_plus (c d : Counters) (kind : EntityKind) :
    (c.plus d).addFound kind = c.plus (d.addFound kind) := by
  refine eq_of_tally (fun other => ?_) rfl rfl
  rw [tally_addFound, tally_plus, tally_plus, tally_plus, tally_addFound]
  by_cases hkind : other = kind
  · subst hkind
    simp only [if_true, Tally.plus, Int.add_assoc]
  · simp only [if_neg hkind]

/-- An entity missing in the second part is missing in the whole. -/
theorem addMissing_plus (c d : Counters) (kind : EntityKind) :
    (c.plus d).addMissing kind = c.plus (d.addMissing kind) := by
  refine eq_of_tally (fun other => ?_) rfl rfl
  rw [tally_addMissing, tally_plus, tally_plus, tally_plus, tally_addMissing]
  by_cases hkind : other = kind
  · subst hkind
    simp only [if_true, Tally.plus, Int.add_assoc]
  · simp only [if_neg hkind]

/-- Before anything is counted, every tally is zero. -/
theorem tally_empty (kind : EntityKind) : ({} : Counters).tally kind = ⟨0, 0⟩ := by
  rcases kind with _ | k
  · rfl
  · cases k <;> rfl

/-- A part in which nothing is counted adds nothing. -/
@[simp] theorem plus_empty (c : Counters) : c.plus {} = c := by
  refine eq_of_tally (fun kind => ?_) (Int.add_zero _) (Int.add_zero _)
  rw [tally_plus, tally_empty]
  simp only [Tally.plus, Int.add_zero]

end Counters

end DocCoverage
