/-
Questions about a path. The operating system answers what is there, or that there is nothing, or it
refuses an answer for a reason of its own. Nothing at the path is an answer too: a refusal never
says that the path does not exist, nor that its text is no path at all.

Whether there is a directory, a file or a link at a path is read off what is there, so these
questions are answered or refused together.
-/
import DocCoverage.Failure.Basic

set_option autoImplicit false

namespace DocCoverage

namespace FileSystem

variable {fs : FileSystem} {aim : Aim} {path : Path}

/-- There is something at a path, possibly behind links. -/
def Holds (fs : FileSystem) (path : Path) : Prop :=
  ∃ node, fs.probe .target path = .ok (some node)

/-- The operating system refuses to tell what is at a path. -/
def Refuses (fs : FileSystem) (path : Path) (e : FileError) : Prop :=
  ∃ aim, fs.probe aim path = .error e

/-! ## Answers -/

/-- What a path leads to is what is there. -/
theorem probe_of_find {location : List String} {node : Node}
    (h : fs.find aim path = .ok (location, node)) : fs.probe aim path = .ok (some node) := by
  unfold probe
  rw [h]

/-- A question that is answered is answered from what is there. -/
theorem probe_of_map_eq_ok {β : Type} {answer : Option Node → β} {b : β}
    (h : (fs.probe aim path).map answer = .ok b) :
    ∃ there, fs.probe aim path = .ok there ∧ answer there = b := by
  cases hprobe : fs.probe aim path with
  | ok there =>
    rw [hprobe] at h
    exact ⟨there, rfl, Except.ok.inj h⟩
  | error e =>
    rw [hprobe] at h
    cases h

/-- Where there is a file, there is something. -/
theorem holds_of_isFile (h : fs.isFile? path = .ok true) : fs.Holds path := by
  obtain ⟨there, hprobe, hanswer⟩ := probe_of_map_eq_ok h
  cases there with
  | none => cases hanswer
  | some node => exact ⟨node, hprobe⟩

/-- Where there is a directory, there is something. -/
theorem holds_of_isDirectory (h : fs.isDirectory? path = .ok true) : fs.Holds path := by
  obtain ⟨there, hprobe, hanswer⟩ := probe_of_map_eq_ok h
  cases there with
  | none => cases hanswer
  | some node => exact ⟨node, hprobe⟩

/-- Where there is a file, there is no directory. -/
theorem isDirectory_of_isFile (h : fs.isFile? path = .ok true) :
    fs.isDirectory? path = .ok false := by
  obtain ⟨there, hprobe, hanswer⟩ := probe_of_map_eq_ok h
  unfold isDirectory?
  rw [hprobe]
  cases there with
  | none => cases hanswer
  | some node =>
    cases node with
    | file bytes locked => rfl
    | directory entries locked => cases hanswer
    | link target => cases hanswer

/-- Whether there is a file is told wherever it is told whether there is a directory. -/
theorem exists_isFile_of_isDirectory {answer : Bool} (h : fs.isDirectory? path = .ok answer) :
    ∃ file, fs.isFile? path = .ok file := by
  obtain ⟨there, hprobe, -⟩ := probe_of_map_eq_ok h
  unfold isFile?
  rw [hprobe]
  exact ⟨_, rfl⟩

/-- To exist is to hold something. -/
theorem exists_eq_true_iff : fs.exists? path = .ok true ↔ fs.Holds path := by
  constructor
  · intro h
    obtain ⟨there, hprobe, hanswer⟩ := probe_of_map_eq_ok h
    obtain ⟨node, rfl⟩ := Option.isSome_iff_exists.1 hanswer
    exact ⟨node, hprobe⟩
  · rintro ⟨node, hprobe⟩
    unfold exists?
    rw [hprobe]
    rfl

/-- The text of a path at which there is something is a path. -/
theorem ne_zeroInPath_of_find {e : FileError} (hholds : fs.Holds path)
    (h : fs.find .target path = .error e) : e ≠ .zeroInPath := by
  obtain ⟨node, hnode⟩ := hholds
  rintro rfl
  unfold probe at hnode
  rw [h] at hnode
  cases hnode

/-- A file that exists is not refused for its name. -/
theorem ne_zeroInPath_of_read {e : FileError} (hholds : fs.Holds path)
    (h : fs.read path = .error e) : e ≠ .zeroInPath := by
  unfold read at h
  cases hfind : fs.find .target path with
  | error e' =>
    rw [hfind] at h
    obtain rfl := Except.error.inj h
    exact ne_zeroInPath_of_find hholds hfind
  | ok found =>
    obtain ⟨location, node⟩ := found
    rw [hfind] at h
    rintro rfl
    cases node with
    | file bytes locked => cases locked <;> cases h
    | directory entries locked => cases locked <;> cases h
    | link target => cases h

/-- A directory that exists is not refused for its name. -/
theorem ne_zeroInPath_of_list {e : FileError} (hholds : fs.Holds path)
    (h : fs.list path = .error e) : e ≠ .zeroInPath := by
  unfold list at h
  cases hfind : fs.find .target path with
  | error e' =>
    rw [hfind] at h
    obtain rfl := Except.error.inj h
    exact ne_zeroInPath_of_find hholds hfind
  | ok found =>
    obtain ⟨location, node⟩ := found
    rw [hfind] at h
    rintro rfl
    cases node with
    | directory entries locked => cases locked <;> cases h
    | file bytes locked => cases h
    | link target => cases h

/-! ## Refusals -/

/-- A refusal does not mean that there is nothing. -/
theorem meansAbsent_of_probe {e : FileError} (h : fs.probe aim path = .error e) :
    e.meansAbsent = false := by
  unfold probe at h
  cases hfind : fs.find aim path with
  | ok found =>
    rw [hfind] at h
    cases h
  | error e' =>
    rw [hfind] at h
    dsimp only at h
    by_cases habsent : e'.meansAbsent = true
    · rw [if_pos habsent] at h
      cases h
    · rw [if_neg habsent] at h
      obtain rfl := Except.error.inj h
      exact Bool.eq_false_iff.2 habsent

/-- **A question breaks a computation off only if the operating system refuses the answer.** -/
theorem refuses_of_lift {β : Type} {answer : Option Node → β} {f : Failure}
    (h : FileError.lift ((fs.probe aim path).map answer) = .error f) :
    ∃ e, f = .file e ∧ fs.Refuses path e := by
  cases hprobe : fs.probe aim path with
  | ok there =>
    rw [hprobe] at h
    cases h
  | error e =>
    have habsent := meansAbsent_of_probe hprobe
    rw [hprobe] at h
    refine ⟨e, ?_, aim, hprobe⟩
    -- a text that is no path would break off as such, but then nothing is refused
    cases e with
    | zeroInPath => cases habsent
    | notFound | denied | alreadyThere | notDirectory | isDirectory | nameTooLong
      | tooManyLinks => exact (Except.error.inj h).symm

end FileSystem

/-- An answer that is passed on was given. -/
theorem FileError.eq_ok_of_lift {α : Type} {answer : Except FileError α} {a : α}
    (h : FileError.lift answer = .ok a) : answer = .ok a := by
  cases answer with
  | ok b => exact congrArg Except.ok (Except.ok.inj h)
  | error e => cases e <;> cases h

/-- What the operating system refuses is a problem with the file, unless its name cannot be told. -/
theorem refused_eq_fileAccess {path : Path} {e : FileError} (h : e ≠ .zeroInPath) :
    refused path e = .problem (.fileAccess path ("OS error: " ++ e.shown path.shown)) := by
  cases e with
  | zeroInPath => exact absurd rfl h
  | notFound | denied | alreadyThere | notDirectory | isDirectory | nameTooLong
    | tooManyLinks => rfl

end DocCoverage
