/-
Pictographs written by name. A name between two colons, with no blank in it, stands for a
pictograph; behind a hyphen it may say whether that is to look like a picture or like text. A name
that nothing goes by stays as it is written, with both its colons.
-/
import DocCoverage.Text.Blank
import DocCoverage.Text.LowerCase
import DocCoverage.Text.PictographTable

set_option autoImplicit false

namespace DocCoverage.Text

/-- The names of an entry of the table, each with the pictograph. -/
def namesOfEntry (entry : String) : List (String × String) :=
  match entry.splitOn " " with
  | pictograph :: names => names.map fun name => (name, pictograph)
  | [] => []

/-- The pictographs by their names. -/
def pictographs : List (String × String) :=
  ((pictographTable.splitOn "\n").flatMap (·.splitOn "; ")).flatMap namesOfEntry

/-- How a pictograph may be asked to look: the end of its name, and what is put behind it. -/
def looks : List (List Char × Char) :=
  [("-emoji".toList, '\ufe0f'), ("-text".toList, '\ufe0e')]

/-- A name without what it says about the look, and what is put behind the pictograph. -/
def withoutLook (name : List Char) : List Char × List Char :=
  match looks.find? fun look => look.1.isSuffixOf name with
  | some (ending, mark) => (name.take (name.length - ending.length), [mark])
  | none => (name, [])

/-- What a name between colons stands for. -/
def pictograph? (name : List Char) : Option (List Char) :=
  let (name, mark) := withoutLook name
  (pictographs.lookup (lower (String.ofList name))).map fun found => found.toList ++ mark

/-- The name in front of the next colon and what follows that colon, for a text right behind a
colon. -/
def codeName? (cs : List Char) : Option (List Char × List Char) :=
  let name := cs.takeWhile fun c => c != ':' && !isBlank c
  match cs.drop name.length with
  | ':' :: rest => some (name, rest)
  | _ => none

/-- What follows the second colon is shorter than the text behind the first. -/
theorem length_of_codeName? {cs name rest : List Char} (h : codeName? cs = some (name, rest)) :
    rest.length < cs.length := by
  unfold codeName? at h
  simp only at h
  split at h
  · next hd =>
    have := congrArg List.length hd
    simp only [List.length_drop, List.length_cons] at this
    simp only [Option.some.injEq, Prod.mk.injEq] at h
    rw [← h.2]
    omega
  · simp at h

/-- **A text with its pictographs put in.** -/
def withPictographs : List Char → List Char
  | [] => []
  | c :: rest =>
    if c = ':' then
      match _h : codeName? rest with
      | some (name, after) =>
        (pictograph? name).getD (':' :: name ++ [':']) ++ withPictographs after
      | none => c :: withPictographs rest
    else c :: withPictographs rest
termination_by cs => cs.length
decreasing_by
  · have := length_of_codeName? _h
    simp only [List.length_cons]
    omega
  · simp
  · simp

/-- A text without a colon holds no pictograph to put in. -/
theorem withPictographs_eq_self {cs : List Char} (h : ':' ∉ cs) : withPictographs cs = cs := by
  induction cs with
  | nil => rw [withPictographs]
  | cons c cs ih =>
    rw [List.mem_cons, not_or] at h
    rw [withPictographs, if_neg (Ne.symm h.1), ih h.2]

end DocCoverage.Text
