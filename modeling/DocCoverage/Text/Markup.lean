/-
Styles written into a text. A word in square brackets that begins with a letter, `#` or `@` begins a
style; with a slash it ends the style of that name, or the last one begun if no name follows. A
backslash before the bracket takes this meaning away. On a screen without styles only the text
between them is seen, with its pictographs put in, but a style that ends without having begun is
still an error.
-/
import DocCoverage.Text.Markup.Action
import DocCoverage.Text.Markup.Style
import DocCoverage.Text.Pictograph

set_option autoImplicit false

namespace DocCoverage.Text.Markup

/-! ## Brackets -/

/-- A character that may follow the bracket of a style. -/
def beginsStyle (c : Char) : Bool :=
  ('a' ≤ c && c ≤ 'z') || c == '#' || c == '/' || c == '@'

/-- The inside of a style and what follows it, for a text right behind an opening bracket. -/
def bracketed? (cs : List Char) : Option (List Char × List Char) :=
  let inner := cs.takeWhile fun c => c != '[' && c != ']'
  match inner, cs.drop inner.length with
  | c :: _, ']' :: rest => if beginsStyle c then some (inner, rest) else none
  | _, _ => none

/-- What follows a style is shorter than the text behind its bracket. -/
theorem length_of_bracketed? {cs inner rest : List Char} (h : bracketed? cs = some (inner, rest)) :
    rest.length < cs.length := by
  unfold bracketed? at h
  simp only at h
  split at h
  · next heq hd =>
    split at h
    · have := congrArg List.length hd
      simp only [List.length_drop, List.length_cons] at this
      simp only [Option.some.injEq, Prod.mk.injEq] at h
      rw [← h.2]
      omega
    · simp at h
  · simp at h

/-! ## Parts -/

/-- A part of a text with styles. -/
inductive Part where
  | plain (text : List Char)
  | style (inner : List Char)
  deriving DecidableEq, Repr

/-- A text as a part, if there is any of it. -/
def plainPart (text : List Char) : List Part := if text.isEmpty then [] else [.plain text]

/-- The parts of a text, `before` being what was read since the last style, the last character
first, and `slashes` the backslashes behind it. -/
def partsFrom (before : List Char) (slashes : Nat) : List Char → List Part
  | [] => plainPart (List.replicate slashes '\\' ++ before).reverse
  | '\\' :: rest => partsFrom before (slashes + 1) rest
  | '[' :: rest =>
    match _h : bracketed? rest with
    | some (inner, after) =>
      plainPart before.reverse ++ plainPart (List.replicate (slashes / 2) '\\') ++
        (if slashes % 2 = 0 then .style inner else .plain ('[' :: inner ++ [']'])) ::
          partsFrom [] 0 after
    | none => partsFrom ('[' :: List.replicate slashes '\\' ++ before) 0 rest
  | c :: rest => partsFrom (c :: List.replicate slashes '\\' ++ before) 0 rest
termination_by cs => cs.length
decreasing_by
  all_goals simp_wf
  all_goals
    have := length_of_bracketed? _h
    omega

/-- **The parts of a text.** Before a style each pair of backslashes stands for one, and one that is
left over makes the style plain. -/
def parts (cs : List Char) : List Part := partsFrom [] 0 cs

/-- A text without the backslashes that stand right before a bracket. -/
def withoutSlashes : List Char → List Char
  | '\\' :: '[' :: rest => '[' :: withoutSlashes rest
  | c :: rest => c :: withoutSlashes rest
  | [] => []

/-! ## What is seen -/

/-- A style that has begun. -/
structure Begun where
  name : String
  /-- What stands behind an equals sign. -/
  given : Option (List Char)

namespace Begun

/-- The style that a bracket begins. -/
def ofInner (inner : List Char) : Except Fault Begun := do
  let name := inner.takeWhile (· != '=')
  let given :=
    match inner.drop name.length with
    | _ :: given => some given
    | [] => none
  return { name := ← oneName name, given }

/-- A style ends. What an action is given is looked at only now. -/
def finish (b : Begun) : Except Fault Unit :=
  if b.name.startsWith "@" && !b.given.all isAction then .error .action else .ok ()

/-- The style as a text of its own. Only what is given can still be at fault. -/
def reread (b : Begun) : Except Fault Unit :=
  match b.given with
  | none => .ok ()
  | some given => (style? (b.name.toList ++ ' ' :: given)).map fun _ => ()

end Begun

/-- The text between the styles and all styles that it has, `begun` being those not yet ended, the
last one first. -/
def between (begun : List Begun) : List Part → Except Fault (List Char × List Begun)
  | [] => .ok ([], [])
  | .plain text :: rest => do
    let (shown, styles) ← between begun rest
    return (withPictographs (withoutSlashes text) ++ shown, styles)
  | .style inner :: rest =>
    match inner with
    | '/' :: _ => do
      let name := stripBlanks ((inner.takeWhile (· != '=')).drop 1)
      let ended ←
        if name.isEmpty then pure (begun.head?.map fun b => (b, begun.drop 1))
        else do
          let name ← oneName name
          pure ((begun.find? (·.name == name)).map fun b => (b, begun.eraseP (·.name == name)))
      match ended with
      | none => .error .unopened
      | some (b, begun) =>
        b.finish
        between begun rest
    | inner => do
      let b ← Begun.ofInner inner
      let (shown, styles) ← between (b :: begun) rest
      return (shown, b :: styles)

/-- **What is seen of a text with styles,** unless one of them is at fault. -/
def shown? (cs : List Char) : Except Fault (List Char) := do
  let (shown, styles) ← between [] (parts cs)
  styles.forM Begun.reread
  return shown

/-! ## Escaping -/

/-- A text with every style in it made plain, up to its last character. -/
def escapeStyles (slashes : Nat) : List Char → List Char
  | [] => List.replicate slashes '\\'
  | '\\' :: rest => escapeStyles (slashes + 1) rest
  | '[' :: rest =>
    match _h : bracketed? rest with
    | some (inner, after) =>
      List.replicate (2 * slashes + 1) '\\' ++ ('[' :: inner ++ [']']) ++ escapeStyles 0 after
    | none => List.replicate slashes '\\' ++ '[' :: escapeStyles 0 rest
  | c :: rest => List.replicate slashes '\\' ++ c :: escapeStyles 0 rest
termination_by cs => cs.length
decreasing_by
  all_goals simp_wf
  all_goals
    have := length_of_bracketed? _h
    omega

/-- **A text in which nothing is meant as a style.** A single backslash at the end is doubled, so
that it cannot reach into what is written behind it. -/
def escape (cs : List Char) : List Char :=
  let escaped := escapeStyles 0 cs
  match escaped.reverse with
  | '\\' :: '\\' :: _ => escaped
  | '\\' :: _ => escaped ++ ['\\']
  | _ => escaped

end DocCoverage.Text.Markup
