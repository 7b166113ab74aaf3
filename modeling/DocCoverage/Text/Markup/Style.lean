/-
Styles and their names. A style is written as words: what it switches on, what it switches off
behind the word `not`, its color, its background behind the word `on`, and where it leads behind the
word `link`. Two names are one style if they say the same; a name that is no style stands only for
itself, upper and lower case being the same.
-/
import DocCoverage.Text.Markup.Color

set_option autoImplicit false

namespace DocCoverage.Text.Markup

/-- What a style can switch on and off, each with its short name. -/
def switches : List (String × Option String) :=
  [("bold", some "b"), ("dim", some "d"), ("italic", some "i"), ("underline", some "u"),
    ("blink", none), ("blink2", none), ("reverse", some "r"), ("conceal", some "c"),
    ("strike", some "s"), ("underline2", some "uu"), ("frame", none), ("encircle", none),
    ("overline", some "o")]

/-- The full name of what a word switches. -/
def switch? (word : String) : Option String :=
  (switches.find? fun s => s.1 == word || s.2 == some word).map Prod.fst

/-- A style. -/
structure Style where
  /-- What is switched, the last decision first. -/
  switched : List (String × Bool) := []
  color : Option String := none
  background : Option String := none
  link : Option String := none
  deriving DecidableEq, Repr

namespace Style

/-- **The name of a style,** always in the same order. -/
def name (s : Style) : String :=
  let words :=
    (switches.filterMap fun (full, _) =>
      (s.switched.lookup full).map fun on => if on then full else "not " ++ full) ++
    s.color.toList ++
    (s.background.map fun color => "on " ++ color).toList ++
    (s.link.map fun target => "link " ++ target).toList
  if words.isEmpty then "none" else " ".intercalate words

/-- A style with more words. There is no answer if they do not make one. -/
def ofWords? (s : Style) : List String → Except Fault (Option Style)
  | [] => .ok (some s)
  | word :: rest =>
    match lower word, rest with
    | "on", color :: rest => do
      if ← isColor (lower color) then ofWords? { s with background := some (lower color) } rest
      else return none
    | "not", word :: rest =>
      match switch? word with
      | some full => ofWords? { s with switched := (full, false) :: s.switched } rest
      | none => .ok none
    | "link", target :: rest => ofWords? { s with link := some target } rest
    | "on", [] | "not", [] | "link", [] => .ok none
    | word, rest =>
      match switch? word with
      | some full => ofWords? { s with switched := (full, true) :: s.switched } rest
      | none => do
        if ← isColor word then ofWords? { s with color := some word } rest else return none

end Style

/-- The words of a text. -/
def wordsOf : List Char → List (List Char)
  | [] => []
  | c :: rest =>
    if isBlank c then wordsOf rest
    else
      match rest, wordsOf rest with
      | d :: _, word :: others =>
        if isBlank d then [c] :: word :: others else (c :: word) :: others
      | _, others => [c] :: others

/-- The style that a text names, if it names one. -/
def style? (text : List Char) : Except Fault (Option Style) :=
  if stripBlanks text == "none".toList then .ok (some {})
  else ({} : Style).ofWords? ((wordsOf text).map String.ofList)

/-- **The one name of a style** that a text gives some name. -/
def oneName (text : List Char) : Except Fault String := do
  match ← style? text with
  | some s => return s.name
  | none => return lower (String.ofList (stripBlanks text))

end DocCoverage.Text.Markup
