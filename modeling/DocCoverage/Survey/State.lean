/-
The state of a survey, which goes through the tokens of one file once and looks at every
declaration.

Nesting is kept in two ways that are updated by the same braces. The open class and interface bodies
form a stack, each with its own brace depth; and one counter says how deep the innermost function
body is nested, so that parameters and local variables are not taken for properties.
-/
import DocCoverage.Entity.Kind

set_option autoImplicit false

namespace DocCoverage

/-- A class or interface that was begun and not yet closed. -/
structure Context where
  kind : EntityKind
  name : String
  line : Int
  /-- Unmatched opening braces since the declaration; zero until the body opens. -/
  depth : Int := 0
  deriving DecidableEq, Repr

/-- Where a survey stands. -/
structure SurveyState where
  /-- The position of the next token to look at. -/
  cursor : Int := 0
  /-- Open classes and interfaces, innermost first. -/
  contexts : List Context := []
  /-- Below zero outside every function, zero between a function's keyword and its body, and the
  number of open braces inside a body. -/
  functionNesting : Int := -1
  /-- The doc comment seen last or claimed last by a declaration, or `-1`. -/
  lastDocComment : Int := -1
  /-- The leading doc comment while it is held for the file itself, or `-1`. -/
  fileDocComment : Int := -1
  deriving DecidableEq, Repr

namespace SurveyState

/-- The innermost open class or interface. -/
def context? (s : SurveyState) : Option Context := s.contexts.head?

/-- The name of the innermost open class or interface. -/
def enclosing? (s : SurveyState) : Option String := s.context?.map Context.name

/-- Inside the braces of a function. -/
def inFunctionBody (s : SurveyState) : Bool := 0 < s.functionNesting

/-- The state with the cursor at another token. -/
def moveTo (s : SurveyState) (cursor : Int) : SurveyState := { s with cursor }

/-- The state with the cursor at the next token. -/
def advance (s : SurveyState) : SurveyState := s.moveTo (s.cursor + 1)

/-- The state once a declaration has claimed a doc comment, if it found one. -/
def claim (s : SurveyState) (doc : Option Int) : SurveyState :=
  match doc with
  | some index => { s with lastDocComment := index }
  | none => s

/-- A class or interface is begun. It takes the place of one whose body never opened. -/
def enter (s : SurveyState) (context : Context) : SurveyState :=
  match s.contexts with
  | top :: outer =>
    { s with contexts := if top.depth = 0 then context :: outer else context :: top :: outer }
  | [] => { s with contexts := [context] }

/-- The class or interface whose body never opened and which `enter` would replace. -/
def replaced? (s : SurveyState) : Option Context :=
  s.context?.filter (·.depth = 0)

/-- An opening brace: the innermost body and a function body grow deeper. -/
def openBrace (s : SurveyState) : SurveyState :=
  { s with
    contexts := match s.contexts with
      | top :: outer => { top with depth := top.depth + 1 } :: outer
      | [] => []
    functionNesting :=
      if 0 ≤ s.functionNesting then s.functionNesting + 1 else s.functionNesting }

/-- A closing brace: the innermost body is left or grows less deep, and so does a function body;
leaving the outermost one leaves every function. -/
def closeBrace (s : SurveyState) : SurveyState :=
  { s with
    contexts := match s.contexts with
      | top :: outer =>
        if top.depth ≤ 1 then outer else { top with depth := top.depth - 1 } :: outer
      | [] => []
    functionNesting := if 1 < s.functionNesting then s.functionNesting - 1 else -1 }

end SurveyState

end DocCoverage
