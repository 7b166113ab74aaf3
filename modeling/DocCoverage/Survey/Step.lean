/-
One step of a survey: the token under the cursor is looked at, and the state moves on by at least
one token. A step depends on the tokens and on whether calls of `define` are looked at, and on
nothing else.
-/
import DocCoverage.Survey.Event

set_option autoImplicit false

namespace DocCoverage

/-- The name of a class without one. -/
def anonymousClass : String := "class@anonymous"

/-- The name of a function without one. -/
def closure : String := "\x7bclosure\x7d"

/-! ## Looking ahead -/

/-- **Where a function's body begins:** the first opening brace or semicolon at or after `index`
outside parentheses, or the end of the file. Parameters are passed over this way. -/
def bodyFrom (stream : TokenStream) (depth : Nat) (index : Int) : Int :=
  if index < stream.size then
    match stream.kind? index with
    | some .openParen => bodyFrom stream (depth + 1) (index + 1)
    | some .closeParen => bodyFrom stream (depth - 1) (index + 1)
    | some .openBrace => if depth = 0 then index else bodyFrom stream depth (index + 1)
    | some .semicolon => if depth = 0 then index else bodyFrom stream depth (index + 1)
    | _ => bodyFrom stream depth (index + 1)
  else index
termination_by (stream.size - index).toNat
decreasing_by all_goals omega

/-- **The name of a class constant:** the last identifier of the run of identifiers and white space
at `index`, since a type stands before the name; `found` is the last one so far. -/
def constantNameFrom (stream : TokenStream) (found : Option Token) (index : Int) : Option Token :=
  match _h : stream.at? index with
  | some token =>
    match token.kind with
    | .identifier => constantNameFrom stream (some token) (index + 1)
    | .whitespace => constantNameFrom stream found (index + 1)
    | _ => found
  | none => found
termination_by (stream.size - index).toNat
decreasing_by all_goals have := TokenStream.bounds_of_at? _h; omega

/-- The function keyword at `cursor` imports a function, as in `use function name;`. -/
def isFunctionImport (stream : TokenStream) (cursor : Int) : Bool :=
  (stream.at? (stream.skipBlankBackward cursor - 1)).any (·.isWord "use")

/-- The token that may be a function's name: the next one that is no white space, or the one behind
it if that is an ampersand. -/
def functionNameToken? (stream : TokenStream) (cursor : Int) : Option Token :=
  let index := stream.skipBlankForward cursor
  match stream.at? index with
  | some token =>
    if token.kind = .operator ∧ token.text = "&" then stream.at? (stream.skipBlankForward index)
    else some token
  | none => none

/-- The name in a call of `define`: its first argument, without the quotes if it is a text. -/
def definedName (argument : Option Token) : String :=
  match argument with
  | some token =>
    if token.kind = .string then
      let isQuote := fun c : Char => c == '\'' || c == '"'
      let cs := token.text.toList.dropWhile isQuote
      String.ofList (cs.reverse.dropWhile isQuote).reverse
    else token.text
  | none => ""

/-! ## Declarations -/

/-- A state with what was noticed on the way to it. -/
abbrev Stepped := SurveyState × List Event

/-- A class or interface keyword. Without a name behind it the class is anonymous. -/
def stepContext (stream : TokenStream) (state : SurveyState) (declaration : Declaration)
    (token : Token) : Stepped :=
  let index := stream.skipBlankForward state.cursor
  let (name, line, next) : String × Int × Int :=
    match stream.at? index with
    | some found =>
      if found.kind = .identifier then (found.text, found.line, index)
      else (anonymousClass, token.line, state.cursor + 1)
    | none => (anonymousClass, token.line, state.cursor + 1)
  let check := Check.run stream declaration state.cursor name line none
  let context : Context := { kind := .declared declaration, name, line }
  let replaced := if state.replaced?.isSome then [Event.replaced context] else []
  (((state.enter context).moveTo next).claim check.doc, .check check :: replaced)

/-- A function keyword. The cursor goes on to the body, past the parameters. A function inside the
body of another one keeps the count of that one; one without a body leaves all functions. -/
def stepFunction (stream : TokenStream) (state : SurveyState) (token : Token) : Stepped :=
  if isFunctionImport stream state.cursor then (state.advance, [])
  else
    let (name, line) : String × Int :=
      match functionNameToken? stream state.cursor with
      | some found =>
        if found.kind = .identifier then (found.text, found.line) else (closure, token.line)
      | none => (closure, token.line)
    let check := Check.run stream .function state.cursor name line state.enclosing?
    let nesting := if 0 < state.functionNesting then state.functionNesting else 0
    let body := bodyFrom stream 0 (state.cursor + 1)
    let bodiless := stream.kind? body = some .semicolon ∧ nesting = 0
    let inside := { state with functionNesting := if bodiless then -1 else nesting }
    ((inside.moveTo body).claim check.doc, [.check check])

/-- A variable. Inside a class or interface and outside function bodies it is a property. -/
def stepVariable (stream : TokenStream) (state : SurveyState) (token : Token) : Stepped :=
  if !state.contexts.isEmpty && state.functionNesting ≤ 0 then
    let check :=
      Check.run stream .classVariable state.cursor token.text token.line state.enclosing?
    (state.advance.claim check.doc, [.check check])
  else (state.advance, [])

/-- A constant keyword. Inside a class or interface it declares a constant. -/
def stepConst (stream : TokenStream) (state : SurveyState) (token : Token) : Stepped :=
  if state.contexts.isEmpty then (state.advance, [])
  else
    let name := constantNameFrom stream none (state.cursor + 1)
    let check := Check.run stream .classConstant state.cursor (name.elim "" (·.text))
      (name.elim token.line (·.line)) state.enclosing?
    (state.advance.claim check.doc, [.check check])

/-- An identifier. Where calls of `define` are looked at, one outside classes and functions declares
a constant. -/
def stepIdentifier (stream : TokenStream) (defines : Bool) (state : SurveyState) (token : Token) :
    Stepped :=
  if defines && token.isWord "define" && state.contexts.isEmpty && !state.inFunctionBody then
    let paren := stream.skipBlankForward state.cursor
    if stream.kind? paren = some .openParen then
      let name := definedName (stream.at? (stream.skipBlankForward paren))
      let check := Check.run stream .constant state.cursor name token.line none
      (state.advance.claim check.doc, [.check check])
    else (state.advance, [])
  else (state.advance, [])

/-- **One step of a survey.** -/
def step (stream : TokenStream) (defines : Bool) (state : SurveyState) : Stepped :=
  match stream.at? state.cursor with
  | none => (state.advance, [])
  | some token =>
    match token.kind with
    | .classWord => stepContext stream state .classDecl token
    | .interfaceWord => stepContext stream state .interfaceDecl token
    | .functionWord => stepFunction stream state token
    | .variableName => stepVariable stream state token
    | .constWord => stepConst stream state token
    | .identifier => stepIdentifier stream defines state token
    | .docComment => ({ state.advance with lastDocComment := state.cursor }, [])
    | .openBrace => (state.openBrace.advance, [])
    | .closeBrace => (state.closeBrace.advance, [])
    | _ => (state.advance, [])

end DocCoverage
