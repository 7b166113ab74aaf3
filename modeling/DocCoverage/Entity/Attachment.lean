/-
Attachment: which doc comment documents a declaration. The comment has to stand right before the
declaration, with nothing between the two but white space and the modifiers that the kind of
declaration allows:

    class             [abstract ws] class Name
    interface         interface Name
    function          [static ws] [ws] [visibility] [ws] [static ws] function name
    class variable    [static ws] [ws] [visibility] [ws] [static ws] $name
    class constant    const NAME
    constant          define('NAME', ...)

Every way to read the modifiers is tried, and behind each of them white space is passed over, until
a doc comment is met.
-/
import DocCoverage.Entity.Kind
import DocCoverage.Pattern.Basic

set_option autoImplicit false

namespace DocCoverage

open TokenKind in
/-- The modifiers of a function, a method or a property. -/
def memberModifiers : Pattern :=
  .sequence [
    .optionalAll [.literal staticWord, .literal whitespace],
    .optional (.literal whitespace),
    .optional (.oneOf visibility),
    .optional (.literal whitespace),
    .optionalAll [.literal staticWord, .literal whitespace]]

/-- The modifiers a kind of declaration allows between its doc comment and its keyword or name. -/
def Declaration.modifiers : Declaration → Pattern
  | .classDecl => .optionalAll [.literal .abstractWord, .literal .whitespace]
  | .function => memberModifiers
  | .classVariable => memberModifiers
  | .interfaceDecl | .classConstant | .constant => .sequence []

/-- The doc comment right before a position, white space apart. -/
def docBefore? (stream : TokenStream) (position : Int) : Option Int :=
  let edge := stream.skipBlankBackward position
  if stream.kind? (edge - 1) = some .docComment then some (edge - 1) else none

/-- **The doc comment of a declaration** whose keyword or name is the token at `anchor`. -/
def docComment? (declaration : Declaration) (stream : TokenStream) (anchor : Int) : Option Int :=
  (declaration.modifiers.reach stream anchor).positions.findSome? (docBefore? stream)

/-- Where the doc comment of a file is, or should have been. -/
structure FileComment where
  /-- The first position after the opening of the file. -/
  start : Nat
  doc : Option Int
  /-- The line to report if there is no comment. -/
  line : Int
  deriving DecidableEq

/-- **The doc comment of a file:** the first token after leading text and the open tag, each of them
only where it stands. -/
def fileComment (stream : TokenStream) : FileComment :=
  let pass := fun (here : Nat × Int) (kind : TokenKind) =>
    match stream.at? here.1 with
    | some t => if t.kind = kind then (here.1 + 1, (t.line : Int)) else here
    | none => here
  let (start, line) := pass (pass (0, 1) .inlineHtml) .openTag
  { start, line, doc := if stream.kind? start = some .docComment then some start else none }

end DocCoverage
