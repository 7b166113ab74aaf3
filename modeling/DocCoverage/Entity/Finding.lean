/-
A finding: something that lacks its doc comment, with the file and the line to look at and a
sentence that names it.
-/
import DocCoverage.Entity.Kind
import DocCoverage.Text.LowerCase

set_option autoImplicit false

namespace DocCoverage

/-- One missing doc comment. -/
structure Finding where
  file : String
  line : Int
  message : String
  deriving DecidableEq, Repr

/-- A finding on one line. -/
def Finding.shown (f : Finding) : String :=
  f.file ++ ":" ++ toString f.line ++ ": " ++ f.message

/-- A member's name behind that of the class it belongs to. An empty class name counts as none. -/
def qualifiedName (name : String) (enclosing : Option String) : String :=
  match enclosing with
  | some owner => if owner.isEmpty then name else owner ++ "::" ++ name
  | none => name

/-- **The sentence for a missing doc comment.** -/
def missingMessage (kind : EntityKind) (name : String) (enclosing : Option String) : String :=
  match kind with
  | .file => "Missing file level doc-comment"
  | .declared .classConstant =>
    "Missing doc-comment for class level constant `" ++ qualifiedName name enclosing ++ "`"
  | .declared _ =>
    "Missing doc-comment for " ++ Text.lowerAscii kind.label ++ " `"
      ++ qualifiedName name enclosing ++ "`"

end DocCoverage
