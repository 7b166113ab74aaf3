/-
What can be documented: a file as a whole, and six kinds of declaration inside it. A declaration has
a place, the token its comment has to precede; a file has none.
-/

set_option autoImplicit false

namespace DocCoverage

/-- The kinds of declaration. -/
inductive Declaration where
  | classDecl
  | interfaceDecl
  | function
  | classVariable
  | classConstant
  /-- A constant made by a call of `define`. -/
  | constant
  deriving DecidableEq, Repr

/-- The kinds of thing that can be documented. -/
inductive EntityKind where
  | file
  | declared (declaration : Declaration)
  deriving DecidableEq, Repr

namespace EntityKind

/-- All kinds, in the order in which they are counted. -/
def all : List EntityKind :=
  [.file, .declared .classDecl, .declared .interfaceDecl, .declared .function,
    .declared .classVariable, .declared .classConstant, .declared .constant]

/-- No kind is missing from the list. -/
theorem mem_all (kind : EntityKind) : kind ∈ all := by
  rcases kind with _ | d
  · decide
  · cases d <;> decide

/-- The name used in settings and reports. -/
def key : EntityKind → String
  | .file => "file"
  | .declared .classDecl => "class"
  | .declared .interfaceDecl => "interface"
  | .declared .function => "function"
  | .declared .classVariable => "class_var"
  | .declared .classConstant => "class_const"
  | .declared .constant => "constant"

/-- The kind with a given name. -/
def ofKey? (key : String) : Option EntityKind :=
  all.find? (·.key == key)

/-- The name used in sentences. -/
def label : EntityKind → String
  | .file => "File"
  | .declared .classDecl => "Class"
  | .declared .interfaceDecl => "Interface"
  | .declared .function => "Function"
  | .declared .classVariable => "Class variable"
  | .declared .classConstant => "Class constant"
  | .declared .constant => "Constant"

/-- A kind is known by its name. -/
theorem ofKey?_key (kind : EntityKind) : ofKey? kind.key = some kind := by
  rcases kind with _ | d
  · decide
  · cases d <;> decide

end EntityKind

end DocCoverage
