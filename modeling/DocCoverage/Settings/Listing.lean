/-
The listing of the report flags, which shows what a run with the settings would report.
-/
import DocCoverage.Settings.Basic

set_option autoImplicit false

namespace DocCoverage

/-- What stands for a kind in the listing. -/
def EntityKind.heading : EntityKind → String
  | .file => "File Comments"
  | .declared .classDecl => "Class Comments"
  | .declared .interfaceDecl => "Interface Comments"
  | .declared .function => "Function Comments"
  | .declared .classVariable => "Class Variable Comments"
  | .declared .classConstant => "Class Constant Comments"
  | .declared .constant => "Constant Comments"

/-- One line of the listing. -/
def listedFlag (item : EntityKind × Bool) : String :=
  "\t" ++ item.1.heading ++ ": " ++ if item.2 then "TRUE" else "FALSE"

/-- **The listing of the report flags,** in their order. -/
def Settings.listing (s : Settings) : String :=
  "\n".intercalate ("Config" :: s.reportItems.map listedFlag)

end DocCoverage
