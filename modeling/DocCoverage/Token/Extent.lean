/-
How far a token reaches. A token is begun by its first character; an *extent* says how many of the
characters after that one still belong to it, so no token is ever empty. Each class has its rule,
stated on the text that follows; nothing here looks back.

An unterminated comment or quoted text runs to the end of the file. There are two exceptions, both
exact: a quoted text that ends in a lone backslash is no quoted text, because the backslash has
nothing to escape, and a heredoc header without a closing label is no heredoc.
-/
import DocCoverage.Text.Blank
import DocCoverage.Text.Word

set_option autoImplicit false

namespace DocCoverage.Extent

open DocCoverage.Text

/-- The length of the longest run of characters in the class `p` that the text begins with. -/
def run (p : Char → Bool) (cs : List Char) : Nat :=
  (cs.takeWhile p).length

/-- `word` stands at the front, ASCII letters compared in lower case. -/
def startsWith (word : List Char) (cs : List Char) : Bool :=
  word.isPrefixOf (cs.map Char.toLower)

/-! ## Tags -/

/-- What may follow the name in an open tag: one blank or line end, which belongs to the tag, or the
end of the file. -/
def afterTagName : List Char → Option Nat
  | [] => some 0
  | '\r' :: '\n' :: _ => some 2
  | c :: _ => if c == ' ' || c == '\t' || c == '\r' || c == '\n' then some 1 else none

/-- **An open tag**, its `<` apart: `?=`, or `?php` in any case with what belongs to it. -/
def openTag : List Char → Option Nat
  | '?' :: '=' :: _ => some 2
  | '?' :: p :: h :: q :: rest =>
    if startsWith ['p', 'h', 'p'] [p, h, q] then (afterTagName rest).map (· + 4) else none
  | _ => none

/-- **Text outside a PHP region:** everything before the first place where an open tag begins. -/
def html : List Char → Nat
  | [] => 0
  | c :: rest => if c == '<' && (openTag rest).isSome then 0 else html rest + 1

/-- The line end that belongs to a close tag. -/
def lineEnd : List Char → Nat
  | '\r' :: '\n' :: _ => 2
  | '\n' :: _ => 1
  | _ => 0

/-! ## Comments -/

/-- Up to and with the first `*/`, or to the end. -/
def throughCommentEnd : List Char → Nat
  | [] => 0
  | '*' :: '/' :: _ => 2
  | _ :: rest => throughCommentEnd rest + 1

/-- **A comment to the end of the line:** up to the line end or the close tag, neither included. -/
def lineComment : List Char → Nat
  | [] => 0
  | '\r' :: _ => 0
  | '\n' :: _ => 0
  | '?' :: '>' :: _ => 0
  | _ :: rest => lineComment rest + 1

/-- The text after `/*` makes the comment a doc comment: a second star and a blank. -/
def opensDoc : List Char → Bool
  | '*' :: c :: _ => isBlank c
  | _ => false

/-! ## Quoted text -/

/-- **The rest of a quoted text**, its opening quote apart: through the next such quote that no
backslash escapes, or to the end. -/
def quoted (quote : Char) : List Char → Option Nat
  | [] => some 0
  | ['\\'] => none
  | '\\' :: _ :: rest => (quoted quote rest).map (· + 2)
  | c :: rest => if c == quote then some 1 else (quoted quote rest).map (· + 1)

/-- A line that closes a heredoc: blanks or tabs, the label, and no word character after it. The
value is the length up to the end of the label. -/
def closingLine (label cs : List Char) : Option Nat :=
  let indent := run (fun c => c == ' ' || c == '\t') cs
  let afterIndent := cs.drop indent
  if label.isPrefixOf afterIndent && !((afterIndent.drop label.length).head?.any isWord) then
    some (indent + label.length)
  else none

/-- Through the first closing line that some line end of the text precedes. -/
def throughLaterClosing (label : List Char) : List Char → Option Nat
  | [] => none
  | c :: rest =>
    match (if c == '\n' then closingLine label rest else none) with
    | some n => some (n + 1)
    | none => (throughLaterClosing label rest).map (· + 1)

/-- The body of a heredoc from the line after its header. A body of one line or more comes first;
only where there is none may the line after the header close the text at once. -/
def heredocBody (label cs : List Char) : Option Nat :=
  (throughLaterClosing label cs).orElse fun _ => closingLine label cs

/-- The line end of a heredoc header. -/
def headerEnd : List Char → Option Nat
  | '\n' :: _ => some 1
  | '\r' :: '\n' :: _ => some 2
  | _ => none

/-- A heredoc from its label on, `quote` being the quotes around the label if there are any. -/
def heredocFromLabel (quote : List Char) (cs : List Char) : Option Nat :=
  match cs with
  | [] => none
  | c :: rest =>
    if isNameStart c then
      let label := c :: rest.takeWhile isWord
      let afterLabel := cs.drop label.length
      if quote.isPrefixOf afterLabel then
        let tail := afterLabel.drop quote.length
        match headerEnd tail with
        | none => none
        | some n =>
          (heredocBody label (tail.drop n)).map (label.length + quote.length + n + ·)
      else none
    else none

/-- **A heredoc**, its first `<` apart: two more, blanks or tabs, a label that may be quoted, and a
body through the closing label. -/
def heredoc : List Char → Option Nat
  | '<' :: '<' :: rest =>
    let indent := run (fun c => c == ' ' || c == '\t') rest
    let found :=
      match rest.drop indent with
      | '"' :: cs => (heredocFromLabel ['"'] cs).map (· + 1)
      | '\'' :: cs => (heredocFromLabel ['\''] cs).map (· + 1)
      | cs => heredocFromLabel [] cs
    found.map (2 + indent + ·)
  | _ => none

/-! ## Numbers -/

/-- A digit of a decimal number, or the underscore between digits. -/
def isDecimalPart (c : Char) : Bool := isDigit c || c == '_'

/-- An exponent, where a whole one stands: its letter, a sign, and at least one digit. -/
def exponent : List Char → Nat
  | e :: rest =>
    if e == 'e' || e == 'E' then
      let sign := match rest with
        | c :: _ => if c == '+' || c == '-' then 1 else 0
        | [] => 0
      match run isDigit (rest.drop sign) with
      | 0 => 0
      | n + 1 => 1 + sign + (n + 1)
    else 0
  | [] => 0

/-- A fraction, where a point stands; digits behind the point may be missing. -/
def fraction : List Char → Nat
  | '.' :: rest => 1 + run isDecimalPart rest
  | _ => 0

/-- A decimal number after its first digit. -/
def decimal (cs : List Char) : Nat :=
  let whole := run isDecimalPart cs
  let point := fraction (cs.drop whole)
  whole + point + exponent (cs.drop (whole + point))

/-- A number in base 16, 2 or 8 after its leading zero: the base's letter and at least one digit. -/
def based : List Char → Option Nat
  | b :: rest =>
    let digits : Char → Bool :=
      if b == 'x' || b == 'X' then
        fun c => c.isDigit || ('a' ≤ c && c ≤ 'f') || ('A' ≤ c && c ≤ 'F') || c == '_'
      else if b == 'b' || b == 'B' then fun c => c == '0' || c == '1' || c == '_'
      else if b == 'o' || b == 'O' then fun c => ('0' ≤ c && c ≤ '7') || c == '_'
      else fun _ => false
    match run digits rest with
    | 0 => none
    | n + 1 => some (1 + (n + 1))
  | [] => none

/-- **A number** whose first digit is `first`. -/
def number (first : Char) (cs : List Char) : Nat :=
  match if first == '0' then based cs else none with
  | some n => n
  | none => decimal cs

/-- A number that begins with its point, where a digit follows. -/
def pointNumber (cs : List Char) : Option Nat :=
  if cs.head?.any isDigit then
    let digits := run isDecimalPart cs
    some (digits + exponent (cs.drop digits))
  else none

/-! ## Operators -/

/-- The operators of more than one character. One that begins another stands behind it. -/
def longOperators : List (List Char) :=
  ["#[", "?->", "->", "::", "=>", "...", "??=", "??", "<=>", "===", "!==", "==", "!=", "<>", "<=",
    ">=", "&&", "||", "++", "--", "**=", "**", "<<=", "<<", ">>=", ">>", "-=", "+=", "*=", "/=",
    "%=", ".=", "&=", "|=", "^="].map String.toList

/-- The operators of one character. -/
def shortOperators : List Char :=
  "-+*/%=!<>&|^.~?:@,[]\\".toList

/-- **An operator:** the first of the list that stands here, its first character apart. -/
def operator (c : Char) (rest : List Char) : Option Nat :=
  match longOperators.find? (·.isPrefixOf (c :: rest)) with
  | some op => some (op.length - 1)
  | none => if shortOperators.contains c then some 0 else none

end DocCoverage.Extent
