/-
Tokens of a PHP source file, as coarse as a documentation check needs them: doc comments apart from
other comments, white space, braces and parentheses, the words that declare something and their
modifiers. All else falls into a few wide classes.
-/
import DocCoverage.Text.LowerCase

set_option autoImplicit false

namespace DocCoverage

/-- The class of a token. -/
inductive TokenKind where
  /-- Text outside the PHP regions. -/
  | inlineHtml
  /-- What opens a PHP region, with the one blank or line end that belongs to it. -/
  | openTag
  /-- What closes a PHP region, with the line end that belongs to it. -/
  | closeTag
  | docComment
  | comment
  | whitespace
  | openBrace
  | closeBrace
  | openParen
  | closeParen
  | semicolon
  | classWord
  | interfaceWord
  | functionWord
  | constWord
  | variableName
  | identifier
  | abstractWord
  | staticWord
  | publicWord
  | privateWord
  | protectedWord
  | string
  | number
  | operator
  /-- A single character of no other class. -/
  | other
  deriving DecidableEq, Repr

namespace TokenKind

/-- Layout and comments: what may stand anywhere and does not separate an access operator from the
word behind it. -/
def isTrivia : TokenKind → Bool
  | .whitespace | .comment | .docComment => true
  | _ => false

/-- The three words for the visibility of a member. -/
def visibility : List TokenKind := [.publicWord, .privateWord, .protectedWord]

end TokenKind

/-- The words with a class of their own, in lower case. -/
def keywords : List (String × TokenKind) :=
  [("class", .classWord), ("interface", .interfaceWord), ("function", .functionWord),
    ("const", .constWord), ("abstract", .abstractWord), ("static", .staticWord),
    ("public", .publicWord), ("private", .privateWord), ("protected", .protectedWord)]

/-- One token: its class, the text it covers, and the line it begins on, counted from one. -/
structure Token where
  kind : TokenKind
  text : String
  line : Nat
  deriving DecidableEq, Repr

namespace Token

/-- An operator behind which a word is the name of a member, whatever the word. -/
def isMemberAccess (t : Token) : Bool :=
  t.kind == .operator && (t.text == "->" || t.text == "?->" || t.text == "::")

/-- The token is an identifier spelled as `word` in upper or lower case. No letter outside ASCII has
a lower-case form that occurs in the words this is asked for. -/
def isWord (t : Token) (word : String) : Bool :=
  t.kind == .identifier && Text.lowerAscii t.text == word

end Token

/-- **The class of a word** read after the significant token `previous`: a keyword in any case,
unless it names a member; any other word is an identifier. -/
def wordKind (previous : Option Token) (text : String) : TokenKind :=
  if previous.any Token.isMemberAccess then .identifier
  else (keywords.lookup (Text.lowerAscii text)).getD .identifier

end DocCoverage
