/-
The tokens of a file, as a sequence that answers for every integer position: outside the sequence
there is simply no token, so that searches which walk off either end find nothing there.

`TokenStream.ofSource` reads a file. It knows two regions. In text it looks for the next open tag;
in PHP code the first character of what remains decides between the classes, and `Token.Extent` says
how far the token reaches. Every token takes at least one character and leaves the rest untouched,
so the texts of the tokens, put together, are the file.
-/
import DocCoverage.Token.Basic
import DocCoverage.Token.Extent

set_option autoImplicit false

namespace DocCoverage

/-- The tokens of one file. -/
structure TokenStream where
  tokens : Array Token
  deriving DecidableEq

namespace TokenStream

/-- How many tokens there are. -/
def size (s : TokenStream) : Nat := s.tokens.size

/-- **The token at a position**, if the position lies in the stream. -/
def at? (s : TokenStream) (i : Int) : Option Token :=
  if 0 ≤ i then s.tokens[i.toNat]? else none

/-- The class of the token at a position. -/
def kind? (s : TokenStream) (i : Int) : Option TokenKind :=
  (s.at? i).map Token.kind

/-- A position with a token lies in the stream. -/
theorem bounds_of_at? {s : TokenStream} {i : Int} {t : Token} (h : s.at? i = some t) :
    0 ≤ i ∧ i < s.size := by
  unfold at? at h
  split at h
  · have := (Array.getElem?_eq_some_iff.1 h).1
    simp only [size]
    omega
  · simp at h

/-- A position with a class lies in the stream. -/
theorem bounds_of_kind? {s : TokenStream} {i : Int} {k : TokenKind} (h : s.kind? i = some k) :
    0 ≤ i ∧ i < s.size := by
  unfold kind? at h
  obtain ⟨t, ht, -⟩ := Option.map_eq_some_iff.1 h
  exact bounds_of_at? ht

/-! ## Walking over white space -/

/-- **Back over white space:** the least position from which only white space leads up to
`position`. -/
def skipBlankBackward (s : TokenStream) (position : Int) : Int :=
  if h : s.kind? (position - 1) = some .whitespace then s.skipBlankBackward (position - 1)
  else position
termination_by position.toNat
decreasing_by
  have := bounds_of_kind? h
  omega

/-- **On over white space:** the first position after `index` that holds none. -/
def skipBlankForward (s : TokenStream) (index : Int) : Int :=
  if h : s.kind? (index + 1) = some .whitespace then s.skipBlankForward (index + 1)
  else index + 1
termination_by (s.size - index).toNat
decreasing_by
  have := bounds_of_kind? h
  omega

end TokenStream

/-! ## Reading a file -/

/-- The two kinds of region a file is made of. -/
inductive Region where
  | text
  | code
  deriving DecidableEq

/-- Where the reading of a file stands. -/
structure Reading where
  region : Region := .text
  /-- The last token of this region that is neither layout nor comment. -/
  previous : Option Token := none
  /-- The line of the next character, counted from one. -/
  line : Nat := 1

namespace Reading

/-- The class and the extent of the token that `c` begins in PHP code, words still undivided. -/
def codeToken (c : Char) (rest : List Char) : TokenKind × Nat :=
  let operatorOrOther : TokenKind × Nat :=
    match Extent.operator c rest with
    | some n => (.operator, n)
    | none => (.other, 0)
  let quotedText : TokenKind × Nat :=
    match Extent.quoted c rest with
    | some n => (.string, n)
    | none => operatorOrOther
  if Text.isBlank c then (.whitespace, Extent.run Text.isBlank rest)
  else if Text.isNameStart c then (.identifier, Extent.run Text.isWord rest)
  else if Text.isDigit c then (.number, Extent.number c rest)
  else match c with
  | '?' =>
    match rest with
    | '>' :: after => (.closeTag, 1 + Extent.lineEnd after)
    | _ => operatorOrOther
  | '/' =>
    match rest with
    | '*' :: body =>
      (if Extent.opensDoc body then .docComment else .comment, 1 + Extent.throughCommentEnd body)
    | '/' :: body => (.comment, 1 + Extent.lineComment body)
    | _ => operatorOrOther
  | '#' =>
    match rest with
    | '[' :: _ => operatorOrOther
    | _ => (.comment, Extent.lineComment rest)
  | '<' =>
    match Extent.heredoc rest with
    | some n => (.string, n)
    | none => operatorOrOther
  | '\'' => quotedText
  | '"' => quotedText
  | '`' => quotedText
  | '$' =>
    if rest.head?.any Text.isNameStart then (.variableName, Extent.run Text.isWord rest)
    else operatorOrOther
  | '.' =>
    match Extent.pointNumber rest with
    | some n => (.number, n)
    | none => operatorOrOther
  | '{' => (.openBrace, 0)
  | '}' => (.closeBrace, 0)
  | '(' => (.openParen, 0)
  | ')' => (.closeParen, 0)
  | ';' => (.semicolon, 0)
  | _ => operatorOrOther

/-- The class and the extent of the token that `c` begins. -/
def nextToken (r : Reading) (c : Char) (rest : List Char) : TokenKind × Nat :=
  match r.region with
  | .text =>
    match if c == '<' then Extent.openTag rest else none with
    | some n => (.openTag, n)
    | none => (.inlineHtml, Extent.html rest)
  | .code =>
    match codeToken c rest with
    | (.identifier, n) => (wordKind r.previous (String.ofList (c :: rest.take n)), n)
    | found => found

/-- Where the reading stands after a token. -/
def after (r : Reading) (t : Token) : Reading :=
  let line := r.line + t.text.toList.count '\n'
  match t.kind with
  | .openTag => { region := .code, previous := none, line }
  | .closeTag => { r with region := .text, line }
  | .inlineHtml => { r with line }
  | kind => { r with line, previous := if kind.isTrivia then r.previous else some t }

/-- **The tokens of the rest of a file.** -/
def tokens (r : Reading) : List Char → List Token
  | [] => []
  | c :: rest =>
    let found := r.nextToken c rest
    let token : Token := ⟨found.1, String.ofList (c :: rest.take found.2), r.line⟩
    token :: (r.after token).tokens (rest.drop found.2)
termination_by cs => cs.length
decreasing_by simp only [List.length_drop, List.length_cons]; omega

end Reading

/-- **The tokens of a file.** -/
def TokenStream.ofSource (source : String) : TokenStream :=
  ⟨(({} : Reading).tokens source.toList).toArray⟩

end DocCoverage
