/-
Values written out: numbers, quoted texts, the words for truth and for nothing, and what is put
together from them with parentheses and braces. An action in a text is given such a value. Here it
is only decided whether a text is one; nothing is done with the value.

The text is cut into lexemes first. What holds of a value is all that a surrounding one asks about
it: a sign and a sum need numbers, and what stands in a set or names an entry of a table must not be
a set or a table itself.
-/

set_option autoImplicit false

namespace DocCoverage.Text.Markup

/-! ## Lexemes -/

/-- A piece of a written value. -/
inductive Lexeme where
  | number (imaginary : Bool)
  | quoted (bytes : Bool)
  | word (name : String)
  | ellipsis
  | mark (c : Char)
  | lineEnd
  deriving DecidableEq, Repr

namespace Lexeme

/-- What follows digits between which single underscores may stand. -/
def afterDigits (isDigit : Char → Bool) : List Char → List Char
  | '_' :: c :: rest => if isDigit c then afterDigits isDigit rest else '_' :: c :: rest
  | c :: rest => if isDigit c then afterDigits isDigit rest else c :: rest
  | [] => []

/-- What follows digits, of which there must be one at least. -/
def afterSomeDigits? (isDigit : Char → Bool) : List Char → Option (List Char)
  | c :: rest => if isDigit c then some (afterDigits isDigit rest) else none
  | [] => none

/-- A digit of a number in another base than ten, for the letter that marks the base. -/
def isDigitOf (base c : Char) : Bool :=
  match base.toLower with
  | 'x' => c.isDigit || ('a' ≤ c.toLower && c.toLower ≤ 'f')
  | 'o' => '0' ≤ c && c ≤ '7'
  | _ => c == '0' || c == '1'

/-- What follows an exponent, if one is there. A letter for an exponent without one is an error. -/
def afterExponent? : List Char → Option (Bool × List Char)
  | c :: rest =>
    if c.toLower == 'e' then
      let digits := if rest.head? == some '+' || rest.head? == some '-' then rest.drop 1 else rest
      (afterSomeDigits? Char.isDigit digits).map fun rest => (true, rest)
    else some (false, c :: rest)
  | [] => some (false, [])

/-- A number in base ten: whether it is imaginary, and what follows it. A whole number does not
begin with a zero unless it is zero. -/
def decimal? (cs : List Char) : Option (Bool × List Char) := do
  let rest := (afterSomeDigits? Char.isDigit cs).getD cs
  let whole := cs.take (cs.length - rest.length)
  let (fraction, rest) :=
    match rest with
    | '.' :: rest => (true, (afterSomeDigits? Char.isDigit rest).getD rest)
    | rest => (false, rest)
  let (exponent, rest) ← afterExponent? rest
  match rest with
  | c :: rest' => if c.toLower == 'j' then return (true, rest')
  | [] => pure ()
  let zeros := whole.all fun c => c == '0' || c == '_'
  if fraction || exponent || zeros || whole.head? != some '0' then return (false, rest) else none

/-- A number and what follows it. No letter may follow. -/
def number? (cs : List Char) : Option (Bool × List Char) := do
  let found ← match cs with
    | '0' :: base :: rest =>
      if ['x', 'o', 'b'].contains base.toLower then
        let digits := if rest.head? == some '_' then rest.drop 1 else rest
        (afterSomeDigits? (isDigitOf base) digits).map fun rest => (false, rest)
      else decimal? cs
    | cs => decimal? cs
  if found.2.head?.any fun c => c.isAlphanum || c == '_' then none else return found

/-- How many hexadecimal digits an escape needs. -/
def hexDigitsAfter (bytes : Bool) : Char → Nat
  | 'x' => 2
  | 'u' => if bytes then 0 else 4
  | 'U' => if bytes then 0 else 8
  | _ => 0

/-- What follows a quoted text, of which `need` hexadecimal digits of an escape are still due.
`quotes` is what ends it; a single quote does not reach over a line end. -/
def afterQuoted? (raw bytes : Bool) (quotes : List Char) : Nat → List Char → Option (List Char)
  | need + 1, c :: rest =>
    if isDigitOf 'x' c then afterQuoted? raw bytes quotes need rest else none
  | 0, '\\' :: c :: rest =>
    if bytes && 128 ≤ c.toNat then none
    else if !raw && !bytes && c == 'N' then none
    else afterQuoted? raw bytes quotes (if raw then 0 else hexDigitsAfter bytes c) rest
  | 0, c :: rest =>
    if quotes.isPrefixOf (c :: rest) then some (rest.drop (quotes.length - 1))
    else if bytes && 128 ≤ c.toNat then none
    else if quotes.length == 1 && (c == '\n' || c == '\r') then none
    else afterQuoted? raw bytes quotes 0 rest
  | _, [] => none

/-- A quoted text behind its letters, and what follows it. -/
def quoted? (letters : String) (cs : List Char) : Option (Lexeme × List Char) :=
  let raw := letters.contains 'r'
  let bytes := letters.contains 'b'
  let read (quotes : List Char) :=
    (afterQuoted? raw bytes quotes 0 (cs.drop quotes.length)).map fun rest => (quoted bytes, rest)
  match cs with
  | q :: r :: s :: _ => if q == r && r == s then read [q, q, q] else read [q]
  | q :: _ => read [q]
  | [] => none

/-- The letters that may stand in front of a quoted text. -/
def quoteLetters : List String := ["", "r", "u", "b", "br", "rb"]

/-- A letter that a word may begin with. -/
def isLetter (c : Char) : Bool := c.isAlpha || c == '_'

/-- The first lexeme and what follows it. -/
def first? (cs : List Char) : Option (Lexeme × List Char) :=
  match cs with
  | '.' :: '.' :: '.' :: rest => some (ellipsis, rest)
  | c :: rest =>
    if c.isDigit || (c == '.' && rest.head?.any Char.isDigit) then
      (number? cs).map fun found => (number found.1, found.2)
    else if isLetter c then
      let name := String.ofList (cs.takeWhile fun c => isLetter c || c.isDigit)
      let rest := cs.drop name.length
      if rest.head?.any fun c => c == '"' || c == '\'' then
        if quoteLetters.contains (name.map Char.toLower) then
          quoted? (name.map Char.toLower) rest
        else none
      else some (word name, rest)
    else if c == '"' || c == '\'' then quoted? "" cs
    else if "(),:+-\x7b\x7d".contains c then some (mark c, rest)
    else none
  | [] => none

/-- The lexemes of a text, `depth` being how many parentheses and braces are open and `fuel` more
than there are characters. Line ends count only outside of them; a comment reaches up to one. -/
def all? (fuel depth : Nat) (cs : List Char) : Option (List Lexeme) :=
  match fuel, cs with
  | 0, _ => none
  | _, [] => some []
  | fuel + 1, c :: rest =>
    if c == ' ' || c == '\t' || c == '\x0c' then all? fuel depth rest
    else if c == '\n' || c == '\r' then
      (all? fuel depth rest).map fun found => if depth = 0 then lineEnd :: found else found
    else if c == '#' then all? fuel depth (rest.dropWhile fun c => c != '\n' && c != '\r')
    else if c == '\\' then
      match rest with
      | '\n' :: rest => all? fuel depth rest
      | _ => none
    else
      match first? cs with
      | none => none
      | some (found, rest) =>
        let depth :=
          if found = mark '(' || found = mark '\x7b' then depth + 1
          else if found = mark ')' || found = mark '\x7d' then depth - 1
          else depth
        (all? fuel depth rest).map (found :: ·)

end Lexeme

/-! ## Values -/

/-- What holds of a value. -/
inductive Written where
  /-- A number as it stands, or with a sign. -/
  | number (imaginary signed : Bool)
  /-- Any other value. A set or a table is open to change, and so is what holds one. -/
  | other (fixed : Bool)
  deriving DecidableEq, Repr

namespace Written

/-- The value may stand in a set and name an entry of a table. -/
def isFixed : Written → Bool
  | .number _ _ => true
  | .other fixed => fixed

/-- A value with a sign before it. -/
def signed? : Written → Option Written
  | .number imaginary false => some (.number imaginary true)
  | _ => none

/-- The sum or difference of two values: a real number and an imaginary one. -/
def sum? : Written → Written → Option Written
  | .number false _, .number true false => some (.other true)
  | _, _ => none

/-- Values in parentheses. A single one without a comma is itself. -/
def together (comma : Bool) : List Written → Written
  | [value] => if comma then .other value.isFixed else value
  | values => .other (values.all isFixed)

/-- Quoted texts beside each other are one. -/
def afterTexts? (bytes : Bool) : List Lexeme → Option (List Lexeme)
  | .quoted b :: rest => if b = bytes then afterTexts? bytes rest else none
  | rest => some rest

mutual

/-- A value without signs and sums around it, and what follows it. -/
def simple? : Nat → List Lexeme → Option (Written × List Lexeme)
  | 0, _ => none
  | fuel + 1, lexemes =>
    match lexemes with
    | .number imaginary :: rest => some (.number imaginary false, rest)
    | .quoted bytes :: rest => (afterTexts? bytes rest).map fun rest => (.other true, rest)
    | .ellipsis :: rest => some (.other true, rest)
    | .word "set" :: .mark '(' :: .mark ')' :: rest => some (.other false, rest)
    | .word name :: rest =>
      if ["True", "False", "None"].contains name then some (.other true, rest) else none
    | .mark '(' :: .mark ')' :: rest => some (.other true, rest)
    | .mark '(' :: rest => do
      let (values, comma, rest) ← several? fuel rest
      match rest with
      | .mark ')' :: rest => return (together comma values, rest)
      | _ => none
    | .mark '\x7b' :: .mark '\x7d' :: rest => some (.other false, rest)
    | .mark '\x7b' :: rest => do
      let (key, after) ← value? fuel rest
      match after with
      | .mark ':' :: _ => (entries? fuel rest).map fun rest => (.other false, rest)
      | _ =>
        let (values, _, rest) ← several? fuel rest
        if !key.isFixed || !values.all isFixed then none
        else
          match rest with
          | .mark '\x7d' :: rest => return (.other false, rest)
          | _ => none
    | _ => none

/-- A value that may have a sign or be a sum. -/
def value? : Nat → List Lexeme → Option (Written × List Lexeme)
  | 0, _ => none
  | fuel + 1, lexemes => do
    let (left, rest) ← signedValue? fuel lexemes
    match rest with
    | .mark c :: after =>
      if c == '+' || c == '-' then
        let (right, rest) ← signedValue? fuel after
        return (← left.sum? right, rest)
      else return (left, rest)
    | _ => return (left, rest)

/-- A value that may have a sign. -/
def signedValue? : Nat → List Lexeme → Option (Written × List Lexeme)
  | 0, _ => none
  | fuel + 1, lexemes =>
    match lexemes with
    | .mark '+' :: rest | .mark '-' :: rest => do
      let (value, rest) ← simple? fuel rest
      return (← value.signed?, rest)
    | lexemes => simple? fuel lexemes

/-- Values with commas between them, whether there is a comma, and what follows. -/
def several? : Nat → List Lexeme → Option (List Written × Bool × List Lexeme)
  | 0, _ => none
  | fuel + 1, lexemes => do
    let (value, rest) ← value? fuel lexemes
    match rest with
    | .mark ',' :: after =>
      match several? fuel after with
      | some (values, _, rest) => return (value :: values, true, rest)
      | none => return ([value], true, after)
    | rest => return ([value], false, rest)

/-- The entries of a table up to its closing brace. -/
def entries? : Nat → List Lexeme → Option (List Lexeme)
  | 0, _ => none
  | fuel + 1, lexemes => do
    let (key, rest) ← value? fuel lexemes
    if !key.isFixed then none
    else
      match rest with
      | .mark ':' :: rest =>
        let (_, rest) ← value? fuel rest
        match rest with
        | .mark '\x7d' :: rest => return rest
        | .mark ',' :: .mark '\x7d' :: rest => return rest
        | .mark ',' :: rest => entries? fuel rest
        | _ => none
      | _ => none

end

/-- **A text is a written value.** Several values with commas between them are one too. -/
def isValue (text : List Char) : Bool :=
  match Lexeme.all? (text.length + 1) 0 text with
  | none => false
  | some lexemes =>
    match several? (4 * lexemes.length + 4) (lexemes.dropWhile (· = .lineEnd)) with
    | some (_, _, rest) => rest.all (· = .lineEnd)
    | none => false

end Written

end DocCoverage.Text.Markup
