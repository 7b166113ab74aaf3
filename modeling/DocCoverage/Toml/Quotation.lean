/-
Quoted texts of TOML. Between single quotes a text stands as it is, between double quotes a
backslash begins an escape. Three quotes instead of one let a text run over several lines; a line
end right behind them does not count, and up to two more quotes may stand right before the closing
ones.

A reader takes the characters behind the opening quotes and answers with the text and what follows
the closing ones.
-/

set_option autoImplicit false

namespace DocCoverage.Toml

/-- A control character. Tabs may stand in most places, other controls only at line ends. -/
def isControl (c : Char) : Bool := c.toNat < 0x20 || c == '\x7f'

/-- A character that may stand in a quoted text or a comment. -/
def mayStand (multiline : Bool) (c : Char) : Bool :=
  !isControl c || c == '\t' || (multiline && c == '\n')

/-- A blank within a line. -/
def isGap (c : Char) : Bool := c == ' ' || c == '\t'

/-- A blank within a line or a line end. -/
def isLayout (c : Char) : Bool := isGap c || c == '\n'

/-! ## Without escapes -/

/-- The text up to the closing single quote. -/
def literalText : List Char → Option (List Char × List Char)
  | [] => none
  | c :: rest =>
    if c == '\'' then some ([], rest)
    else if mayStand false c then
      (literalText rest).map fun found => (c :: found.1, found.2)
    else none

/-- The text up to three closing single quotes. -/
def literalLines : List Char → Option (List Char × List Char)
  | '\'' :: '\'' :: '\'' :: rest => some ([], rest)
  | [] => none
  | c :: rest =>
    if mayStand true c then (literalLines rest).map fun found => (c :: found.1, found.2)
    else none

/-! ## With escapes -/

/-- The character a single letter stands for behind a backslash. -/
def letterEscape? : Char → Option Char
  | 'b' => some '\x08'
  | 't' => some '\t'
  | 'n' => some '\n'
  | 'f' => some '\x0c'
  | 'r' => some '\r'
  | '"' => some '"'
  | '\\' => some '\\'
  | _ => none

/-- The value of a digit, up to that of the letter `f`. -/
def digitValue? (c : Char) : Option Nat :=
  if c.isDigit then some (c.toNat - '0'.toNat)
  else if 'a' ≤ c ∧ c ≤ 'f' then some (c.toNat - 'a'.toNat + 10)
  else if 'A' ≤ c ∧ c ≤ 'F' then some (c.toNat - 'A'.toNat + 10)
  else none

/-- The character with a code point of so many hexadecimal digits, and what follows them. -/
def codePoint? : Nat → Nat → List Char → Option (Char × List Char)
  | 0, n, rest => if n.isValidChar then some (Char.ofNat n, rest) else none
  | _ + 1, _, [] => none
  | more + 1, n, c :: rest =>
    match digitValue? c with
    | some d => codePoint? more (16 * n + d) rest
    | none => none

/-- What an escape stands for, and what follows it, for a text right behind the backslash. Where a
text may run over lines, a backslash at the end of a line stands for nothing and takes all blanks
and line ends after it with it. -/
def escape? (multiline : Bool) : List Char → Option (List Char × List Char)
  | 'u' :: rest => (codePoint? 4 0 rest).map fun found => ([found.1], found.2)
  | 'U' :: rest => (codePoint? 8 0 rest).map fun found => ([found.1], found.2)
  | c :: rest =>
    match letterEscape? c with
    | some made => some ([made], rest)
    | none =>
      if multiline && isLayout c then
        match (c :: rest).dropWhile isGap with
        | '\n' :: after => some ([], after.dropWhile isLayout)
        | [] => some ([], [])
        | _ => none
      else none
  | [] => none

/-- What follows a code point is no longer than the text it was read from. -/
theorem length_of_codePoint? {k n : Nat} {cs rest : List Char} {c : Char}
    (h : codePoint? k n cs = some (c, rest)) : rest.length ≤ cs.length := by
  induction k generalizing n cs with
  | zero =>
    unfold codePoint? at h
    split at h
    · simp only [Option.some.injEq, Prod.mk.injEq] at h
      exact Nat.le_of_eq (congrArg List.length h.2.symm)
    · simp at h
  | succ k ih =>
    cases cs with
    | nil => simp [codePoint?] at h
    | cons d cs =>
      unfold codePoint? at h
      split at h
      · have := ih h
        simp only [List.length_cons]
        omega
      · simp at h

/-- Dropping from the front makes no text longer. -/
theorem length_of_dropWhile {p : Char → Bool} {cs rest : List Char} (h : cs.dropWhile p = rest) :
    rest.length ≤ cs.length :=
  h ▸ (List.dropWhile_suffix p).length_le

/-- What follows an escape is no longer than the text it was read from. -/
theorem length_of_escape? {multiline : Bool} {cs made rest : List Char}
    (h : escape? multiline cs = some (made, rest)) : rest.length ≤ cs.length := by
  unfold escape? at h
  split at h
  · obtain ⟨⟨c, after⟩, hc, he⟩ := Option.map_eq_some_iff.1 h
    have := length_of_codePoint? hc
    simp only [Prod.mk.injEq] at he
    rw [← he.2]
    simp only [List.length_cons]
    omega
  · obtain ⟨⟨c, after⟩, hc, he⟩ := Option.map_eq_some_iff.1 h
    have := length_of_codePoint? hc
    simp only [Prod.mk.injEq] at he
    rw [← he.2]
    simp only [List.length_cons]
    omega
  · split at h
    · simp only [Option.some.injEq, Prod.mk.injEq] at h
      rw [← h.2]
      simp
    · split at h
      · split at h
        · next after hd =>
          simp only [Option.some.injEq, Prod.mk.injEq] at h
          have h₁ := length_of_dropWhile h.2
          have h₂ := length_of_dropWhile hd
          simp only [List.length_cons] at h₂ ⊢
          omega
        · simp only [Option.some.injEq, Prod.mk.injEq] at h
          rw [← h.2]
          simp
        · simp at h
      · simp at h
  · simp at h

/-- **The text up to the closing double quote,** or up to three of them. -/
def basicText (multiline : Bool) : List Char → Option (List Char × List Char)
  | [] => none
  | c :: rest =>
    if c == '"' then
      if !multiline then some ([], rest)
      else if rest.take 2 == ['"', '"'] then some ([], rest.drop 2)
      else (basicText multiline rest).map fun found => ('"' :: found.1, found.2)
    else if c == '\\' then
      match _h : escape? multiline rest with
      | some (made, after) =>
        (basicText multiline after).map fun found => (made ++ found.1, found.2)
      | none => none
    else if mayStand multiline c then
      (basicText multiline rest).map fun found => (c :: found.1, found.2)
    else none
termination_by cs => cs.length
decreasing_by
  · simp_wf
  · have := length_of_escape? _h
    simp_wf
    omega
  · simp_wf

/-! ## From the opening quotes on -/

/-- A text of several lines, with up to two quotes that stand before the closing ones. -/
def withExtraQuotes (quote : Char) (found : List Char × List Char) : List Char × List Char :=
  let extra := (found.2.takeWhile (· == quote)).take 2
  (found.1 ++ extra, found.2.drop extra.length)

/-- The characters behind the opening quotes, a line end right behind them left out. -/
def afterFirstLineEnd : List Char → List Char
  | '\n' :: rest => rest
  | cs => cs

/-- A quoted text within one line. -/
def lineQuotation? : List Char → Option (List Char × List Char)
  | '"' :: rest => basicText false rest
  | '\'' :: rest => literalText rest
  | _ => none

/-- **A quoted text.** -/
def quotation? : List Char → Option (List Char × List Char)
  | '"' :: '"' :: '"' :: rest =>
    (basicText true (afterFirstLineEnd rest)).map (withExtraQuotes '"')
  | '\'' :: '\'' :: '\'' :: rest =>
    (literalLines (afterFirstLineEnd rest)).map (withExtraQuotes '\'')
  | cs => lineQuotation? cs

end DocCoverage.Toml
