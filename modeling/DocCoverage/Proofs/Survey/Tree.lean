/-
The nesting of a file as a tree, and what a walk of the tree looks at.

A survey knows no tree. This file says what it should do for tokens that have one: the tree of items
with the tokens each is written in, when such a tree is well formed, and the walk of it, which
carries nothing but the name of the innermost class and whether it is inside a function's body. The
braces are in the tree, so the walk counts none.
-/
import DocCoverage.Proofs.Survey.Progress
import DocCoverage.Proofs.Token.Cut

set_option autoImplicit false

namespace DocCoverage

/-! ## Items -/

/-- **One item of the nesting.** A class item stands for an interface too; a function item has a
body or ends without one. -/
inductive Item where
  | leaf (token : Token)
  | block (opening : Token) (items : List Item) (closing : Token)
  | classLike (keyword : Token) (header : List Token) (opening : Token) (items : List Item)
      (closing : Token)
  | bodiless (keyword : Token) (header : List Token) (ending : Token)
  | function (keyword : Token) (header : List Token) (opening : Token) (items : List Item)
      (closing : Token)

mutual

/-- The tokens an item is written in. -/
def Item.tokens : Item → List Token
  | .leaf t => [t]
  | .block opening items closing => opening :: (tokensOf items ++ [closing])
  | .classLike keyword header opening items closing =>
    keyword :: (header ++ opening :: (tokensOf items ++ [closing]))
  | .bodiless keyword header ending => keyword :: (header ++ [ending])
  | .function keyword header opening items closing =>
    keyword :: (header ++ opening :: (tokensOf items ++ [closing]))

/-- The tokens a list of items is written in. -/
def tokensOf : List Item → List Token
  | [] => []
  | item :: rest => item.tokens ++ tokensOf rest

end

/-! ## Well-formed items -/

/-- Behind `past`, nearest token first, stands the word `use`, white space apart. A function keyword
there imports a function. -/
def behindUse (past : List Token) : Bool :=
  (past.dropWhile Token.isBlank).head?.any (·.isWord "use")

/-- **A leaf:** any token but a brace or a keyword that begins a class, an interface or a function.
The function keyword of an import is a leaf. -/
def isLeaf (past : List Token) (t : Token) : Bool :=
  match t.kind with
  | .openBrace | .closeBrace | .classWord | .interfaceWord => false
  | .functionWord => behindUse past
  | _ => true

/-- What may stand between the keyword of a class or an interface and its opening brace. -/
def Token.inClassHeader (t : Token) : Bool :=
  match t.kind with
  | .openBrace | .closeBrace | .classWord | .interfaceWord | .functionWord | .variableName
  | .constWord => false
  | _ => true

/-- **A function's header**, read `depth` parentheses deep: no opening brace and no semicolon of it
stands outside all parentheses, and none is left open at its end. -/
def isFunctionHeader (depth : Nat) : List Token → Bool
  | [] => depth == 0
  | t :: rest =>
    match t.kind with
    | .openParen => isFunctionHeader (depth + 1) rest
    | .closeParen => isFunctionHeader (depth - 1) rest
    | .openBrace | .semicolon => depth != 0 && isFunctionHeader depth rest
    | _ => isFunctionHeader depth rest

mutual

/-- **A well-formed item** behind the tokens `past`, nearest first. -/
def Item.isWellFormed (past : List Token) : Item → Bool
  | .leaf t => isLeaf past t
  | .block opening items closing =>
    opening.kind == .openBrace && areWellFormed (opening :: past) items
      && closing.kind == .closeBrace
  | .classLike keyword header opening items closing =>
    (keyword.kind == .classWord || keyword.kind == .interfaceWord)
      && header.all Token.inClassHeader && opening.kind == .openBrace
      && areWellFormed (opening :: (header.reverse ++ keyword :: past)) items
      && closing.kind == .closeBrace
  | .bodiless keyword header ending =>
    keyword.kind == .functionWord && !behindUse past && isFunctionHeader 0 header
      && ending.kind == .semicolon
  | .function keyword header opening items closing =>
    keyword.kind == .functionWord && !behindUse past && isFunctionHeader 0 header
      && opening.kind == .openBrace
      && areWellFormed (opening :: (header.reverse ++ keyword :: past)) items
      && closing.kind == .closeBrace

/-- **Well-formed items**, each behind those before it. -/
def areWellFormed (past : List Token) : List Item → Bool
  | [] => true
  | item :: rest => item.isWellFormed past && areWellFormed (item.tokens.reverse ++ past) rest

end

/-! ## Names -/

/-- The text of a token if it is an identifier. -/
def wordName (fallback : String) : Option Token → String
  | some t => if t.kind = .identifier then t.text else fallback
  | none => fallback

/-- The identifier that tokens begin with, white space apart. -/
def firstWord (fallback : String) (ts : List Token) : String :=
  wordName fallback (ts.dropWhile Token.isBlank).head?

/-- The name in a function's header, which an ampersand may precede. -/
def functionName (header : List Token) : String :=
  match header.dropWhile Token.isBlank with
  | [] => closure
  | t :: rest =>
    if t.kind = .operator ∧ t.text = "&" then firstWord closure rest else wordName closure (some t)

/-- The token is an identifier. -/
def Token.isIdentifier (t : Token) : Bool := t.kind == .identifier

/-- The last identifier of the run of identifiers and white space that tokens begin with. -/
def lastWord? (ts : List Token) : Option Token :=
  ((ts.takeWhile fun t => t.isIdentifier || t.isBlank).filter Token.isIdentifier).getLast?

/-- The last identifier ahead, one token further. -/
theorem lastWord?_cons (u : Token) (rest : List Token) :
    lastWord? (u :: rest)
      = if u.isIdentifier then (lastWord? rest).or (some u)
        else if u.isBlank then lastWord? rest else none := by
  unfold lastWord?
  by_cases hword : u.isIdentifier = true
  · rw [if_pos hword, List.takeWhile_cons_of_pos (by rw [hword]; rfl),
      List.filter_cons_of_pos hword, List.getLast?_cons]
    cases List.getLast? _ <;> rfl
  · rw [if_neg hword]
    by_cases hblank : u.isBlank = true
    · rw [if_pos hblank, List.takeWhile_cons_of_pos (by rw [hblank, Bool.or_true]),
        List.filter_cons_of_neg hword]
    · rw [if_neg hblank, List.takeWhile_cons_of_neg (by simp [hword, hblank])]
      rfl

/-- The name of a class constant, its keyword apart. A type may stand before it. -/
def constantName (after : List Token) : String := (lastWord? after).elim "" Token.text

/-- The name in a call, the word `define` apart, if it is called. -/
def calledName? (after : List Token) : Option String :=
  match after.dropWhile Token.isBlank with
  | [] => none
  | t :: rest =>
    if t.kind = .openParen then some (definedName (rest.dropWhile Token.isBlank).head?) else none

/-! ## Names in a header

What ends a header is no white space and no name, so what stands behind a header is not taken for a
name of it. -/

/-- The first word of a header is looked for no further than its end. -/
theorem firstWord_append (fallback : String) (header after : List Token) {ending : Token}
    (hending : ending.kind = .openBrace ∨ ending.kind = .semicolon) :
    firstWord fallback (header ++ ending :: after) = firstWord fallback header := by
  unfold firstWord
  induction header with
  | nil =>
    rcases hending with hkind | hkind <;> simp [Token.isBlank, wordName, hkind]
  | cons u rest ih =>
    rw [List.cons_append]
    by_cases hblank : u.isBlank = true
    · rw [List.dropWhile_cons_of_pos hblank, List.dropWhile_cons_of_pos hblank, ih]
    · rw [List.dropWhile_cons_of_neg hblank, List.dropWhile_cons_of_neg hblank]
      rfl

/-- Nor is the name of a function. -/
theorem functionName_append (header after : List Token) {ending : Token}
    (hending : ending.kind = .openBrace ∨ ending.kind = .semicolon) :
    functionName (header ++ ending :: after) = functionName header := by
  unfold functionName
  induction header with
  | nil =>
    rcases hending with hkind | hkind <;> simp [Token.isBlank, wordName, hkind]
  | cons u rest ih =>
    rw [List.cons_append]
    by_cases hblank : u.isBlank = true
    · rw [List.dropWhile_cons_of_pos hblank, List.dropWhile_cons_of_pos hblank, ih]
    · rw [List.dropWhile_cons_of_neg hblank, List.dropWhile_cons_of_neg hblank]
      dsimp only
      rw [firstWord_append closure rest after hending]

/-! ## The walk -/

/-- What a walk carries. -/
structure Scope where
  /-- The name of the innermost class or interface. -/
  owner : Option String := none
  /-- Inside the body of a function. -/
  inBody : Bool := false
  deriving DecidableEq, Repr

/-- **What is looked at on a leaf.** A variable is a property where a class owns it and no function
body is around; a constant keyword declares one where a class owns it; a call of `define` is looked
at outside of all classes and functions. -/
def leafSubjects (defines : Bool) (scope : Scope) (place : Nat) (t : Token)
    (after : List Token) : List Subject :=
  match t.kind with
  | .variableName =>
    if scope.owner.isSome && !scope.inBody then [⟨.classVariable, place, t.text, scope.owner⟩]
    else []
  | .constWord =>
    if scope.owner.isSome then [⟨.classConstant, place, constantName after, scope.owner⟩] else []
  | .identifier =>
    if defines && t.isWord "define" && scope.owner.isNone && !scope.inBody then
      ((calledName? after).map fun name => ⟨.constant, place, name, none⟩).toList
    else []
  | _ => []

/-- The kind of declaration the keyword of a class item begins. -/
def classDeclaration (keyword : Token) : Declaration :=
  if keyword.kind = .interfaceWord then .interfaceDecl else .classDecl

mutual

/-- **The walk of an item** whose first token is at `place` and behind which `after` follows. A
class is looked at as if nothing enclosed it, and then its items with its name; a function is looked
at within the innermost class, and then its items as those of a body. -/
def Item.walk (defines : Bool) (scope : Scope) (place : Nat) (after : List Token) :
    Item → List Subject
  | .leaf t => leafSubjects defines scope place t after
  | .block _ items closing => walkAll defines scope (place + 1) (closing :: after) items
  | .classLike keyword header _ items closing =>
    let name := firstWord anonymousClass header
    ⟨classDeclaration keyword, place, name, none⟩
      :: walkAll defines { scope with owner := some name } (place + 1 + header.length + 1)
          (closing :: after) items
  | .bodiless _ header _ => [⟨.function, place, functionName header, scope.owner⟩]
  | .function _ header _ items closing =>
    ⟨.function, place, functionName header, scope.owner⟩
      :: walkAll defines { scope with inBody := true } (place + 1 + header.length + 1)
          (closing :: after) items

/-- **The walk of a list of items,** one after the other. -/
def walkAll (defines : Bool) (scope : Scope) (place : Nat) (after : List Token) :
    List Item → List Subject
  | [] => []
  | item :: rest =>
    item.walk defines scope place (tokensOf rest ++ after)
      ++ walkAll defines scope (place + item.tokens.length) after rest

end

end DocCoverage
