/-
Patterns of token classes, matched backward. A pattern is anchored at a position and consumes the
tokens before it, nearest first, so the last part of a sequence lies next to the anchor.

A match has a choice wherever a part is optional. `Pattern.reach` lists every position the pattern
can end at, in order of preference: an optional part is tried before it is left out, and all ways to
go on from there come before the next choice. A sequence matches as a whole or not at all.
-/
import DocCoverage.Token.Stream

set_option autoImplicit false

namespace DocCoverage

/-- A pattern of token classes. -/
inductive Pattern where
  /-- One token of the class. -/
  | literal (kind : TokenKind)
  /-- All parts, one directly after the other. -/
  | sequence (parts : List Pattern)
  /-- The part, or nothing. -/
  | optional (part : Pattern)
  /-- One token of one of the classes. -/
  | oneOf (kinds : List TokenKind)
  /-- A node that is no pattern, shown as `written`. A match that comes to it fails. -/
  | unknown (written : String)

namespace Pattern

/-- An optional part made of several: they match together or not at all. -/
def optionalAll : List Pattern → Pattern
  | [part] => .optional part
  | parts => .optional (.sequence parts)

/-- What a search found: the positions reached, in order of preference, and the node at which it
broke off, if it did. What is listed was found before that. -/
structure Reached where
  positions : List Int
  unknownNode : Option String := none
  deriving DecidableEq

namespace Reached

/-- A single position. -/
def one (position : Int) : Reached := ⟨[position], none⟩

/-- Nothing. -/
def nothing : Reached := ⟨[], none⟩

/-- The findings of `a`, then those of `b`, which is not searched if `a` broke off. -/
def append (a b : Reached) : Reached :=
  match a.unknownNode with
  | some _ => a
  | none => ⟨a.positions ++ b.positions, b.unknownNode⟩

/-- Going on by `f` from each of the positions in turn. -/
def fromEach (f : Int → Reached) : List Int → Reached
  | [] => nothing
  | p :: rest => (f p).append (fromEach f rest)

/-- Going on by `f` from every position found, as far as the search came. -/
def andThen (a : Reached) (f : Int → Reached) : Reached :=
  (fromEach f a.positions).append ⟨[], a.unknownNode⟩

end Reached

/-- Where one token of a class in `kinds` takes a match. -/
def reachOne (stream : TokenStream) (accepts : TokenKind → Bool) (position : Int) : Reached :=
  if (stream.kind? (position - 1)).any accepts then .one (position - 1) else .nothing

mutual

/-- **Every position a pattern can end at,** going back from `position`. -/
def reach (stream : TokenStream) : Pattern → Int → Reached
  | .literal kind, position => reachOne stream (· == kind) position
  | .oneOf kinds, position => reachOne stream (kinds.contains ·) position
  | .optional part, position => (reach stream part position).append (.one position)
  | .sequence parts, position => reachAll stream parts position
  | .unknown written, _ => ⟨[], some written⟩

/-- Every position a sequence can end at: its later parts first, then the first one from each of the
positions they reach. -/
def reachAll (stream : TokenStream) : List Pattern → Int → Reached
  | [], position => .one position
  | part :: rest, position => (reachAll stream rest position).andThen (reach stream part)

end

/-- The outcome of a match: whether there is one, and the position, unchanged if there is none. -/
structure MatchResult where
  matched : Bool
  position : Int
  deriving DecidableEq

/-- **The preferred match.** It fails, with the node, only if an unknown node is met before any
position is reached. -/
def matchBackward (pattern : Pattern) (stream : TokenStream) (position : Int) :
    Except String MatchResult :=
  let found := pattern.reach stream position
  match found.positions, found.unknownNode with
  | reached :: _, _ => .ok ⟨true, reached⟩
  | [], some written => .error written
  | [], none => .ok ⟨false, position⟩

end Pattern

end DocCoverage
