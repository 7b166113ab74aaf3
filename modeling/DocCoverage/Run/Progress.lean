/-
Computations that note down what they do. One that breaks off keeps what it has noted so far, and
one that catches a failure goes on behind it.
-/
import DocCoverage.Failure.Basic

set_option autoImplicit false

namespace DocCoverage

/-- A computation that notes things of a type on its way to a result of another. -/
structure Progress (ν α : Type) where
  notes : List ν
  result : Result α

namespace Progress

/-- A computation that notes nothing. -/
def quiet {ν α : Type} (result : Result α) : Progress ν α := ⟨[], result⟩

/-- Noting one thing. -/
def note {ν : Type} (n : ν) : Progress ν Unit := ⟨[n], .ok ()⟩

/-- One computation and then another. -/
def andThen {ν α β : Type} (p : Progress ν α) (next : α → Progress ν β) : Progress ν β :=
  match p.result with
  | .ok a => ⟨p.notes ++ (next a).notes, (next a).result⟩
  | .error e => ⟨p.notes, .error e⟩

instance {ν : Type} : Monad (Progress ν) where
  pure a := quiet (.ok a)
  bind := andThen

/-- One computation for each element, in order, until one breaks off. -/
def each {ν α : Type} (act : α → Progress ν Unit) : List α → Progress ν Unit
  | [] => quiet (.ok ())
  | a :: rest => (act a).andThen fun _ => each act rest

/-- Going on behind a failure that is caught. -/
def recover {ν α : Type} (p : Progress ν α) (caught : Failure → Option (Progress ν α)) :
    Progress ν α :=
  match p.result with
  | .ok _ => p
  | .error e =>
    match caught e with
    | some q => ⟨p.notes ++ q.notes, q.result⟩
    | none => p

end Progress

end DocCoverage
