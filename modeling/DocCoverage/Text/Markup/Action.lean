/-
Actions written into a text. What an action is given is a value, or the name of what is to be done
with the value in parentheses behind it. When the action ends, the value has to be one.
-/
import DocCoverage.Text.Blank
import DocCoverage.Text.Markup.Written
import DocCoverage.Text.Word

set_option autoImplicit false

namespace DocCoverage.Text.Markup

/-- The value in what an action is given: what stands in parentheses behind a name, nothing at all
behind a name alone, and otherwise everything. -/
def actionValue (given : List Char) : List Char :=
  let behindName := given.dropWhile fun c => isWord c || c == '.'
  match behindName with
  | [] => ['(', ')']
  | '(' :: rest =>
    if rest.getLast? == some ')' && !rest.contains '\n' then behindName else given
  | _ => given

/-- **An action can be read.** One that is given nothing always can. -/
def isAction (given : List Char) : Bool :=
  given.isEmpty || Written.isValue (actionValue (stripBlanks given))

end DocCoverage.Text.Markup
