/-
A stream cut in two. What a step of a survey looks up is never far from its place: the next token
that is no white space, the last one before it, the tokens up to some end. Said with positions these
are searches; said on the tokens before the place, nearest first, and on those from there on, they
are `dropWhile` and `takeWhile`.
-/
import DocCoverage.Token.Stream

set_option autoImplicit false

namespace DocCoverage

/-- The token is white space. -/
def Token.isBlank (t : Token) : Bool := t.kind == .whitespace

namespace TokenStream

/-- **The stream cut at a place:** `past` are the tokens before it, nearest first, and `ahead` those
from there on. The place itself is the length of `past`. -/
def Cut (s : TokenStream) (past ahead : List Token) : Prop :=
  s.tokens.toList = past.reverse ++ ahead

/-- The whole stream lies ahead of its beginning. -/
theorem cut_nil (s : TokenStream) : s.Cut [] s.tokens.toList := rfl

namespace Cut

variable {s : TokenStream} {past ahead : List Token}

/-- The cut moved on over some tokens. -/
theorem moveOn {passed : List Token} (h : s.Cut past (passed ++ ahead)) :
    s.Cut (passed.reverse ++ past) ahead := by
  unfold Cut at h ⊢
  rw [h, List.reverse_append, List.reverse_reverse, List.append_assoc]

/-- The cut moved on over one token. -/
theorem next {t : Token} (h : s.Cut past (t :: ahead)) : s.Cut (t :: past) ahead := by
  have hone : s.Cut past ([t] ++ ahead) := h
  exact hone.moveOn

/-- The tokens from the place on. -/
theorem at?_add (h : s.Cut past ahead) (n : Nat) : s.at? (past.length + n) = ahead[n]? := by
  unfold Cut at h
  have hindex : ((past.length : Int) + n).toNat = past.length + n := by omega
  rw [at?, if_pos (by omega), hindex, ← Array.getElem?_toList, h,
    List.getElem?_append_right (by rw [List.length_reverse]; omega), List.length_reverse,
    Nat.add_sub_cancel_left]

/-- The token at the place. -/
theorem at?_here (h : s.Cut past ahead) : s.at? past.length = ahead.head? := by
  rw [List.head?_eq_getElem?, ← h.at?_add 0, Int.natCast_zero, Int.add_zero]

/-- The class of the token at the place. -/
theorem kind?_here (h : s.Cut past ahead) :
    s.kind? past.length = ahead.head?.map Token.kind := by
  rw [kind?, h.at?_here]

/-- The token at the place is white space if the first one ahead is. -/
theorem kind?_here_blank {t : Token} (h : s.Cut past (t :: ahead)) :
    s.kind? past.length = some .whitespace ↔ t.isBlank = true := by
  rw [h.kind?_here, List.head?_cons, Option.map_some, Option.some.injEq, Token.isBlank, beq_iff_eq]

/-! ## Over white space -/

/-- The cut behind the blanks ahead. -/
theorem skipBlanks (h : s.Cut past ahead) :
    s.Cut ((ahead.takeWhile Token.isBlank).reverse ++ past) (ahead.dropWhile Token.isBlank) :=
  moveOn (List.takeWhile_append_dropWhile ▸ h)

/-- From a token on over white space, the blanks behind it are passed. -/
theorem skipBlankForward_eq {t : Token} (h : s.Cut (t :: past) ahead) :
    s.skipBlankForward past.length
      = ((ahead.takeWhile Token.isBlank).reverse ++ t :: past).length := by
  have hplace : (past.length : Int) + 1 = (t :: past).length := by
    rw [List.length_cons]
    omega
  induction ahead generalizing t past with
  | nil =>
    rw [skipBlankForward, dif_neg (by rw [hplace, h.kind?_here]; simp), hplace]
    rfl
  | cons u rest ih =>
    rw [skipBlankForward, hplace]
    by_cases hu : u.isBlank = true
    · have hnext : ((t :: past).length : Int) + 1 = (u :: t :: past).length := by
        rw [List.length_cons (a := u)]
        omega
      rw [dif_pos (h.kind?_here_blank.2 hu), ih h.next hnext, List.takeWhile_cons_of_pos hu,
        List.reverse_cons, List.append_assoc]
      rfl
    · rw [dif_neg (mt h.kind?_here_blank.1 hu), List.takeWhile_cons_of_neg hu]
      rfl

/-- **The next token that is no white space.** -/
theorem at?_skipBlankForward {t : Token} (h : s.Cut (t :: past) ahead) :
    s.at? (s.skipBlankForward past.length) = (ahead.dropWhile Token.isBlank).head? := by
  rw [h.skipBlankForward_eq, h.skipBlanks.at?_here]

/-- **The next token but one** that is no white space. -/
theorem at?_skipBlankForward_twice {t u : Token} {rest : List Token} (h : s.Cut (t :: past) ahead)
    (hnext : ahead.dropWhile Token.isBlank = u :: rest) :
    s.at? (s.skipBlankForward (s.skipBlankForward past.length))
      = (rest.dropWhile Token.isBlank).head? := by
  have hcut := h.skipBlanks
  rw [hnext] at hcut
  rw [h.skipBlankForward_eq, hcut.next.at?_skipBlankForward]

/-- **The last token before the place that is no white space.** -/
theorem at?_skipBlankBackward (h : s.Cut past ahead) :
    s.at? (s.skipBlankBackward past.length - 1) = (past.dropWhile Token.isBlank).head? := by
  induction past generalizing ahead with
  | nil =>
    rw [skipBlankBackward, dif_neg (by simp [kind?, at?])]
    rfl
  | cons t past ih =>
    have hback : s.Cut past (t :: ahead) := by
      unfold Cut at h ⊢
      rw [h, List.reverse_cons, List.append_assoc, List.singleton_append]
    have hplace : ((t :: past).length : Int) - 1 = past.length := by
      rw [List.length_cons]
      omega
    rw [skipBlankBackward, hplace]
    by_cases ht : t.isBlank = true
    · rw [dif_pos (hback.kind?_here_blank.2 ht), ih hback, List.dropWhile_cons_of_pos ht]
    · rw [dif_neg (mt hback.kind?_here_blank.1 ht), hplace, hback.at?_here,
        List.dropWhile_cons_of_neg ht]
      rfl

end Cut

end TokenStream

end DocCoverage
