/-
The lower-case form of a text. A character goes to another one only within a run of the table, so
what becomes of a single sign is read off the table: no letter goes to a dot, and a dot stays where
it is. A text and its lower-case form have their dots in the same places.
-/
import DocCoverage.Text.LowerCase
import Mathlib

set_option autoImplicit false

namespace DocCoverage

namespace Text

/-- The lower-case form of a character is that of its run, if it lies in one. -/
theorem lowerChar_cases (c : Char) :
    lowerChar c = c
      ∨ ∃ r ∈ lowerRuns, r.1 ≤ c.toNat ∧ c.toNat ≤ r.2.1
        ∧ lowerChar c = Char.ofNat (c.toNat + r.2.2.2).toNat := by
  unfold lowerChar
  dsimp only
  split
  next r hfound =>
    have hin := List.find?_some hfound
    simp only [Bool.and_eq_true, decide_eq_true_eq] at hin
    exact Or.inr ⟨r, List.mem_of_find?_eq_some hfound, hin.1.1, hin.1.2, rfl⟩
  next => exact Or.inl rfl

/-! ## Dots -/

/-- No run goes over the dot. -/
theorem lowerRuns_apart_from_dot :
    ∀ r ∈ lowerRuns, r.2.1 + r.2.2.2 < 0x2E ∨ 0x2E < r.1 + r.2.2.2 := by
  decide +kernel

/-- **Only a dot goes to a dot.** -/
theorem lowerChar_eq_dot_iff {c : Char} : lowerChar c = '.' ↔ c = '.' := by
  constructor
  · intro h
    rcases lowerChar_cases c with hself | ⟨r, hr, hbegin, hend, hform⟩
    · rw [← h, hself]
    · have hapart := lowerRuns_apart_from_dot r hr
      have hnumber : (Char.ofNat (c.toNat + r.2.2.2).toNat).toNat = 0x2E := by
        rw [← hform, h]
        rfl
      rw [Char.toNat_ofNat] at hnumber
      -- the sum is the number of a character, or the form is the character of number zero
      by_cases hvalid : (c.toNat + r.2.2.2).toNat.isValidChar
      · rw [if_pos hvalid] at hnumber
        omega
      · rw [if_neg hvalid] at hnumber
        omega
  · rintro rfl
    decide +kernel

/-- **A text has as many dots as its lower-case form.** -/
theorem count_dot_lowerAfter (before cs : List Char) :
    (lowerAfter before cs).count '.' = cs.count '.' := by
  -- the two exceptions of the scan neither are dots nor lead to any
  fun_induction lowerAfter before cs with
  | case1 => rfl
  | case2 before rest ih =>
    have hforms : ∀ final : Bool, (if final then 'ς' else 'σ') ≠ '.' := by decide
    rw [List.count_cons_of_ne (hforms _), ih, List.count_cons_of_ne (by decide)]
  | case3 before rest ih =>
    rw [List.count_cons_of_ne (by decide), List.count_cons_of_ne (by decide), ih,
      List.count_cons_of_ne (by decide)]
  | case4 before c rest hsigma hdotted ih =>
    rw [List.count_cons, List.count_cons, ih]
    simp only [beq_iff_eq, lowerChar_eq_dot_iff]

/-- Only nothing has nothing as its lower-case form. -/
theorem lowerAfter_eq_nil_iff {before cs : List Char} : lowerAfter before cs = [] ↔ cs = [] := by
  fun_cases lowerAfter before cs with
  | case1 => simp only
  | case2 => simp only [reduceCtorEq]
  | case3 => simp only [reduceCtorEq]
  | case4 => simp only [reduceCtorEq]

/-- A dot in front stays in front. -/
theorem lowerAfter_dot_cons (before rest : List Char) :
    lowerAfter before ('.' :: rest) = '.' :: lowerAfter ('.' :: before) rest := by
  rw [lowerAfter, lowerChar_eq_dot_iff.2 rfl]
  · decide
  · decide

/-- **What goes to a text that begins with a dot** begins with a dot. -/
theorem exists_of_lowerAfter_eq_dot_cons {before cs later : List Char}
    (h : lowerAfter before cs = '.' :: later) :
    ∃ rest, cs = '.' :: rest ∧ lowerAfter ('.' :: before) rest = later := by
  revert h
  fun_cases lowerAfter before cs with
  | case1 =>
    intro h
    cases h
  | case2 rest =>
    intro h
    have hforms : ∀ final : Bool, (if final then 'ς' else 'σ') ≠ '.' := by decide
    exact absurd (List.cons.inj h).1 (hforms _)
  | case3 rest =>
    intro h
    exact absurd (List.cons.inj h).1 (by decide)
  | case4 c rest =>
    intro h
    obtain ⟨hhead, hlater⟩ := List.cons.inj h
    obtain rfl := lowerChar_eq_dot_iff.1 hhead
    exact ⟨rest, rfl, hlater⟩

/-- A text has as many dots as its lower-case form. -/
theorem count_dot_lower (s : String) : (lower s).toList.count '.' = s.toList.count '.' := by
  rw [lower, String.toList_ofList, count_dot_lowerAfter]

end Text

end DocCoverage
