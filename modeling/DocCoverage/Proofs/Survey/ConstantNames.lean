/-
The name a class constant is checked under. A type may stand between the keyword and the name, and no
type is read as such: the name is the last one of the words behind the keyword, as far as nothing but
words and white space comes. Where a type is a single word this is the last word before the sign `=`.

A question mark, a bar, a backslash or a comment is neither a word nor white space, and the search for
the name ends there, before `=` is reached. The constant then goes by the last word of its type before
that token, or has no name at all and is reported on the line of its keyword.
-/
import DocCoverage.Proofs.Survey.Passed

set_option autoImplicit false

namespace DocCoverage

variable {stream : TokenStream} {defines : Bool}

/-! ## The last word of a run -/

/-- **The last word of a run:** from `first` on words and white space lead to the identifier at `m`,
and to no identifier behind it. -/
structure LastWord (stream : TokenStream) (first m : Int) : Prop where
  first_le : first ≤ m
  word : stream.kind? m = some .identifier
  names : Names stream first m
  last : ∀ j, m < j → Names stream first j → stream.kind? j ≠ some .identifier

/-- From `first` on words and white space lead to no word at all. -/
def Wordless (stream : TokenStream) (first : Int) : Prop :=
  ∀ j, first ≤ j → Names stream first j → stream.kind? j ≠ some .identifier

section Run

variable {first m : Int}

/-- A run that goes on from the next token, and the token before it, are a run. -/
theorem Names.cons (hfirst : stream.kind? first = some .identifier
      ∨ stream.kind? first = some .whitespace) (h : Names stream (first + 1) m) :
    Names stream first m := by
  intro i hi hm
  rcases Int.lt_or_le first i with hlt | hge
  · exact h i hlt hm
  · rw [Int.le_antisymm hge hi]
    exact hfirst

/-- What comes behind the first token of a run is a run. -/
theorem Names.tail (h : Names stream first m) : Names stream (first + 1) m :=
  fun i hi hm => h i (by omega) hm

/-- The last word behind a token of a run is the last word from that token on. -/
theorem LastWord.cons (hfirst : stream.kind? first = some .identifier
      ∨ stream.kind? first = some .whitespace) (h : LastWord stream (first + 1) m) :
    LastWord stream first m where
  first_le := Int.le_trans (Int.le_of_lt (Int.lt_succ first)) h.first_le
  word := h.word
  names := h.names.cons hfirst
  last j hj hnames := h.last j hj hnames.tail

/-- There is one last word at most. -/
theorem LastWord.unique {m' : Int} (h : LastWord stream first m) (h' : LastWord stream first m') :
    m = m' := by
  rcases Int.lt_trichotomy m m' with hlt | heq | hgt
  · exact absurd h'.word (h.last m' hlt h'.names)
  · exact heq
  · exact absurd h.word (h'.last m hgt h.names)

end Run

/-- **The search for the name of a constant** finds the last word of the run at its place, and where
the run has no word it keeps what was found before. -/
theorem constantNameFrom_cases (stream : TokenStream) (found : Option Token) (index : Int) :
    (∃ m t, LastWord stream index m ∧ stream.at? m = some t
        ∧ constantNameFrom stream found index = some t)
      ∨ Wordless stream index ∧ constantNameFrom stream found index = found := by
  fun_induction constantNameFrom stream found index with
  | case1 found index token hat hkind ih =>
    have hhere : stream.kind? index = some .identifier := by
      rw [TokenStream.kind?, hat, Option.map_some, hkind]
    left
    rcases ih with ⟨m, t, hlast, ht, hfound⟩ | ⟨hnone, hfound⟩
    · exact ⟨m, t, hlast.cons (Or.inl hhere), ht, hfound⟩
    -- no word comes behind this one, so it is the last
    · have hself : Names stream index index := by
        intro i hi hi'
        rw [Int.le_antisymm hi' hi]
        exact Or.inl hhere
      refine ⟨index, token, ⟨Int.le_refl index, hhere, hself, fun j hj hnames => ?_⟩, hat, hfound⟩
      exact hnone j hj hnames.tail
  | case2 found index token hat hkind ih =>
    have hhere : stream.kind? index = some .whitespace := by
      rw [TokenStream.kind?, hat, Option.map_some, hkind]
    rcases ih with ⟨m, t, hlast, ht, hfound⟩ | ⟨hnone, hfound⟩
    · exact Or.inl ⟨m, t, hlast.cons (Or.inr hhere), ht, hfound⟩
    · refine Or.inr ⟨fun j hj hnames => ?_, hfound⟩
      rcases Int.lt_or_le index j with hlt | hge
      · exact hnone j hlt hnames.tail
      · rw [Int.le_antisymm hge hj, hhere]
        decide
  | case3 found index token hat hword hblank =>
    have hhere : stream.kind? index = some token.kind := by
      rw [TokenStream.kind?, hat, Option.map_some]
    refine Or.inr ⟨fun j hj hnames => ?_, rfl⟩
    rcases hnames index (Int.le_refl index) hj with hkind | hkind
    · exact absurd (Option.some.inj (hhere.symm.trans hkind)) hword
    · exact absurd (Option.some.inj (hhere.symm.trans hkind)) hblank
  | case4 found index hat =>
    have hhere : stream.kind? index = none := by
      rw [TokenStream.kind?, hat, Option.map_none]
    refine Or.inr ⟨fun j hj hnames => ?_, rfl⟩
    rcases hnames index (Int.le_refl index) hj with hkind | hkind
    · cases hhere.symm.trans hkind
    · cases hhere.symm.trans hkind

/-! ## The sign of the constant -/

/-- The token is the sign `=`. -/
def Token.isAssignment (t : Token) : Bool := t.kind == .operator && t.text == "="

/-- **The value of a constant is assigned** at the place `sign`: it holds the first sign `=` behind the
keyword, and no semicolon comes before it. -/
structure AssignedAt (stream : TokenStream) (keyword sign : Int) : Prop where
  behind : keyword < sign
  assigns : (stream.at? sign).any Token.isAssignment = true
  first : ∀ j, keyword < j → j < sign → (stream.at? j).any Token.isAssignment = false
  inside : ∀ j, keyword < j → j < sign → stream.kind? j ≠ some .semicolon

/-- **The last word before a sign** and behind a keyword. -/
structure WordBefore (stream : TokenStream) (keyword sign m : Int) : Prop where
  behind : keyword < m
  before : m < sign
  word : stream.kind? m = some .identifier
  last : ∀ j, m < j → j < sign → stream.kind? j ≠ some .identifier

section Sign

variable {keyword sign m : Int}

/-- The sign is an operator. -/
theorem AssignedAt.kind (h : AssignedAt stream keyword sign) :
    stream.kind? sign = some .operator := by
  have hassigns := h.assigns
  rw [Option.any_eq_true] at hassigns
  obtain ⟨t, hat, hsign⟩ := hassigns
  simp only [Token.isAssignment, Bool.and_eq_true, beq_iff_eq] at hsign
  rw [TokenStream.kind?, hat, Option.map_some, hsign.1]

/-- **The last word before the sign is that of the run** exactly if nothing but words and white space
leads to it. -/
theorem WordBefore.lastWord_iff (h : WordBefore stream keyword sign m)
    (hsign : AssignedAt stream keyword sign) :
    LastWord stream (keyword + 1) m ↔ Names stream (keyword + 1) m := by
  refine ⟨LastWord.names, fun hnames => ⟨h.behind, h.word, hnames, fun j hj hrun => ?_⟩⟩
  rcases Int.lt_or_le j sign with hlt | hge
  · exact h.last j hj hlt
  -- the run does not pass the sign
  · have hoperator := hsign.kind
    have hbehind := hsign.behind
    rcases hrun sign (by omega) hge with hkind | hkind <;> rw [hoperator] at hkind <;> cases hkind

end Sign

/-! ## The check -/

/-- **Inside a class the keyword of a constant** is checked under the name that the search finds, and
on its line, or else without a name on the line of the keyword. -/
theorem step_const {s : SurveyState} {keyword : Token} (hat : stream.at? s.cursor = some keyword)
    (hkind : keyword.kind = .constWord) (hinside : s.contexts.isEmpty = false) :
    let name := constantNameFrom stream none (s.cursor + 1)
    (step stream defines s).2
      = [.check (Check.run stream .classConstant s.cursor (name.elim "" (·.text))
          (name.elim keyword.line (·.line)) s.enclosing?)] := by
  intro name
  unfold step
  rw [hat]
  dsimp only
  rw [hkind]
  dsimp only
  rw [stepConst, if_neg (by rw [hinside]; exact Bool.false_ne_true)]

/-- **The name of a class constant is the last word of a run.** In every stream, a visit of a constant
keyword inside a class makes one check, of the constant. The name and the line of the check are those of the
last word that words and white space lead to from the keyword on; where there is none, the name is
empty and the line that of the keyword. So, where a sign `=` assigns the value, the check is named by
the last word before the sign exactly if nothing but words and white space leads to that word. -/
theorem constant_named_by_run (stream : TokenStream) (defines : Bool) {v : Visit}
    (hv : v ∈ (Survey.of stream defines).visits) {keyword : Token}
    (hat : stream.at? v.before.cursor = some keyword) (hkind : keyword.kind = .constWord)
    (hinside : v.before.contexts.isEmpty = false) :
    ∃ c, v.events = [.check c] ∧ c.declaration = .classConstant ∧ c.anchor = v.before.cursor
      ∧ (∀ m name, LastWord stream (v.before.cursor + 1) m → stream.at? m = some name →
          c.name = name.text ∧ c.line = name.line)
      ∧ (Wordless stream (v.before.cursor + 1) → c.name = "" ∧ c.line = keyword.line)
      ∧ ∀ sign m, AssignedAt stream v.before.cursor sign →
          WordBefore stream v.before.cursor sign m →
          (LastWord stream (v.before.cursor + 1) m ↔ Names stream (v.before.cursor + 1) m) := by
  have hevents : v.events = (step stream defines v.before).2 := by
    rw [(OnTheWay.of_mem hv).1]
    rfl
  rw [hevents, step_const hat hkind hinside]
  refine ⟨_, rfl, rfl, rfl, fun m name hlast hname => ?_, fun hnone => ?_,
    fun sign m hsign hword => hword.lastWord_iff hsign⟩
  · rcases constantNameFrom_cases stream none (v.before.cursor + 1) with
      ⟨m', t, hlast', ht, hfound⟩ | ⟨hnone, -⟩
    · rw [hlast.unique hlast'] at hname
      obtain rfl := Option.some.inj (hname.symm.trans ht)
      rw [hfound]
      exact ⟨rfl, rfl⟩
    · exact absurd hlast.word (hnone m hlast.first_le hlast.names)
  · rcases constantNameFrom_cases stream none (v.before.cursor + 1) with
      ⟨m', t, hlast', -, -⟩ | ⟨-, hfound⟩
    · exact absurd hlast'.word (hnone m' hlast'.first_le hlast'.names)
    · rw [hfound]
      exact ⟨rfl, rfl⟩

/-- A type of one word on the line before the name: the constant goes by its name, on the line of the
name. -/
theorem constant_named_by_run_behind_type :
    let stream := TokenStream.ofSource "<?php class A\x7bconst int\nC=1;\x7d"
    ∃ v ∈ (Survey.of stream false).visits,
      stream.at? v.before.cursor = some ⟨.constWord, "const", 1⟩
        ∧ v.before.contexts.isEmpty = false ∧ AssignedAt stream v.before.cursor 10
        ∧ WordBefore stream v.before.cursor 10 9
        ∧ ∃ c, v.events = [.check c] ∧ c.name = "C" ∧ c.line = 2 := by
  intro stream
  have hstream : stream = ⟨#[⟨.openTag, "<?php ", 1⟩, ⟨.classWord, "class", 1⟩,
      ⟨.whitespace, " ", 1⟩, ⟨.identifier, "A", 1⟩, ⟨.openBrace, "\x7b", 1⟩,
      ⟨.constWord, "const", 1⟩, ⟨.whitespace, " ", 1⟩, ⟨.identifier, "int", 1⟩,
      ⟨.whitespace, "\n", 1⟩, ⟨.identifier, "C", 2⟩, ⟨.operator, "=", 2⟩, ⟨.number, "1", 2⟩,
      ⟨.semicolon, ";", 2⟩, ⟨.closeBrace, "\x7d", 2⟩]⟩ := by decide +kernel
  obtain ⟨v, hv, hcursor, hinside⟩ : ∃ v ∈ (Survey.of stream false).visits,
      v.before.cursor = 5 ∧ v.before.contexts.isEmpty = false := by
    rw [hstream]
    decide +kernel
  have hat : stream.at? 5 = some ⟨.constWord, "const", 1⟩ := by rw [hstream]; rfl
  have hname : stream.at? 9 = some ⟨.identifier, "C", 2⟩ := by rw [hstream]; rfl
  have hsign : AssignedAt stream 5 10 := by
    rw [hstream]
    refine ⟨by decide, by decide, fun j hfrom hto => ?_, fun j hfrom hto => ?_⟩ <;>
      interval_cases j <;> decide
  have hword : WordBefore stream 5 10 9 := by
    refine ⟨by decide, by decide, by rw [TokenStream.kind?, hname]; rfl, fun j hfrom hto => ?_⟩
    omega
  have hnames : Names stream 6 9 := by
    rw [hstream]
    intro j hfrom hto
    interval_cases j <;> decide
  obtain ⟨c, hevents, -, -, hnamed, -, hlast⟩ :=
    constant_named_by_run stream false hv (hcursor ▸ hat) rfl hinside
  rw [hcursor] at hnamed hlast
  have hrun : LastWord stream (5 + 1) 9 := (hlast 10 9 hsign hword).2 hnames
  obtain ⟨hcalled, hline⟩ := hnamed 9 _ hrun hname
  refine ⟨v, hv, ?_⟩
  rw [hcursor]
  exact ⟨hat, hinside, hsign, hword, c, hevents, hcalled, hline⟩

/-- Behind a question mark there is no run: the constant `C` is checked without a name, although the
word before the sign `=` is there. -/
theorem nullable_constant_without_name :
    let stream := TokenStream.ofSource "<?php class A\x7bconst ?int C=1;\x7d"
    ∃ v ∈ (Survey.of stream false).visits,
      stream.kind? v.before.cursor = some .constWord ∧ v.before.contexts.isEmpty = false
        ∧ AssignedAt stream v.before.cursor 11 ∧ WordBefore stream v.before.cursor 11 10
        ∧ stream.at? 10 = some ⟨.identifier, "C", 1⟩
        ∧ ∃ c, v.events = [.check c] ∧ c.declaration = .classConstant ∧ c.name = "" := by
  intro stream
  have hstream : stream = ⟨#[⟨.openTag, "<?php ", 1⟩, ⟨.classWord, "class", 1⟩,
      ⟨.whitespace, " ", 1⟩, ⟨.identifier, "A", 1⟩, ⟨.openBrace, "\x7b", 1⟩,
      ⟨.constWord, "const", 1⟩, ⟨.whitespace, " ", 1⟩, ⟨.operator, "?", 1⟩,
      ⟨.identifier, "int", 1⟩, ⟨.whitespace, " ", 1⟩, ⟨.identifier, "C", 1⟩, ⟨.operator, "=", 1⟩,
      ⟨.number, "1", 1⟩, ⟨.semicolon, ";", 1⟩, ⟨.closeBrace, "\x7d", 1⟩]⟩ := by decide +kernel
  obtain ⟨v, hv, hcursor, hinside, c, -, hcheck⟩ : ∃ v ∈ (Survey.of stream false).visits,
      v.before.cursor = 5 ∧ v.before.contexts.isEmpty = false
        ∧ ∃ c ∈ (Survey.of stream false).checks, v.events = [.check c]
          ∧ c.declaration = .classConstant ∧ c.name = "" := by
    rw [hstream]
    decide +kernel
  refine ⟨v, hv, ?_⟩
  rw [hcursor, hstream]
  refine ⟨rfl, hinside, ?_, ?_, rfl, c, hcheck⟩
  · refine ⟨by decide, by decide, fun j hfrom hto => ?_, fun j hfrom hto => ?_⟩ <;>
      interval_cases j <;> decide
  · refine ⟨by decide, by decide, by decide, fun j hfrom hto => ?_⟩
    omega

end DocCoverage
