/-
Which values of settings are accepted, and which of them break the check off. Suffixes have to be
texts that begin with a dot, and the encoding has to have a known name. What is at fault is refused
in words, with three exceptions: a suffix that is no text, a name of an encoding that holds the
character zero, and the encoding in which not even an empty text can be written end the check in a
way that is no problem with settings.
-/
import DocCoverage.Settings.Check

set_option autoImplicit false

namespace DocCoverage.Settings

/-! ## Suffixes -/

/-- **Suffixes are accepted** exactly if they are texts that begin with a dot. -/
theorem checkSuffixes_eq_ok_iff {items : List Value} :
    checkSuffixes items = .ok ()
      ↔ ∃ suffixes : List String, items = suffixes.map .text
        ∧ ∀ suffix ∈ suffixes, suffix.startsWith "." = true := by
  constructor
  · intro h
    induction items with
    | nil => exact ⟨[], rfl, fun suffix hsuffix => absurd hsuffix List.not_mem_nil⟩
    | cons item rest ih =>
      cases item with
      | text s =>
        rw [checkSuffixes] at h
        by_cases hdot : s.startsWith "." = true
        · rw [if_pos hdot] at h
          obtain ⟨suffixes, rfl, hdotted⟩ := ih h
          exact ⟨s :: suffixes, rfl, List.forall_mem_cons.2 ⟨hdot, hdotted⟩⟩
        · rw [if_neg hdot] at h
          cases h
      | null | bool b | int n | list items | table entries | literal kind written => cases h
  · rintro ⟨suffixes, rfl, hdotted⟩
    induction suffixes with
    | nil => rfl
    | cons s rest ih =>
      obtain ⟨hdot, hdotted⟩ := List.forall_mem_cons.1 hdotted
      rw [List.map_cons, checkSuffixes, if_pos hdot, ih hdotted]

/-- Going through suffixes breaks off only at one that is no text. -/
theorem exists_no_text_of_checkSuffixes {items : List Value} {e : SettingsError}
    (h : checkSuffixes items = .error e) :
    (∃ key value reason, e = .invalid key value reason)
      ∨ e = .suffixNotText ∧ ∃ item ∈ items, ∀ s, item ≠ .text s := by
  induction items with
  | nil => cases h
  | cons item rest ih =>
    cases item with
    | text s =>
      rw [checkSuffixes] at h
      by_cases hdot : s.startsWith "." = true
      · rw [if_pos hdot] at h
        rcases ih h with hinvalid | ⟨he, item, hitem, hno⟩
        · exact Or.inl hinvalid
        · exact Or.inr ⟨he, item, List.mem_cons_of_mem _ hitem, hno⟩
      · rw [if_neg hdot] at h
        exact Or.inl ⟨_, _, _, (Except.error.inj h).symm⟩
    | null | bool b | int n | list items | table entries | literal kind written =>
      refine Or.inr ⟨(Except.error.inj h).symm, _, List.mem_cons_self, ?_⟩
      intro s hs
      cases hs

/-- **The setting of the suffixes is accepted** exactly if it is not empty and can be gone through,
and all that it is gone through by are texts that begin with a dot. -/
theorem checkExtensions_eq_ok_iff {v : Value} :
    checkExtensions v = .ok ()
      ↔ v.isOn = true ∧ ∃ suffixes : List String, v.elements = .ok (suffixes.map .text)
        ∧ ∀ suffix ∈ suffixes, suffix.startsWith "." = true := by
  unfold checkExtensions
  by_cases hon : v.isOn = true
  · rw [if_pos hon]
    cases helements : v.elements with
    | ok items => simp only [checkSuffixes_eq_ok_iff, hon, true_and, Except.ok.injEq]
    | error f => simp only [reduceCtorEq, false_and, exists_false, and_false]
  · rw [if_neg hon]
    simp only [reduceCtorEq, hon, false_and]

/-- **The check of the suffixes breaks off** only at one that is no text; anything else is refused
in words. -/
theorem error_of_checkExtensions {v : Value} {e : SettingsError}
    (h : checkExtensions v = .error e) :
    (∃ key value reason, e = .invalid key value reason) ∨ (∃ typeName, e = .notIterable typeName)
      ∨ e = .suffixNotText
        ∧ ∃ items, v.elements = .ok items ∧ ∃ item ∈ items, ∀ s, item ≠ .text s := by
  unfold checkExtensions at h
  by_cases hon : v.isOn = true
  · rw [if_pos hon] at h
    cases helements : v.elements with
    | ok items =>
      rw [helements] at h
      rcases exists_no_text_of_checkSuffixes h with hinvalid | ⟨hodd, hitem⟩
      · exact Or.inl hinvalid
      · exact Or.inr (Or.inr ⟨hodd, items, rfl, hitem⟩)
    | error f =>
      rw [helements] at h
      exact Or.inr (Or.inl ⟨_, (Except.error.inj h).symm⟩)
  · rw [if_neg hon] at h
    exact Or.inl ⟨_, _, _, (Except.error.inj h).symm⟩

/-! ## The encoding -/

/-- **The setting of the encoding is accepted** exactly if it is the name of an encoding in which
something can be written, without the character zero in it. -/
theorem checkEncoding_eq_ok_iff {v : Value} :
    checkEncoding v = .ok ()
      ↔ ∃ name, v = .text name ∧ name.contains '\x00' = false
        ∧ ∃ encoding, Encoding.ofName? name = some encoding ∧ encoding ≠ .undefined := by
  cases v with
  | text name =>
    rw [checkEncoding]
    simp only [Value.text.injEq, exists_eq_left']
    by_cases hzero : name.contains '\x00' = true
    · simp only [hzero, if_true, reduceCtorEq, Bool.true_eq_false, false_and]
    · cases hknown : Encoding.ofName? name with
      | none => simp only [hzero, reduceCtorEq, Bool.false_eq_true, if_false, false_and,
          exists_false, and_false]
      | some encoding =>
        cases encoding <;> simp [hzero]
  | null | bool b | int n | list items | table entries | literal kind written =>
    simp only [checkEncoding, reduceCtorEq, false_and, exists_false]

/-- **The check of the encoding breaks off** only at a name that holds the character zero, or at the
encoding in which nothing can be written; anything else is refused in words. -/
theorem error_of_checkEncoding {v : Value} {e : SettingsError} (h : checkEncoding v = .error e) :
    (∃ key value reason, e = .invalid key value reason)
      ∨ (∃ typeName, e = .encodingNotText typeName)
      ∨ (e = .zeroInEncoding ∧ ∃ name, v = .text name ∧ name.contains '\x00' = true)
      ∨ e = .unusableEncoding
        ∧ ∃ name, v = .text name ∧ Encoding.ofName? name = some .undefined := by
  cases v with
  | text name =>
    rw [checkEncoding] at h
    by_cases hzero : name.contains '\x00' = true
    · rw [if_pos hzero] at h
      exact Or.inr (Or.inr (Or.inl ⟨(Except.error.inj h).symm, name, rfl, hzero⟩))
    · rw [if_neg hzero] at h
      split at h
      · exact Or.inl ⟨_, _, _, (Except.error.inj h).symm⟩
      · next hundefined =>
        exact Or.inr (Or.inr (Or.inr ⟨(Except.error.inj h).symm, name, rfl, hundefined⟩))
      · cases h
  | null | bool b | int n | list items | table entries | literal kind written =>
    exact Or.inr (Or.inl ⟨_, (Except.error.inj h).symm⟩)

/-! ## All settings -/

/-- **Settings are accepted** exactly if their suffixes and their encoding are, and then they stay
as they are. -/
theorem check_eq_ok_iff {s t : Settings} :
    s.check = .ok t ↔ t = s ∧ checkExtensions (s.value .extensions) = .ok ()
      ∧ checkEncoding (s.value .encoding) = .ok () := by
  unfold check
  cases checkExtensions (s.value .extensions) with
  | error e => simp only [reduceCtorEq, false_and, and_false]
  | ok _ =>
    cases checkEncoding (s.value .encoding) with
    | error e => simp only [reduceCtorEq, and_false]
    | ok _ => simp only [Except.ok.injEq, and_true, eq_comm]

/-- A check that fails fails for the suffixes, or for the encoding. -/
theorem check_eq_error {s : Settings} {e : SettingsError} (h : s.check = .error e) :
    checkExtensions (s.value .extensions) = .error e
      ∨ checkEncoding (s.value .encoding) = .error e := by
  unfold check at h
  cases hextensions : checkExtensions (s.value .extensions) with
  | error e' =>
    rw [hextensions] at h
    exact Or.inl (congrArg Except.error (Except.error.inj h))
  | ok _ =>
    cases hencoding : checkEncoding (s.value .encoding) with
    | error e' =>
      rw [hextensions, hencoding] at h
      exact Or.inr (congrArg Except.error (Except.error.inj h))
    | ok _ =>
      rw [hextensions, hencoding] at h
      cases h

end DocCoverage.Settings
