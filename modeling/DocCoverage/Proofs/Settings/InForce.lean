/-
The settings in force. A setting has the value of the highest layer that has its key, and where no
layer has it, the value of a setting that nobody set; since no layer has a key twice, this is told
key by key.

Loading ends well exactly if all layers can be read, all their keys are settings, and the settings
in force are accepted. They are then what is loaded.
-/
import DocCoverage.Proofs.Settings.Accepted
import DocCoverage.Proofs.Settings.Layers

set_option autoImplicit false

namespace DocCoverage.Settings

/-! ## Changes -/

section InForce

variable {s t : Settings} {entries : List (String × Value)} {stack : List (List (String × Value))}

/-- Every key of a table is the name of a setting. -/
def Known (entries : List (String × Value)) : Prop :=
  ∀ key ∈ entries.map Prod.fst, ∃ field : Field, field.key = key

/-- Whether all keys are settings can be told by looking them up. -/
theorem known_iff : Known entries ↔ (entries.all fun e => (Field.ofKey? e.1).isSome) = true := by
  unfold Known
  simp only [List.all_eq_true, List.mem_map, forall_exists_index, and_imp, forall_apply_eq_imp_iff₂,
    Option.isSome_iff_exists, Field.ofKey?_eq_some_iff]

/-- The settings with those that a table has changed. -/
def changedBy (s : Settings) (entries : List (String × Value)) : Settings :=
  ⟨fun field => (lookupEntry field.key entries).getD (s.value field)⟩

/-- **The settings in force:** each has the value of the highest layer that has it. -/
def inForce (stack : List (List (String × Value))) : Settings :=
  ⟨fun field => (highest field.key stack).getD field.default⟩

/-- The value in force is that of the highest layer that has the key, or the one nobody set. -/
@[simp] theorem inForce_value (field : Field) :
    (inForce stack).value field = (highest field.key stack).getD field.default := rfl

/-- A setting that is changed again has the later value. -/
theorem changedBy_cons {key : String} {value : Value} {field : Field} (hfield : field.key = key)
    (hfresh : key ∉ entries.map Prod.fst) :
    (s.set field value).changedBy entries = s.changedBy ((key, value) :: entries) := by
  unfold changedBy
  congr 1
  funext other
  rw [lookupEntry_cons, value_set]
  by_cases hother : other = field
  · have hkey : other.key = key := hother ▸ hfield
    rw [if_pos hother, if_pos hkey, hkey, lookupEntry_eq_none_iff.2 hfresh]
    rfl
  · have hkey : other.key ≠ key := fun h => hother (Field.key_injective (h.trans hfield.symm))
    rw [if_neg hother, if_neg hkey]

/-- **Settings are changed by a table** exactly if all its keys are settings. -/
theorem assign_eq_ok_iff (hdistinct : Distinct entries) :
    s.assign entries = .ok t ↔ Known entries ∧ t = s.changedBy entries := by
  induction entries generalizing s with
  | nil =>
    rw [assign, Except.ok.injEq, eq_comm]
    exact (and_iff_right fun key hkey => absurd hkey List.not_mem_nil).symm
  | cons first rest ih =>
    obtain ⟨key, value⟩ := first
    obtain ⟨hfresh, hrest⟩ := List.nodup_cons.1 hdistinct
    have hknown : Known ((key, value) :: rest)
        ↔ (∃ field : Field, field.key = key) ∧ Known rest := List.forall_mem_cons
    rw [assign, hknown]
    cases hkey : Field.ofKey? key with
    | some field =>
      have hfield := Field.ofKey?_eq_some_iff.1 hkey
      have hexists : ∃ known : Field, known.key = key := ⟨field, hfield⟩
      rw [ih hrest, changedBy_cons hfield hfresh, and_assoc, and_iff_right hexists]
    | none =>
      constructor
      · intro h
        cases h
      · rintro ⟨⟨⟨field, hfield⟩, -⟩, -⟩
        rw [Field.ofKey?_eq_some_iff.2 hfield] at hkey
        cases hkey

/-- All layers together give the settings in force. -/
theorem changedBy_merged (hdistinct : ∀ layer ∈ stack, Distinct layer) :
    Settings.default.changedBy (stack.foldl mergeEntries []) = inForce stack := by
  unfold changedBy inForce
  congr 1
  funext field
  rw [lookupEntry_foldl_mergeEntries hdistinct]
  exact congrArg (Option.getD · field.default) Option.or_none

/-- A name that is no setting counts as an error of type. -/
theorem typeText_of_assign {e : SettingsError} (h : s.assign entries = .error e) :
    ∃ text, e.typeText? = some text := by
  induction entries generalizing s with
  | nil => cases h
  | cons first rest ih =>
    obtain ⟨key, value⟩ := first
    rw [assign] at h
    split at h
    · exact ih h
    · obtain rfl := Except.error.inj h
      split
      · exact ⟨_, rfl⟩
      · exact ⟨_, rfl⟩

/-- **Settings with changes** are accepted exactly if the changes are settings and what comes of
them is accepted. -/
theorem change_eq_ok_iff (hdistinct : Distinct entries) :
    s.change entries = .ok t ↔ Known entries ∧ (s.changedBy entries).check = .ok t := by
  unfold change
  cases hassign : s.assign entries with
  | ok changed =>
    obtain ⟨hknown, rfl⟩ := (assign_eq_ok_iff hdistinct).1 hassign
    exact (and_iff_right hknown).symm
  | error e =>
    constructor
    · intro h
      cases h
    · rintro ⟨hknown, -⟩
      rw [(assign_eq_ok_iff hdistinct).2 ⟨hknown, rfl⟩] at hassign
      cases hassign

/-- All layers together have known keys exactly if each of them has. -/
theorem known_merged_iff :
    Known (stack.foldl mergeEntries []) ↔ ∀ layer ∈ stack, Known layer := by
  unfold Known
  constructor
  · intro h layer hlayer key hkey
    exact h key (mem_keys_foldl_mergeEntries.2 (Or.inr ⟨layer, hlayer, hkey⟩))
  · intro h key hkey
    rcases mem_keys_foldl_mergeEntries.1 hkey with hnone | ⟨layer, hlayer, hkey⟩
    · exact absurd hnone List.not_mem_nil
    · exact h layer hlayer key hkey

end InForce

/-- Settings that are accepted at last were accepted at once. -/
theorem ofEntries_of_accept {entries : List (String × Value)} {settings : Settings}
    (h : accept entries = .ok settings) : ofEntries entries = .ok settings := by
  unfold accept at h
  split at h
  · rename_i other hother
    rw [hother, Except.ok.inj h]
  · split at h
    · cases h
    · cases h

/-- **Settings are loaded** exactly if all layers are read, all their keys are settings, and the
settings in force are accepted. What is loaded is what is in force. -/
theorem load_eq_ok_iff {s : Surroundings} {named : Option Path} {overrides : List (String × Value)}
    {settings : Settings} (hdistinct : Distinct overrides) :
    load s named overrides = .ok settings
      ↔ ∃ stack, layers s named overrides = .ok stack ∧ (∀ layer ∈ stack, Known layer)
        ∧ (inForce stack).check = .ok settings := by
  unfold load
  constructor
  · intro h
    obtain ⟨stack, hlayers, h⟩ := Result.ok_of_bind h
    obtain ⟨hknown, hcheck⟩ :=
      (change_eq_ok_iff (distinct_foldl_mergeEntries distinct_nil)).1 (ofEntries_of_accept h)
    rw [changedBy_merged (distinct_of_layers hdistinct hlayers)] at hcheck
    exact ⟨stack, hlayers, known_merged_iff.1 hknown, hcheck⟩
  · rintro ⟨stack, hlayers, hknown, hcheck⟩
    have hmerged := changedBy_merged (distinct_of_layers hdistinct hlayers)
    have hchange : ofEntries (stack.foldl mergeEntries []) = .ok settings := by
      refine (change_eq_ok_iff (distinct_foldl_mergeEntries distinct_nil)).2 ?_
      rw [hmerged]
      exact ⟨known_merged_iff.2 hknown, hcheck⟩
    rw [hlayers]
    change accept (stack.foldl mergeEntries []) = .ok settings
    rw [accept, hchange]

end DocCoverage.Settings
