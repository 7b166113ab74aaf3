/-
Tables put over each other. Setting a key changes that key only, and where no table has a key twice,
a key has in the end the value of the last table that has it. That is all there is to layers: the
order of the keys inside a table does not matter.
-/
import DocCoverage.Settings.Value
import Mathlib

set_option autoImplicit false

namespace DocCoverage

/-- **No key stands twice** in a table. -/
def Distinct (entries : List (String × Value)) : Prop := (entries.map Prod.fst).Nodup

/-- The empty table. -/
theorem distinct_nil : Distinct [] := List.nodup_nil

section Entries

variable {entries later : List (String × Value)} {key : String} {value : Value}

/-! ## Looking up -/

/-- A key is that of the first entry, or is looked up behind it. -/
theorem lookupEntry_cons (name : String) :
    lookupEntry key ((name, value) :: entries)
      = if key = name then some value else lookupEntry key entries := by
  unfold lookupEntry
  rw [List.lookup_cons]
  by_cases hname : key = name
  · simp only [hname, beq_self_eq_true, if_true]
  · simp only [hname, beq_eq_false_iff_ne.2 hname, if_false]

/-- A table has the keys that a look-up finds. -/
theorem lookupEntry_isSome_iff :
    (lookupEntry key entries).isSome = true ↔ key ∈ entries.map Prod.fst := by
  unfold lookupEntry
  simp only [List.lookup_isSome_iff, List.mem_map, beq_iff_eq]
  exact exists_congr fun e => and_congr_right fun _ => eq_comm

/-- What a look-up does not find is no key of the table. -/
theorem lookupEntry_eq_none_iff : lookupEntry key entries = none ↔ key ∉ entries.map Prod.fst := by
  rw [← lookupEntry_isSome_iff, Bool.not_eq_true, Option.isSome_eq_false_iff,
    Option.isNone_iff_eq_none]

/-- What is found is an entry. -/
theorem mem_of_lookupEntry (h : lookupEntry key entries = some value) : (key, value) ∈ entries := by
  obtain ⟨front, behind, rfl, -⟩ := List.lookup_eq_some_iff.1 h
  exact List.mem_append_right _ List.mem_cons_self

/-- **What is found among the entries with a value of some kind** is what is found, if it is of that
kind. -/
theorem lookupEntry_filter (hdistinct : Distinct entries) (kind : Value → Bool) :
    lookupEntry key (entries.filter fun e => kind e.2) = (lookupEntry key entries).filter kind := by
  induction entries with
  | nil => rfl
  | cons first rest ih =>
    obtain ⟨name, v⟩ := first
    obtain ⟨hfresh, hrest⟩ := List.nodup_cons.1 hdistinct
    have hkept := ih hrest
    rw [List.filter_cons, lookupEntry_cons]
    by_cases hname : key = name
    · -- what comes later does not have the name of the first entry
      rw [hname, lookupEntry_eq_none_iff.2 hfresh] at hkept
      rw [if_pos hname, hname]
      cases hkind : kind v with
      | true => simp only [if_true, lookupEntry_cons, Option.filter_some_pos hkind]
      | false =>
        simp only [Bool.false_eq_true, if_false, hkept, Option.filter_some, hkind,
          Option.filter_none]
    · rw [if_neg hname, ← hkept]
      cases kind v with
      | true => simp only [if_true, lookupEntry_cons, hname, if_false]
      | false => simp only [Bool.false_eq_true, if_false]

/-! ## Setting keys -/

/-- A value that is put in the place of another is found there. -/
theorem lookupEntry_replace (other : String) :
    lookupEntry other (entries.map fun e => if e.1 == key then (key, value) else e)
      = (lookupEntry other entries).map fun v => if other = key then value else v := by
  induction entries with
  | nil => rfl
  | cons first rest ih =>
    obtain ⟨name, v⟩ := first
    rw [List.map_cons, lookupEntry_cons]
    by_cases hname : name = key
    · subst hname
      simp only [beq_self_eq_true, if_true, lookupEntry_cons, ih]
      by_cases hother : other = name <;> simp [hother]
    · rw [if_neg (mt beq_iff_eq.1 hname), lookupEntry_cons, ih]
      by_cases hother : other = name <;> simp [hother, hname]

/-- **A key that is set** has its new value, and all others have theirs. -/
theorem lookupEntry_setEntry (other : String) :
    lookupEntry other (setEntry entries key value)
      = if other = key then some value else lookupEntry other entries := by
  by_cases hany : entries.any (·.1 == key) = true
  · rw [setEntry, if_pos hany, lookupEntry_replace]
    by_cases hother : other = key
    · have hfound : (lookupEntry key entries).isSome = true := by
        simp only [List.any_eq_true, beq_iff_eq] at hany
        exact lookupEntry_isSome_iff.2 (List.mem_map.2 hany)
      obtain ⟨v, hv⟩ := Option.isSome_iff_exists.1 hfound
      simp only [hother, if_true, hv, Option.map_some]
    · simp only [hother, if_false, Option.map_id']
  · rw [setEntry, if_neg hany]
    have hnone : lookupEntry key entries = none := by
      simp only [List.any_eq_true, beq_iff_eq] at hany
      exact lookupEntry_eq_none_iff.2 fun hmem => hany (List.mem_map.1 hmem)
    unfold lookupEntry at hnone ⊢
    rw [List.lookup_append]
    by_cases hother : other = key
    · subst hother
      simp [hnone]
    · have hsingle : List.lookup other [(key, value)] = none := by
        rw [List.lookup_cons, beq_eq_false_iff_ne.2 hother]
        rfl
      rw [hsingle, Option.or_none, if_neg hother]

/-- The keys of a table stay in their places; a new one goes to the end. -/
theorem keys_setEntry :
    (setEntry entries key value).map Prod.fst
      = if key ∈ entries.map Prod.fst then entries.map Prod.fst
        else entries.map Prod.fst ++ [key] := by
  have hany : entries.any (·.1 == key) = true ↔ key ∈ entries.map Prod.fst := by
    simp only [List.any_eq_true, beq_iff_eq, List.mem_map]
  unfold setEntry
  by_cases hkey : key ∈ entries.map Prod.fst
  · rw [if_pos hkey, if_pos (hany.2 hkey), List.map_map]
    refine List.map_congr_left fun e _ => ?_
    simp only [Function.comp_apply, beq_iff_eq]
    split
    · rename_i heq
      exact heq.symm
    · rfl
  · rw [if_neg hkey, if_neg (hkey ∘ hany.1), List.map_append]
    rfl

/-- A table has the key that is set, and those it had. -/
theorem mem_keys_setEntry {other : String} :
    other ∈ (setEntry entries key value).map Prod.fst
      ↔ other ∈ entries.map Prod.fst ∨ other = key := by
  rw [keys_setEntry]
  by_cases hkey : key ∈ entries.map Prod.fst
  · rw [if_pos hkey]
    refine (or_iff_left_of_imp ?_).symm
    rintro rfl
    exact hkey
  · rw [if_neg hkey, List.mem_append, List.mem_singleton]

/-- Setting a key brings no key in twice. -/
theorem distinct_setEntry (h : Distinct entries) : Distinct (setEntry entries key value) := by
  unfold Distinct
  rw [keys_setEntry]
  by_cases hkey : key ∈ entries.map Prod.fst
  · rw [if_pos hkey]
    exact h
  · rw [if_neg hkey]
    exact h.append (List.nodup_singleton key) (List.disjoint_singleton.2 hkey)

/-- What is in a table with a key set is the new entry or was there. -/
theorem mem_setEntry {e : String × Value} (h : e ∈ setEntry entries key value) :
    e = (key, value) ∨ e ∈ entries := by
  unfold setEntry at h
  split at h
  · obtain ⟨old, hold, rfl⟩ := List.mem_map.1 h
    split
    · exact Or.inl rfl
    · exact Or.inr hold
  · rcases List.mem_append.1 h with hold | hnew
    · exact Or.inr hold
    · exact Or.inl (List.mem_singleton.1 hnew)

/-! ## Putting tables over each other -/

/-- **A table over another one** wins wherever it has a key. -/
theorem lookupEntry_mergeEntries (hdistinct : Distinct later) :
    lookupEntry key (mergeEntries entries later)
      = (lookupEntry key later).or (lookupEntry key entries) := by
  unfold mergeEntries
  induction later generalizing entries with
  | nil => rfl
  | cons first rest ih =>
    obtain ⟨name, v⟩ := first
    obtain ⟨hfresh, hrest⟩ := List.nodup_cons.1 hdistinct
    rw [List.foldl_cons, ih hrest, lookupEntry_setEntry, lookupEntry_cons]
    by_cases hname : key = name
    · -- nothing sets the first key of the later table again
      have hnone : lookupEntry key rest = none :=
        lookupEntry_eq_none_iff.2 (hname ▸ hfresh)
      rw [if_pos hname, if_pos hname, hnone, Option.none_or, Option.some_or]
    · rw [if_neg hname, if_neg hname]

/-- A table over another one has the keys of both. -/
theorem mem_keys_mergeEntries :
    key ∈ (mergeEntries entries later).map Prod.fst
      ↔ key ∈ entries.map Prod.fst ∨ key ∈ later.map Prod.fst := by
  unfold mergeEntries
  induction later generalizing entries with
  | nil => simp
  | cons first rest ih =>
    rw [List.foldl_cons, ih, mem_keys_setEntry, List.map_cons, List.mem_cons, or_assoc]

/-- Putting a table over another one brings no key in twice. -/
theorem distinct_mergeEntries (h : Distinct entries) : Distinct (mergeEntries entries later) := by
  unfold mergeEntries
  induction later generalizing entries with
  | nil => exact h
  | cons first rest ih => exact ih (distinct_setEntry h)

end Entries

/-- **The value that the highest of several layers gives a key,** the last one being the highest. -/
def highest (key : String) : List (List (String × Value)) → Option Value
  | [] => none
  | layer :: above => (highest key above).or (lookupEntry key layer)

section Layers

variable {layers : List (List (String × Value))} {entries : List (String × Value)} {key : String}

/-- What the highest layer gives a key stands in some layer. -/
theorem exists_layer_of_highest {value : Value} (h : highest key layers = some value) :
    ∃ layer ∈ layers, lookupEntry key layer = some value := by
  induction layers with
  | nil => cases h
  | cons layer above ih =>
    rw [highest, Option.or_eq_some_iff] at h
    rcases h with habove | ⟨-, hlayer⟩
    · obtain ⟨other, hother, hvalue⟩ := ih habove
      exact ⟨other, List.mem_cons_of_mem _ hother, hvalue⟩
    · exact ⟨layer, List.mem_cons_self, hlayer⟩

/-- **All layers together** give a key the value that the highest one gives it. -/
theorem lookupEntry_foldl_mergeEntries (hdistinct : ∀ layer ∈ layers, Distinct layer) :
    lookupEntry key (layers.foldl mergeEntries entries)
      = (highest key layers).or (lookupEntry key entries) := by
  induction layers generalizing entries with
  | nil => rfl
  | cons layer above ih =>
    obtain ⟨hlayer, habove⟩ := List.forall_mem_cons.1 hdistinct
    rw [List.foldl_cons, ih habove, lookupEntry_mergeEntries hlayer, highest, Option.or_assoc]

/-- All layers together have the keys of each of them. -/
theorem mem_keys_foldl_mergeEntries :
    key ∈ (layers.foldl mergeEntries entries).map Prod.fst
      ↔ key ∈ entries.map Prod.fst ∨ ∃ layer ∈ layers, key ∈ layer.map Prod.fst := by
  induction layers generalizing entries with
  | nil => simp
  | cons layer above ih =>
    rw [List.foldl_cons, ih, mem_keys_mergeEntries, or_assoc]
    simp

/-- All layers together have no key twice. -/
theorem distinct_foldl_mergeEntries (h : Distinct entries) :
    Distinct (layers.foldl mergeEntries entries) := by
  induction layers generalizing entries with
  | nil => exact h
  | cons layer above ih => exact ih (distinct_mergeEntries h)

end Layers

end DocCoverage
