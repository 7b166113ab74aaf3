/-
No table that a TOML document describes has a key twice, at whatever depth it stands. What makes a
table larger is one of three things: a key with its value, which is refused where the key is taken;
a table on the way to a key, which takes the place of what was there; and a new element of a list of
tables. Each keeps the tables below as they are, so that it is enough to look at the place where
something changes.

Readers of values call each other, and what they read is judged for all of them at once, by
induction on the fuel.
-/
import DocCoverage.Proofs.Settings.Entries
import DocCoverage.Toml.Document

set_option autoImplicit false

namespace DocCoverage

/-- **No table in a value has a key twice,** at whatever depth. -/
inductive Value.Keyed : Value → Prop where
  | plain {v : Value} (h : Toml.hasParts v = false) : Keyed v
  | list {items : List Value} (h : ∀ item ∈ items, Keyed item) : Keyed (.list items)
  | table {entries : List (String × Value)} (hdistinct : Distinct entries)
    (hbelow : ∀ e ∈ entries, Keyed e.2) : Keyed (.table entries)

namespace Toml

/-- **A table that has no key twice,** nor has any table below it. -/
structure WellKeyed (entries : Entries) : Prop where
  distinct : Distinct entries
  below : ∀ e ∈ entries, e.2.Keyed

/-! ## Tables -/

/-- A value is a table without repeated keys exactly if its entries are one. -/
theorem keyed_table_iff {entries : Entries} : (Value.table entries).Keyed ↔ WellKeyed entries := by
  constructor
  · intro h
    cases h with
    | plain h => cases h
    | table hdistinct hbelow => exact ⟨hdistinct, hbelow⟩
  · exact fun h => .table h.distinct h.below

/-- The elements of a list without repeated keys are without them too. -/
theorem keyed_list_iff {items : List Value} :
    (Value.list items).Keyed ↔ ∀ item ∈ items, item.Keyed := by
  constructor
  · intro h
    cases h with
    | plain h => cases h
    | list h => exact h
  · exact .list

namespace WellKeyed

variable {entries changed : Entries} {name : String} {v : Value}

/-- The empty table. -/
theorem nil : WellKeyed [] := ⟨List.nodup_nil, fun _ he => absurd he List.not_mem_nil⟩

/-- What is found in a table. -/
theorem of_lookup (h : WellKeyed entries) (hfound : lookupEntry name entries = some v) : v.Keyed :=
  h.below _ (mem_of_lookupEntry hfound)

/-- A key is set. -/
theorem setEntry (h : WellKeyed entries) (hv : v.Keyed) :
    WellKeyed (setEntry entries name v) where
  distinct := distinct_setEntry h.distinct
  below e he := by
    rcases mem_setEntry he with rfl | hold
    · exact hv
    · exact h.below e hold

/-- A new key comes in. -/
theorem concat (h : WellKeyed entries) (hfresh : lookupEntry name entries = none) (hv : v.Keyed) :
    WellKeyed (entries ++ [(name, v)]) where
  distinct := by
    unfold Distinct
    rw [List.map_append]
    exact List.Nodup.append h.distinct (List.nodup_singleton name)
      (List.disjoint_singleton.2 (lookupEntry_eq_none_iff.1 hfresh))
  below e he := by
    rcases List.mem_append.1 he with hold | hnew
    · exact h.below e hold
    · rw [List.mem_singleton.1 hnew]
      exact hv

/-- A key that is not taken gets its value. -/
theorem addNew (h : WellKeyed entries) (hv : v.Keyed)
    (hadd : addNew name v entries = some changed) : WellKeyed changed := by
  unfold Toml.addNew at hadd
  cases hfound : lookupEntry name entries with
  | some old =>
    rw [hfound] at hadd
    cases hadd
  | none =>
    rw [hfound] at hadd
    obtain rfl := Option.some.inj hadd
    exact h.concat hfound hv

/-- A list of tables gets a new element. -/
theorem addElement (h : WellKeyed entries)
    (hadd : Document.addElement name entries = some changed) : WellKeyed changed := by
  have hempty : (Value.table []).Keyed := keyed_table_iff.2 nil
  unfold Document.addElement at hadd
  split at hadd
  · rename_i hfound
    obtain rfl := Option.some.inj hadd
    refine h.concat hfound (keyed_list_iff.2 ?_)
    intro item hitem
    rw [List.mem_singleton.1 hitem]
    exact hempty
  · rename_i items hfound
    obtain rfl := Option.some.inj hadd
    refine h.setEntry (keyed_list_iff.2 ?_)
    intro item hitem
    rcases List.mem_append.1 hitem with hold | hnew
    · exact keyed_list_iff.1 (h.of_lookup hfound) item hold
    · rw [List.mem_singleton.1 hnew]
      exact hempty
  · cases hadd

/-- **A change at the end of a path** that brings no key in twice there brings none in twice
anywhere. -/
theorem changeAt {throughLists : Bool} {act : Entries → Option Entries} {path : List String}
    (h : WellKeyed entries)
    (hact : ∀ {before after}, WellKeyed before → act before = some after → WellKeyed after)
    (hchange : changeAt throughLists act path entries = some changed) : WellKeyed changed := by
  induction path generalizing entries changed with
  | nil => exact hact h hchange
  | cons name path ih =>
    rw [Toml.changeAt] at hchange
    split at hchange
    · obtain ⟨_, hmap, hset⟩ := Option.bind_eq_some_iff.1 hchange
      obtain ⟨below, hbelow, rfl⟩ := Option.map_eq_some_iff.1 hmap
      obtain rfl := Option.some.inj hset
      exact h.setEntry (keyed_table_iff.2 (ih nil hbelow))
    · rename_i below hfound
      obtain ⟨_, hmap, hset⟩ := Option.bind_eq_some_iff.1 hchange
      obtain ⟨below', hbelow, rfl⟩ := Option.map_eq_some_iff.1 hmap
      obtain rfl := Option.some.inj hset
      exact h.setEntry (keyed_table_iff.2 (ih (keyed_table_iff.1 (h.of_lookup hfound)) hbelow))
    · -- the last element of the list is what changes
      rename_i items hfound
      have hitems := keyed_list_iff.1 (h.of_lookup hfound)
      split at hchange
      · split at hchange
        · rename_i last hlast
          obtain ⟨_, hmap, hset⟩ := Option.bind_eq_some_iff.1 hchange
          obtain ⟨last', hlast', rfl⟩ := Option.map_eq_some_iff.1 hmap
          obtain rfl := Option.some.inj hset
          have hkeyed := hitems _ (List.mem_of_getLast? hlast)
          refine h.setEntry (keyed_list_iff.2 ?_)
          intro item hitem
          rcases List.mem_append.1 hitem with hold | hnew
          · exact hitems item (List.dropLast_subset items hold)
          · rw [List.mem_singleton.1 hnew]
            exact keyed_table_iff.2 (ih (keyed_table_iff.1 hkeyed) hlast')
        · cases hchange
      · cases hchange
    · cases hchange

end WellKeyed

/-! ## Values -/

/-- A number in a base of its own is whole. -/
theorem hasParts_of_based {cs rest : List Char} {v : Value} (h : based? cs = some (v, rest)) :
    hasParts v = false := by
  unfold based? at h
  split at h
  · obtain ⟨_, -, heq⟩ := Option.map_eq_some_iff.1 h
    cases heq
    rfl
  · cases h

/-- A decimal number is a number. -/
theorem hasParts_of_decimalNumber {cs rest : List Char} {v : Value}
    (h : decimalNumber? cs = some (v, rest)) : hasParts v = false := by
  obtain ⟨_, -, heq⟩ := Option.bind_eq_some_iff.1 h
  dsimp only at heq
  split at heq
  · cases heq
    rfl
  · split at heq
    · cases heq
    · cases heq
      rfl

/-- A number with a name is kept as it is written. -/
theorem hasParts_of_namedNumber {cs rest : List Char} {v : Value}
    (h : namedNumber? cs = some (v, rest)) : hasParts v = false := by
  unfold namedNumber? at h
  dsimp only at h
  split at h
  · cases h
    rfl
  · cases h
    rfl
  · cases h

/-- **A value without parts** is read as one. -/
theorem hasParts_of_scalar {cs rest : List Char} {v : Value} (h : scalar? cs = some (v, rest)) :
    hasParts v = false := by
  unfold scalar? at h
  split at h
  · rename_i found hdated
    obtain ⟨_, -, rfl⟩ := Option.map_eq_some_iff.1 hdated
    dsimp only at h
    split at h
    · cases h
      rfl
    · cases h
  · split at h
    · cases h
      rfl
    · simp only [HOrElse.hOrElse, OrElse.orElse, Option.orElse_eq_or, Option.or_eq_some_iff] at h
      rcases h with h | ⟨-, h | ⟨-, h⟩⟩
      · exact hasParts_of_based h
      · exact hasParts_of_decimalNumber h
      · exact hasParts_of_namedNumber h

/-- What the readers of values read within some fuel has no key twice. -/
structure ReadsKeyed (fuel : Nat) : Prop where
  value : ∀ {cs rest v}, value? fuel cs = some (v, rest) → v.Keyed
  items : ∀ {cs rest items}, items? fuel cs = some (items, rest) → ∀ item ∈ items, item.Keyed
  pairs : ∀ {closed entries cs rest read}, WellKeyed entries →
    pairs? fuel closed entries cs = some (read, rest) → WellKeyed read
  pair : ∀ {cs rest key v}, pair? fuel cs = some (key, v, rest) → v.Keyed

namespace ReadsKeyed

variable {fuel : Nat}

/-- A value, with its parts read before. -/
theorem value_succ (h : ReadsKeyed fuel) {cs rest : List Char} {v : Value}
    (hread : value? (fuel + 1) cs = some (v, rest)) : v.Keyed := by
  unfold value? at hread
  split at hread
  · obtain ⟨_, -, heq⟩ := Option.map_eq_some_iff.1 hread
    cases heq
    exact .plain rfl
  · obtain ⟨_, -, heq⟩ := Option.map_eq_some_iff.1 hread
    cases heq
    exact .plain rfl
  · cases hread
    exact .plain rfl
  · cases hread
    exact .plain rfl
  · obtain ⟨_, hitems, heq⟩ := Option.map_eq_some_iff.1 hread
    cases heq
    exact .list (h.items hitems)
  · split at hread
    · cases hread
      exact keyed_table_iff.2 .nil
    · obtain ⟨_, hpairs, heq⟩ := Option.map_eq_some_iff.1 hread
      cases heq
      exact keyed_table_iff.2 (h.pairs .nil hpairs)
  · exact .plain (hasParts_of_scalar hread)

/-- The items of a list. -/
theorem items_succ (h : ReadsKeyed fuel) {cs rest : List Char} {items : List Value}
    (hread : items? (fuel + 1) cs = some (items, rest)) : ∀ item ∈ items, item.Keyed := by
  rw [items?] at hread
  obtain ⟨_, -, hread⟩ := Option.bind_eq_some_iff.1 hread
  split at hread
  · cases hread
    exact fun item hitem => absurd hitem List.not_mem_nil
  · obtain ⟨⟨first, _⟩, hfirst, hread⟩ := Option.bind_eq_some_iff.1 hread
    obtain ⟨_, -, hread⟩ := Option.bind_eq_some_iff.1 hread
    split at hread
    · cases hread
      exact List.forall_mem_cons.2 ⟨h.value hfirst, fun item hitem => absurd hitem List.not_mem_nil⟩
    · obtain ⟨⟨others, _⟩, hothers, hread⟩ := Option.bind_eq_some_iff.1 hread
      cases hread
      exact List.forall_mem_cons.2 ⟨h.value hfirst, h.items hothers⟩
    · cases hread

/-- The pairs of an inline table, behind those read before. -/
theorem pairs_succ (h : ReadsKeyed fuel) {closed : List (List String)} {entries read : Entries}
    {cs rest : List Char} (hentries : WellKeyed entries)
    (hread : pairs? (fuel + 1) closed entries cs = some (read, rest)) : WellKeyed read := by
  rw [pairs?] at hread
  obtain ⟨⟨key, v, _⟩, hpair, hread⟩ := Option.bind_eq_some_iff.1 hread
  dsimp only at hread
  split at hread
  · cases hread
  · obtain ⟨added, hadded, hread⟩ := Option.bind_eq_some_iff.1 hread
    have hkeyed : WellKeyed added :=
      hentries.changeAt (fun hbefore hadd => hbefore.addNew (h.pair hpair) hadd) hadded
    split at hread
    · cases hread
      exact hkeyed
    · exact h.pairs hkeyed hread
    · cases hread

/-- A key and its value. -/
theorem pair_succ (h : ReadsKeyed fuel) {cs rest : List Char} {key : Key} {v : Value}
    (hread : pair? (fuel + 1) cs = some (key, v, rest)) : v.Keyed := by
  rw [pair?] at hread
  obtain ⟨⟨_, _⟩, -, hread⟩ := Option.bind_eq_some_iff.1 hread
  dsimp only at hread
  split at hread
  · obtain ⟨⟨_, _⟩, hvalue, hread⟩ := Option.bind_eq_some_iff.1 hread
    cases hread
    exact h.value hvalue
  · cases hread

/-- **Nothing that is read has a key twice,** whatever the fuel. -/
theorem all (fuel : Nat) : ReadsKeyed fuel := by
  induction fuel with
  | zero =>
    -- nothing is read without fuel
    constructor
    · intro cs rest v hread
      cases hread
    · intro cs rest items hread
      cases hread
    · intro closed entries cs rest read _ hread
      cases hread
    · intro cs rest key v hread
      cases hread
  | succ fuel ih => exact ⟨ih.value_succ, ih.items_succ, ih.pairs_succ, ih.pair_succ⟩

end ReadsKeyed

/-! ## Documents -/

namespace Document

variable {d after : Document} {cs rest : List Char}

/-- A key gets its value. -/
theorem wellKeyed_assign {key : Key} {v : Value} (h : WellKeyed d.entries) (hv : v.Keyed)
    (hassign : d.assign key v = some after) : WellKeyed after.entries := by
  unfold assign at hassign
  dsimp only at hassign
  split at hassign
  · cases hassign
  · obtain ⟨_, hchange, heq⟩ := Option.bind_eq_some_iff.1 hassign
    obtain rfl := Option.some.inj heq
    exact h.changeAt (fun hbefore hadd => hbefore.addNew hv hadd) hchange

/-- A header begins a table. -/
theorem wellKeyed_openTable {path : List String} (h : WellKeyed d.entries)
    (hopen : d.openTable path = some after) : WellKeyed after.entries := by
  unfold openTable at hopen
  dsimp only at hopen
  split at hopen
  · cases hopen
  · obtain ⟨_, hchange, heq⟩ := Option.bind_eq_some_iff.1 hopen
    obtain rfl := Option.some.inj heq
    exact h.changeAt (fun hbefore hsame => Option.some.inj hsame ▸ hbefore) hchange

/-- A header begins an element of a list of tables. -/
theorem wellKeyed_openElement {key : Key} (h : WellKeyed d.entries)
    (hopen : d.openElement key = some after) : WellKeyed after.entries := by
  unfold openElement at hopen
  dsimp only at hopen
  split at hopen
  · cases hopen
  · obtain ⟨_, hchange, heq⟩ := Option.bind_eq_some_iff.1 hopen
    obtain rfl := Option.some.inj heq
    exact h.changeAt (fun hbefore hadd => hbefore.addElement hadd) hchange

/-- A header of either kind. -/
theorem wellKeyed_header (h : WellKeyed d.entries)
    (hheader : d.header? cs = some (after, rest)) : WellKeyed after.entries := by
  have hsettled : WellKeyed d.settle.entries := h
  unfold header? at hheader
  dsimp only at hheader
  split at hheader
  · obtain ⟨⟨_, _⟩, -, hheader⟩ := Option.bind_eq_some_iff.1 hheader
    obtain ⟨opened, hopen, hheader⟩ := Option.bind_eq_some_iff.1 hheader
    split at hheader
    · cases hheader
      exact wellKeyed_openElement hsettled hopen
    · cases hheader
  · obtain ⟨⟨_, _⟩, -, hheader⟩ := Option.bind_eq_some_iff.1 hheader
    obtain ⟨opened, hopen, hheader⟩ := Option.bind_eq_some_iff.1 hheader
    split at hheader
    · cases hheader
      exact wellKeyed_openTable hsettled hopen
    · cases hheader

/-- **What stands at the beginning of a line** brings no key in twice. -/
theorem wellKeyed_statement (h : WellKeyed d.entries)
    (hstatement : d.statement? cs = some (after, rest)) : WellKeyed after.entries := by
  unfold statement? at hstatement
  split at hstatement
  · cases hstatement
    exact h
  · split at hstatement
    · cases hstatement
      exact h
    · split at hstatement
      · exact wellKeyed_header h hstatement
      · obtain ⟨⟨_, _, _⟩, hpair, hstatement⟩ := Option.bind_eq_some_iff.1 hstatement
        obtain ⟨_, hassign, heq⟩ := Option.bind_eq_some_iff.1 hstatement
        cases heq
        exact wellKeyed_assign h ((ReadsKeyed.all _).pair hpair) hassign

/-- **The lines of a document** bring no key in twice. -/
theorem wellKeyed_lines {fuel : Nat} (h : WellKeyed d.entries)
    (hlines : lines? fuel d cs = some after) : WellKeyed after.entries := by
  induction fuel generalizing d cs with
  | zero => cases hlines
  | succ fuel ih =>
    cases cs with
    | nil =>
      obtain rfl := Option.some.inj hlines
      exact h
    | cons c cs =>
      obtain ⟨⟨_, _⟩, hstatement, hlines⟩ := Option.bind_eq_some_iff.1 hlines
      obtain ⟨_, -, hlines⟩ := Option.bind_eq_some_iff.1 hlines
      exact ih (wellKeyed_statement h hstatement) hlines

end Document

/-- **No table of a document has a key twice.** -/
theorem wellKeyed_table {source : List Char} {entries : Entries}
    (h : table? source = some entries) : WellKeyed entries := by
  obtain ⟨d, hlines, rfl⟩ := Option.map_eq_some_iff.1 h
  exact Document.wellKeyed_lines .nil hlines

/-- **No table of a file has a key twice.** -/
theorem wellKeyed_tableOfBytes {bytes : List UInt8} {entries : Entries}
    (h : tableOfBytes? bytes = some entries) : WellKeyed entries := by
  unfold tableOfBytes? at h
  split at h
  · exact wellKeyed_table h
  · cases h

end Toml

end DocCoverage
