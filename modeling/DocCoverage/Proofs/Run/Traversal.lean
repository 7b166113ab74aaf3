/-
The search through a directory comes to exactly the entries that are chosen, each once, and in the
order of their names. A directory comes before all that lies below it, and of two of its entries the
one with the smaller name comes with all that lies below it before the other; so the names that lead
to the stops are in lexicographic order, and this is what a search that goes down first does with
sorted entries.

`Route.LeadsTo` says which stops a route has, and it is closed under what routes are made of. The
main proof goes down the tree: the depth that the search is given is greater than the height of what
is left below, and the stops below a directory are the directory and the stops below its entries.
-/
import DocCoverage.Proofs.Files.Chosen
import DocCoverage.Proofs.Run.Isolation
import Mathlib

set_option autoImplicit false

namespace DocCoverage

/-! ## Stops below a directory -/

/-- A stop below a starting directory, by the names that lead there. -/
inductive Place where
  | directory (names : List String)
  | file (names : List String)

namespace Place

/-- The names that lead to a place. -/
def names : Place → List String
  | .directory names => names
  | .file names => names

/-- The stop at a place. -/
def stop (root : Path) : Place → Stop
  | .directory names => .directory (root.below names)
  | .file names => .file (root.below names)

/-- The names that lead to a place are those of a directory to go through or a file to check. -/
def IsChosen (fs : FileSystem) (root : Path) (entries : List (String × Node))
    (suffixes patterns : List String) : Place → Prop
  | .directory names => ChosenDirectory entries patterns names
  | .file names => ChosenFile fs root entries suffixes patterns names

end Place

/-- **A route leads to some places:** it comes to each of them once and to no others, in the order
of their names, and it comes to its end. -/
def Route.LeadsTo {α : Type} (root : Path) (route : Route α) (a : α) (places : Place → Prop) :
    Prop :=
  ∃ stops : List Place, route = ⟨stops.map (Place.stop root), .ok a⟩
    ∧ stops.Pairwise (fun p q => p.names < q.names) ∧ ∀ p, p ∈ stops ↔ places p

namespace Route.LeadsTo

variable {α β γ : Type} {root : Path} {a : α} {b : β} {places more : Place → Prop}

/-- A result at hand leads nowhere. -/
theorem done (root : Path) (a : α) : LeadsTo root (Progress.quiet (.ok a)) a fun _ => False :=
  ⟨[], rfl, List.Pairwise.nil, fun _ => ⟨fun h => absurd h List.not_mem_nil, False.elim⟩⟩

/-- A single stop leads to its place. -/
theorem note (root : Path) (p : Place) : LeadsTo root (Progress.note (p.stop root)) () (· = p) :=
  ⟨[p], rfl, List.pairwise_singleton _ _, fun _ => List.mem_singleton⟩

/-- Places may be described in other words. -/
theorem congr {route : Route α} (h : LeadsTo root route a places)
    (hplaces : ∀ p, places p ↔ more p) : LeadsTo root route a more := by
  obtain ⟨stops, hroute, hsorted, hmem⟩ := h
  exact ⟨stops, hroute, hsorted, fun p => (hmem p).trans (hplaces p)⟩

/-- One route and then another lead to the places of both, if those of the second come later. -/
theorem andThen {route : Route α} {next : α → Route β} (hroute : LeadsTo root route a places)
    (hnext : LeadsTo root (next a) b more)
    (hlater : ∀ p q, places p → more q → p.names < q.names) :
    LeadsTo root (route.andThen next) b fun p => places p ∨ more p := by
  obtain ⟨stops, rfl, hsorted, hmem⟩ := hroute
  obtain ⟨stops', hstops', hsorted', hmem'⟩ := hnext
  refine ⟨stops ++ stops', ?_, ?_, fun p => ?_⟩
  · rw [Progress.andThen_of_ok next rfl, hstops', List.map_append]
  · refine List.pairwise_append.2 ⟨hsorted, hsorted', fun p hp q hq => ?_⟩
    exact hlater p q ((hmem p).1 hp) ((hmem' q).1 hq)
  · rw [List.mem_append, hmem, hmem']

/-- A result at the end leads nowhere else. -/
theorem andThen_done {route : Route α} (h : LeadsTo root route a places) (b : β) :
    LeadsTo root (route.andThen fun _ => .quiet (.ok b)) b places := by
  refine (h.andThen (done root b) fun p q _ hq => False.elim hq).congr fun p => ?_
  exact iff_of_eq (or_false _)

/-- A route for each element of a list leads to the places of all of them, if those of later
elements come later. -/
theorem each {act : γ → Route Unit} {placesOf : γ → Place → Prop} {l : List γ}
    (h : ∀ c ∈ l, LeadsTo root (act c) () (placesOf c))
    (hlater : l.Pairwise fun c d => ∀ p q, placesOf c p → placesOf d q → p.names < q.names) :
    LeadsTo root (Progress.each act l) () fun p => ∃ c ∈ l, placesOf c p := by
  induction l with
  | nil =>
    refine (done root ()).congr fun p => ⟨False.elim, ?_⟩
    rintro ⟨c, hc, -⟩
    cases hc
  | cons c rest ih =>
    obtain ⟨hfirst, hrest⟩ := List.forall_mem_cons.1 h
    obtain ⟨hfirstLater, hrestLater⟩ := List.pairwise_cons.1 hlater
    have hboth : LeadsTo root ((act c).andThen fun _ => Progress.each act rest) ()
        fun p => placesOf c p ∨ ∃ d ∈ rest, placesOf d p := by
      refine hfirst.andThen (ih hrest hrestLater) ?_
      rintro p q hp ⟨d, hd, hq⟩
      exact hfirstLater d hd p q hp hq
    refine hboth.congr fun p => ?_
    simp only [List.mem_cons, exists_eq_or_imp]

end Route.LeadsTo

/-! ## The order of names -/

/-- The names of a directory come before the names of what lies below it. -/
theorem lt_of_below {names later : List String} {name : String} (h : names ++ [name] <+: later) :
    names < later := by
  obtain ⟨rest, rfl⟩ := h
  have hlt : names ++ [] < names ++ name :: rest := List.append_left_lt (List.nil_lt_cons name rest)
  rwa [List.append_nil, ← List.singleton_append, ← List.append_assoc] at hlt

/-- What lies below the entry with the smaller name comes first. -/
theorem lt_of_entries {names first later : List String} {name name' : String} (h : name < name')
    (hfirst : names ++ [name] <+: first) (hlater : names ++ [name'] <+: later) : first < later := by
  obtain ⟨rest, rfl⟩ := hfirst
  obtain ⟨rest', rfl⟩ := hlater
  rw [List.append_assoc, List.append_assoc]
  exact List.append_left_lt (List.cons_lt_cons_iff.2 (Or.inl h))

/-- The names of a directory are gone through in their order, none twice. -/
theorem sorted_names {names : List String} (h : names.Nodup) :
    (names.mergeSort fun a b => !decide (b < a)).Pairwise (· < ·) := by
  have hle : (names.mergeSort fun a b => !decide (b < a)).Pairwise (· ≤ ·) := by
    refine (List.pairwise_mergeSort ?_ ?_ names).imp fun hab => ?_
    · intro a b c hab hbc
      simp only [Bool.not_eq_true', decide_eq_false_iff_not, String.not_lt] at *
      exact String.le_trans hab hbc
    · intro a b
      simp only [Bool.or_eq_true, Bool.not_eq_true', decide_eq_false_iff_not, String.not_lt]
      exact String.le_total a b
    · simp only [Bool.not_eq_true', decide_eq_false_iff_not, String.not_lt] at hab
      exact hab
  have hnodup := (List.mergeSort_perm names fun a b => !decide (b < a)).nodup_iff.2 h
  exact (hle.and hnodup).imp fun hab => lt_of_le_of_ne hab.1 hab.2

/-! ## The search -/

section Search

open FileSystem (nodeBelow entry?)

variable {fs : FileSystem} {settings : Settings} {root : Path}
  {entries under : List (String × Node)} {suffixes patterns names : List String} {name : String}

/-- The entries of a directory that are kept, in the order of their names. -/
def keptNames (fs : FileSystem) (root : Path) (suffixes patterns names listed : List String) :
    List String :=
  (listed.mergeSort fun a b => !decide (b < a)).filter fun name =>
    (Selection.ofTexts suffixes patterns false).keeps fs root (root.below (names ++ [name]))

/-- The kept entries of a directory are those that are chosen. -/
theorem Reached.mem_keptNames (h : Reached fs root entries patterns names under)
    (hsearch : Searchable fs root entries patterns) :
    name ∈ keptNames fs root suffixes patterns names (under.map Prod.fst)
      ↔ (∃ node, entry? name under = some node)
        ∧ (ChosenDirectory entries patterns (names ++ [name])
          ∨ ChosenFile fs root entries suffixes patterns (names ++ [name])) := by
  unfold keptNames
  rw [List.mem_filter, List.mem_mergeSort, Node.mem_names_iff]
  refine and_congr_right fun hentry => ?_
  obtain ⟨node, hnode⟩ := hentry
  obtain ⟨accepted, haccepts, hiff⟩ := h.accepts_child suffixes hsearch hnode
  unfold Selection.keeps
  rw [haccepts]
  exact hiff

/-- **A directory that is reached is looked through:** its chosen entries are gone through in the
order of their names. -/
theorem Reached.entriesToCheck_eq (h : Reached fs root entries patterns names under)
    (hsearch : Searchable fs root entries patterns) (hselects : settings.Selects suffixes patterns)
    (hlinks : (settings.value .followLinks).isOn = false) :
    entriesToCheck fs settings root (root.below names)
      = .ok ((keptNames fs root suffixes patterns names (under.map Prod.fst)).map
          fun name => root.below (names ++ [name])) := by
  obtain ⟨listed, hlist⟩ := hsearch.listed names h.chosen
  obtain rfl := h.list_eq hlist
  rw [entriesToCheck_of_list root hselects hlist, hlinks]
  have hverdicts : ∀ path ∈ sortedEntries (root.below names) (under.map Prod.fst), ∃ accepted,
      (Selection.ofTexts suffixes patterns false).accepts fs root path = .ok accepted := by
    intro path hpath
    obtain ⟨name, hname, rfl⟩ := mem_sortedEntries.1 hpath
    obtain ⟨node, hnode⟩ := Node.mem_names_iff.1 hname
    obtain ⟨accepted, haccepts, -⟩ := h.accepts_child suffixes hsearch hnode
    rw [Path.child_below]
    exact ⟨accepted, haccepts⟩
  rw [Selection.filter_eq _ hverdicts]
  unfold sortedEntries keptNames
  rw [List.filter_map, List.map_congr_left fun name _ => root.child_below names name]
  simp only [Function.comp_def, Path.child_below]

/-- The way for an entry of a directory, with a depth left. -/
def entryRoute (fs : FileSystem) (settings : Settings) (root : Path) (depth : Nat) (entry : Path) :
    Route Unit :=
  (Progress.quiet (FileError.lift (fs.isDirectory? entry))).andThen fun isDirectory =>
    if isDirectory then
      (directoryRouteFrom fs settings root depth entry).andThen fun _ => .quiet (.ok ())
    else Progress.note (.file entry)

/-- A directory with some entries to check is gone through entry by entry. -/
theorem directoryRouteFrom_succ {depth : Nat} {directory : Path} {chosen : List Path}
    (h : entriesToCheck fs settings root directory = .ok chosen) :
    directoryRouteFrom fs settings root (depth + 1) directory
      = (Progress.note (.directory directory)).andThen fun _ =>
        (Progress.each (entryRoute fs settings root depth) chosen).andThen fun _ =>
          .quiet (.ok true) := by
  rw [directoryRouteFrom, h]
  rfl

/-- What is chosen from a place on. -/
def chosenFrom (fs : FileSystem) (root : Path) (entries : List (String × Node))
    (suffixes patterns names : List String) (p : Place) : Prop :=
  names <+: p.names ∧ p.IsChosen fs root entries suffixes patterns

/-- **The way for a kept entry** leads to what is chosen from the entry on, if the way through it
does so where it is a directory. -/
theorem Reached.leadsTo_entry (h : Reached fs root entries patterns names under)
    (hsearch : Searchable fs root entries patterns) {depth : Nat}
    (hname : name ∈ keptNames fs root suffixes patterns names (under.map Prod.fst))
    (hbelow : ∀ {below : List (String × Node)},
      Reached fs root entries patterns (names ++ [name]) below →
      Node.heightOfEntries below < Node.heightOfEntries under →
      (directoryRouteFrom fs settings root depth (root.below (names ++ [name]))).LeadsTo root true
        (chosenFrom fs root entries suffixes patterns (names ++ [name]))) :
    (entryRoute fs settings root depth (root.below (names ++ [name]))).LeadsTo root ()
      (chosenFrom fs root entries suffixes patterns (names ++ [name])) := by
  obtain ⟨⟨node, hentry⟩, hchosen⟩ := (h.mem_keptNames hsearch).1 hname
  unfold entryRoute
  rcases hchosen with hdirectory | hfile
  · obtain ⟨below, locked, hthere⟩ := hdirectory.there
    rw [h.nodeBelow_append name []] at hthere
    obtain ⟨hreached, hanswer, hheight⟩ := h.child hsearch hthere hdirectory.kept
    rw [hanswer]
    exact (hbelow hreached hheight).andThen_done ()
  · rw [FileSystem.isDirectory_of_isFile hfile.file]
    refine (Route.LeadsTo.note root (.file (names ++ [name]))).congr fun p => ?_
    constructor
    · rintro rfl
      exact ⟨List.prefix_refl _, hfile⟩
    · rintro ⟨hunder, hp⟩
      -- nothing lies below a file, so the entry itself is the only place from there on
      cases p with
      | directory later =>
        obtain ⟨below, locked, hthere⟩ := hp.there
        exact absurd rfl ((h.eq_of_file hsearch hfile hunder hthere).2 below locked)
      | file later =>
        obtain ⟨node', hthere⟩ := hp.there
        exact congrArg Place.file (h.eq_of_file hsearch hfile hunder hthere).1

/-- What is chosen from a directory on is the directory and what is chosen from its kept entries
on. -/
theorem Reached.chosenFrom_iff (h : Reached fs root entries patterns names under)
    (hsearch : Searchable fs root entries patterns) (p : Place) :
    p = .directory names
        ∨ (∃ name ∈ keptNames fs root suffixes patterns names (under.map Prod.fst),
          chosenFrom fs root entries suffixes patterns (names ++ [name]) p)
      ↔ chosenFrom fs root entries suffixes patterns names p := by
  constructor
  · rintro (rfl | ⟨name, -, hunder, hchosen⟩)
    · exact ⟨List.prefix_refl _, h.chosen⟩
    · exact ⟨(List.prefix_append _ _).trans hunder, hchosen⟩
  · rintro ⟨hunder, hchosen⟩
    have hkind : ChosenDirectory entries patterns p.names
        ∨ ChosenFile fs root entries suffixes patterns p.names := by
      cases p with
      | directory later => exact Or.inl hchosen
      | file later => exact Or.inr hchosen
    rcases h.entry_chosen hunder hkind with hhere | ⟨name, node, hentry, hbelow, hkept⟩
    · left
      cases p with
      | directory later => exact congrArg Place.directory hhere
      | file later =>
        have hsame : later = names := hhere
        have hfile : fs.isFile? (root.below names) = .ok true := hsame ▸ hchosen.file
        cases h.isDirectory.symm.trans (FileSystem.isDirectory_of_isFile hfile)
    · right
      exact ⟨name, (h.mem_keptNames hsearch).2 ⟨⟨node, hentry⟩, hkept⟩, hbelow, hchosen⟩

/-- **The way through a directory that is reached** leads to the directories and files that are
chosen from it on. -/
theorem Reached.leadsTo (h : Reached fs root entries patterns names under)
    (hsearch : Searchable fs root entries patterns) (hselects : settings.Selects suffixes patterns)
    (hlinks : (settings.value .followLinks).isOn = false) {depth : Nat}
    (hdepth : Node.heightOfEntries under < depth) :
    (directoryRouteFrom fs settings root depth (root.below names)).LeadsTo root true
      (chosenFrom fs root entries suffixes patterns names) := by
  -- the depth shrinks with every directory on the way down, but what is below shrinks with it
  induction depth generalizing names under with
  | zero => exact absurd hdepth (Nat.not_lt_zero _)
  | succ depth ih =>
    have hentry : ∀ name ∈ keptNames fs root suffixes patterns names (under.map Prod.fst),
        (entryRoute fs settings root depth (root.below (names ++ [name]))).LeadsTo root ()
          (chosenFrom fs root entries suffixes patterns (names ++ [name])) := by
      intro name hname
      exact h.leadsTo_entry hsearch hname fun hreached hheight => ih hreached (by omega)
    have hlater : (keptNames fs root suffixes patterns names (under.map Prod.fst)).Pairwise
        fun n m => ∀ p q, chosenFrom fs root entries suffixes patterns (names ++ [n]) p →
          chosenFrom fs root entries suffixes patterns (names ++ [m]) q → p.names < q.names := by
      have hsorted := (sorted_names (Node.nodup_of_wellFormed h.formed)).filter fun name =>
        (Selection.ofTexts suffixes patterns false).keeps fs root (root.below (names ++ [name]))
      exact hsorted.imp fun hlt p q hp hq => lt_of_entries hlt hp.1 hq.1
    have hfirst : ∀ p q, p = Place.directory names →
        (∃ name ∈ keptNames fs root suffixes patterns names (under.map Prod.fst),
          chosenFrom fs root entries suffixes patterns (names ++ [name]) q) →
        p.names < q.names := by
      rintro p q rfl ⟨name, -, hunder, -⟩
      exact lt_of_below hunder
    rw [directoryRouteFrom_succ (h.entriesToCheck_eq hsearch hselects hlinks), Progress.each_map]
    have hbelow := (Route.LeadsTo.each hentry hlater).andThen_done true
    exact ((Route.LeadsTo.note root (.directory names)).andThen hbelow hfirst).congr
      (h.chosenFrom_iff hsearch)

/-- The tree below a starting directory is not too high for a search. -/
theorem Searchable.height_lt_depth (h : Searchable fs root entries patterns) :
    Node.heightOfEntries entries < fs.depth := by
  obtain ⟨location, locked, hfind⟩ := h.found
  have hnode := FileSystem.nodeAt_of_find hfind
  have hheight := (FileSystem.of_nodeBelow h.formed hnode).2
  unfold FileSystem.depth FileSystem.maxLinks
  omega

end Search

/-! ## What is handed over -/

/-- The stops that a run comes to on a route: all of them, up to the first whose visit breaks the
run off. -/
def Stop.reached (fs : FileSystem) (settings : Settings) : List Stop → List Stop
  | [] => []
  | stop :: rest =>
    stop :: if (stop.visit fs settings).result.isOk then Stop.reached fs settings rest else []

/-- **The files that the search through a directory hands over to be read,** in order. -/
def filesHandedOver (fs : FileSystem) (settings : Settings) (root : Path) : List Path :=
  (Stop.reached fs settings (directoryRoute fs settings root root).notes).filterMap Stop.file?

/-- Where no visit breaks off, a run comes to all stops. -/
theorem Stop.reached_eq_self {fs : FileSystem} {settings : Settings} {stops : List Stop}
    (h : ∀ stop ∈ stops, (stop.visit fs settings).result = .ok ()) :
    Stop.reached fs settings stops = stops := by
  induction stops with
  | nil => rfl
  | cons stop rest ih =>
    obtain ⟨hfirst, hrest⟩ := List.forall_mem_cons.1 h
    rw [Stop.reached, hfirst, ih hrest]
    rfl

/-- Visits note what is noted at the stops that they come to. -/
theorem Stop.notes_each_visit (fs : FileSystem) (settings : Settings) (stops : List Stop) :
    (Progress.each (Stop.visit fs settings) stops).notes
      = (Stop.reached fs settings stops).flatMap fun stop => (stop.visit fs settings).notes := by
  induction stops with
  | nil => rfl
  | cons stop rest ih =>
    rw [Progress.each_cons, Stop.reached, List.flatMap_cons]
    cases hvisit : (stop.visit fs settings).result with
    | error f =>
      rw [Progress.andThen_of_error _ hvisit]
      exact (List.append_nil _).symm
    | ok u =>
      rw [Progress.andThen_of_ok _ hvisit, ih]
      rfl

/-- **A route that is taken notes what is noted at the stops that are come to,** whether it is taken
to its end or breaks off. -/
theorem Route.notes_taken_eq_reached {α : Type} (route : Route α) (fs : FileSystem)
    (settings : Settings) :
    (route.taken (fun _ => fs) settings).notes
      = (Stop.reached fs settings route.notes).flatMap fun stop =>
        (stop.visit fs settings).notes := by
  rw [Route.taken_eq, ← Stop.notes_each_visit]
  cases hvisits : (Progress.each (Stop.visit fs settings) route.notes).result with
  | error f => rw [Progress.andThen_of_error _ hvisits]
  | ok u =>
    rw [Progress.andThen_of_ok _ hvisits]
    exact List.append_nil _

/-- At a directory the check takes the way through it. -/
theorem checkDirectory_eq_taken {fs : FileSystem} {settings : Settings} {root path : Path}
    (h : fs.isDirectory? path = .ok true) :
    checkDirectory fs settings root path
      = (directoryRoute fs settings root path).taken (fun _ => fs) settings := by
  have hexists := FileSystem.exists_eq_true_iff.2 (FileSystem.holds_of_isDirectory h)
  unfold checkDirectory
  rw [hexists, h]
  rfl

namespace Place

/-- The names of a place that is a file. -/
def file? : Place → Option (List String)
  | .file names => some names
  | .directory _ => none

/-- The names of a place that is a directory. -/
def directory? : Place → Option (List String)
  | .directory names => some names
  | .file _ => none

theorem file?_eq_some_iff {p : Place} {names : List String} :
    p.file? = some names ↔ p = .file names := by
  cases p <;> simp [file?]

theorem directory?_eq_some_iff {p : Place} {names : List String} :
    p.directory? = some names ↔ p = .directory names := by
  cases p <;> simp [directory?]

/-- The files among stops are at the places that are files. -/
theorem files_map_stop (root : Path) (stops : List Place) :
    (stops.map (Place.stop root)).filterMap Stop.file?
      = (stops.filterMap Place.file?).map root.below := by
  rw [List.filterMap_map, List.map_filterMap]
  refine List.filterMap_congr fun p _ => ?_
  cases p <;> rfl

/-- There are as many directories among stops as places that are directories. -/
theorem length_directories_map_stop (root : Path) (stops : List Place) :
    ((stops.map (Place.stop root)).filter Stop.isDirectory).length
      = (stops.filterMap Place.directory?).length := by
  induction stops with
  | nil => rfl
  | cons p rest ih =>
    cases p with
    | directory names =>
      rw [List.map_cons, List.filter_cons_of_pos rfl, List.length_cons, ih]
      rfl
    | file names =>
      rw [List.map_cons, List.filter_cons_of_neg Bool.false_ne_true, ih]
      rfl

/-- Names that are picked from stops in the order of their names are in that order. -/
theorem pairwise_filterMap {stops : List Place} {pick : Place → Option (List String)}
    (hsorted : stops.Pairwise fun p q => p.names < q.names)
    (hpick : ∀ {p names}, pick p = some names → p.names = names) :
    (stops.filterMap pick).Pairwise (· < ·) := by
  rw [List.pairwise_filterMap]
  refine hsorted.imp fun hlt names hp names' hq => ?_
  rw [← hpick hp, ← hpick hq]
  exact hlt

/-- A visit at a chosen place does not break off, if no file to check is given up. -/
theorem result_visit {fs : FileSystem} {settings : Settings} {root : Path}
    {entries : List (String × Node)} {suffixes patterns : List String} {p : Place}
    (haccepted : settings.check = .ok settings) (hp : p.IsChosen fs root entries suffixes patterns)
    (hkept : ∀ names, ChosenFile fs root entries suffixes patterns names →
      ∀ f, ¬ GivenUp fs settings (root.below names) f) :
    ((p.stop root).visit fs settings).result = .ok () := by
  cases p with
  | directory names => rfl
  | file names =>
    have hholds : ∀ path, Stop.file (root.below names) = .file path → fs.Holds path := by
      intro path hpath
      obtain rfl := Stop.file.inj hpath
      exact FileSystem.holds_of_isFile hp.file
    rcases Stop.result_visit haccepted hholds with ⟨hok, -⟩ | ⟨f, -, path, hpath, hgiven⟩
    · exact hok
    · obtain rfl := Stop.file.inj hpath
      exact absurd hgiven (hkept names hp f)

end Place

/-- The way through a starting directory leads to everything that is chosen below it. -/
theorem Searchable.directoryRoute_leadsTo {fs : FileSystem} {settings : Settings} {root : Path}
    {entries : List (String × Node)} {suffixes patterns : List String}
    (hsearch : Searchable fs root entries patterns) (hplain : root.Plain)
    (hselects : settings.Selects suffixes patterns)
    (hlinks : (settings.value .followLinks).isOn = false) :
    (directoryRoute fs settings root root).LeadsTo root true
      (Place.IsChosen fs root entries suffixes patterns) := by
  have hroute :=
    (hsearch.reached hplain).leadsTo hsearch hselects hlinks hsearch.height_lt_depth
  rw [Path.below_nil] at hroute
  exact hroute.congr fun p => ⟨fun h => h.2, fun h => ⟨List.nil_prefix, h⟩⟩

/-- **The search through a directory hands over exactly the chosen files,** each once and in the
order of their names, and goes through exactly the chosen directories, the starting one and those
below it. What it notes is what the visits at the stops it comes to note.

The settings are accepted, their suffixes and patterns are texts, and links are not followed. Every
directory to go through can be listed, of no entry that nothing excludes does the operating system
refuse to tell whether it is a directory, and no file to check is given up. -/
theorem checkDirectory_hands_over_chosen {fs : FileSystem} {settings : Settings} {text : String}
    {entries : List (String × Node)} {suffixes patterns : List String}
    (haccepted : settings.check = .ok settings) (hselects : settings.Selects suffixes patterns)
    (hlinks : (settings.value .followLinks).isOn = false)
    (hsearch : Searchable fs (.ofText text) entries patterns)
    (hkept : ∀ names, ChosenFile fs (.ofText text) entries suffixes patterns names →
      ∀ f, ¬ GivenUp fs settings ((Path.ofText text).below names) f) :
    let root := Path.ofText text
    let search := checkDirectory fs settings root root
    let reached := Stop.reached fs settings (directoryRoute fs settings root root).notes
    search.result = .ok true
      ∧ search.notes = reached.flatMap (fun stop => (stop.visit fs settings).notes)
      ∧ (filesHandedOver fs settings root).Nodup
      ∧ (∃ files : List (List String), filesHandedOver fs settings root = files.map root.below
        ∧ files.Pairwise (· < ·)
        ∧ ∀ names, names ∈ files ↔ ChosenFile fs root entries suffixes patterns names)
      ∧ ∃ directories : List (List String), directories.Nodup
        ∧ (∀ names, names ∈ directories ↔ names ≠ [] ∧ ChosenDirectory entries patterns names)
        ∧ (Journal.counters search.notes).directories = 1 + directories.length := by
  intro root search reached
  have hplain := Path.plain_ofText text
  obtain ⟨stops, hroute, hsorted, hmem⟩ := hsearch.directoryRoute_leadsTo hplain hselects hlinks
  have hvisits : ∀ stop ∈ stops.map (Place.stop root),
      (stop.visit fs settings).result = .ok () := by
    intro stop hstop
    obtain ⟨p, hp, rfl⟩ := List.mem_map.1 hstop
    exact Place.result_visit haccepted ((hmem p).1 hp) hkept
  have hsearched : search
      = (directoryRoute fs settings root root).taken (fun _ => fs) settings := by
    have hdirectory := (hsearch.reached hplain).isDirectory
    rw [Path.below_nil] at hdirectory
    exact checkDirectory_eq_taken hdirectory
  have hresult : search.result = .ok true := by
    rw [hsearched, Route.result_taken_eq_ok_iff, hroute]
    exact ⟨hvisits, rfl⟩
  have hnotes : search.notes = reached.flatMap fun stop => (stop.visit fs settings).notes := by
    rw [hsearched, Route.notes_taken_eq_reached]
  have hhanded : filesHandedOver fs settings root
      = (stops.filterMap Place.file?).map root.below := by
    unfold filesHandedOver
    rw [hroute, Stop.reached_eq_self hvisits, Place.files_map_stop]
  have hfiles : (stops.filterMap Place.file?).Pairwise (· < ·) :=
    Place.pairwise_filterMap hsorted fun h => by rw [Place.file?_eq_some_iff.1 h]; rfl
  have hdirectories : (stops.filterMap Place.directory?).Nodup :=
    (Place.pairwise_filterMap hsorted
      fun h => by rw [Place.directory?_eq_some_iff.1 h]; rfl).imp fun h => ne_of_lt h
  have hmemDirectories : ∀ names, names ∈ stops.filterMap Place.directory?
      ↔ ChosenDirectory entries patterns names := by
    intro names
    simp only [List.mem_filterMap, Place.directory?_eq_some_iff, exists_eq_right]
    exact hmem (.directory names)
  refine ⟨hresult, hnotes, ?_, ⟨stops.filterMap Place.file?, hhanded, hfiles, fun names => ?_⟩,
    (stops.filterMap Place.directory?).erase [], hdirectories.erase [], fun names => ?_, ?_⟩
  · rw [hhanded]
    exact List.Nodup.map root.below_injective (hfiles.imp fun h => ne_of_lt h)
  · simp only [List.mem_filterMap, Place.file?_eq_some_iff, exists_eq_right]
    exact hmem (.file names)
  · rw [hdirectories.mem_erase_iff, hmemDirectories]
  · -- the starting directory is counted too, and it is the only one without a name
    have hroot : [] ∈ stops.filterMap Place.directory? :=
      (hmemDirectories []).2 (hsearch.reached hplain).chosen
    have hpositive := List.length_pos_of_mem hroot
    obtain ⟨-, -, -, hcount⟩ := Route.journal_of_taken (hsearched ▸ hresult)
    rw [hsearched, hcount, hroute, Place.length_directories_map_stop,
      List.length_erase_of_mem hroot]
    omega

/-- A directory with a file in it, and a file and a link next to it. -/
def FileSystem.oneDirectory : FileSystem where
  root := [("lib", .directory [("b.php", .file [] false)] false), ("a.php", .file [] false),
    ("more", .link "lib")]
  current := []

/-- Every directory of it can be listed and every question is answered. -/
theorem searchable_oneDirectory :
    Searchable .oneDirectory (.ofText ".") FileSystem.oneDirectory.root
      [".git", ".svn", ".hg"] where
  formed := by decide
  found := ⟨[], false, by cbv⟩
  listed names hchosen := by
    obtain ⟨below, locked, hthere⟩ := hchosen.there
    have hnames : names ∈ [[], ["lib"], ["lib", "b.php"], ["a.php"], ["more"]] :=
      FileSystem.mem_namesBelow hthere
    simp only [List.mem_cons, List.not_mem_nil, or_false] at hnames
    rcases hnames with rfl | rfl | rfl | rfl | rfl
    · exact ⟨["lib", "a.php", "more"], by cbv⟩
    · exact ⟨["b.php"], by cbv⟩
    all_goals cases hthere
  told names node hthere _ := by
    have hnames : names ∈ [[], ["lib"], ["lib", "b.php"], ["a.php"], ["more"]] :=
      FileSystem.mem_namesBelow hthere
    simp only [List.mem_cons, List.not_mem_nil, or_false] at hnames
    rcases hnames with rfl | rfl | rfl | rfl | rfl
    · exact ⟨true, by cbv⟩
    · exact ⟨true, by cbv⟩
    · exact ⟨false, by cbv⟩
    · exact ⟨false, by cbv⟩
    · exact ⟨true, by cbv⟩

/-- A file in a subdirectory is handed over. -/
theorem checkDirectory_hands_over_below :
    let root := Path.ofText "."
    (checkDirectory .oneDirectory .default root root).result = .ok true
      ∧ root.below ["lib", "b.php"] ∈ filesHandedOver .oneDirectory .default root := by
  intro root
  have hselects : Settings.default.Selects [".php"] [".git", ".svn", ".hg"] := ⟨rfl, rfl⟩
  have hkept : ∀ names, ChosenFile .oneDirectory root FileSystem.oneDirectory.root [".php"]
      [".git", ".svn", ".hg"] names →
      ∀ f, ¬ GivenUp .oneDirectory .default (root.below names) f := by
    rintro names - f ⟨bytes, encoding, e, -, hencoding, hgives, -⟩
    have hutf8 : Encoding.ofName? Settings.default.encodingName = some (.known .utf8) := by cbv
    obtain rfl := Option.some.inj (hutf8.symm.trans hencoding)
    obtain ⟨hmark⟩ := hgives
    cases hmark
  have hfile : ChosenFile .oneDirectory root FileSystem.oneDirectory.root [".php"]
      [".git", ".svn", ".hg"] ["lib", "b.php"] := by
    have hlib : leftOut [".git", ".svn", ".hg"] root (root.below ["lib"]) = false := by cbv
    have hfile : leftOut [".git", ".svn", ".hg"] root (root.below ["lib", "b.php"]) = false := by
      cbv
    have hkept := (Unexcluded.append_iff root (Unexcluded.nil _) "lib").2 hlib
    have hname : (root.below ["lib", "b.php"]).name = "b.php" := by cbv
    refine ⟨⟨_, rfl⟩, by cbv, ?_, (Unexcluded.append_iff root hkept "b.php").2 hfile⟩
    rw [hname]
    decide +kernel
  obtain ⟨hresult, -, -, ⟨files, hhanded, -, hmem⟩, -⟩ :=
    checkDirectory_hands_over_chosen (by cbv) hselects rfl searchable_oneDirectory hkept
  refine ⟨hresult, ?_⟩
  rw [hhanded]
  exact List.mem_map_of_mem ((hmem _).2 hfile)

/-- The three files in UTF-16 are all to be checked. -/
theorem entriesToCheck_threeInUtf16 :
    entriesToCheck .threeInUtf16 .inUtf16 ⟨"", []⟩ ⟨"", []⟩
      = .ok [⟨"", ["a.php"]⟩, ⟨"", ["b.php"]⟩, ⟨"", ["c.php"]⟩] := by
  have hselects : Settings.inUtf16.Selects [".php"] [".git", ".svn", ".hg"] := ⟨rfl, rfl⟩
  have hlist : FileSystem.threeInUtf16.list ⟨"", []⟩ = .ok ["a.php", "b.php", "c.php"] := by cbv
  have hsorted : sortedEntries ⟨"", []⟩ ["a.php", "b.php", "c.php"]
      = [⟨"", ["a.php"]⟩, ⟨"", ["b.php"]⟩, ⟨"", ["c.php"]⟩] := by
    unfold sortedEntries
    rw [List.mergeSort_of_pairwise (by decide)]
    rfl
  have haccepts : ∀ name ∈ ["a.php", "b.php", "c.php"],
      (Selection.ofTexts [".php"] [".git", ".svn", ".hg"] false).accepts .threeInUtf16 ⟨"", []⟩
        ⟨"", [name]⟩ = .ok true := by
    intro name hname
    simp only [List.mem_cons, List.not_mem_nil, or_false] at hname
    obtain ⟨hin, hdirectory, hfile⟩ :
        leftOut [".git", ".svn", ".hg"] ⟨"", []⟩ ⟨"", [name]⟩ = false
          ∧ FileSystem.threeInUtf16.isDirectory? ⟨"", [name]⟩ = .ok false
          ∧ FileSystem.threeInUtf16.isFile? ⟨"", [name]⟩ = .ok true := by
      rcases hname with rfl | rfl | rfl <;> exact ⟨by cbv, by cbv, by cbv⟩
    rw [Selection.accepts_of_other hin hdirectory hfile]
    rcases hname with rfl | rfl | rfl <;> rfl
  rw [entriesToCheck_of_list _ hselects hlist, hsorted]
  show (Selection.ofTexts [".php"] [".git", ".svn", ".hg"] false).filter _ _ _ = _
  rw [Selection.filter, haccepts "a.php" (by decide), Selection.filter,
    haccepts "b.php" (by decide), Selection.filter, haccepts "c.php" (by decide)]
  rfl

/-- **A file that does not tell its byte order ends the search,** and a file to check that comes
behind it is not handed over. -/
theorem checkDirectory_leaves_out_chosen :
    let root : Path := ⟨"", []⟩
    (checkDirectory .threeInUtf16 .inUtf16 root root).result = .error .unmarkedText
      ∧ filesHandedOver .threeInUtf16 .inUtf16 root = [⟨"", ["a.php"]⟩]
      ∧ ChosenFile .threeInUtf16 root FileSystem.threeInUtf16.root [".php"]
        [".git", ".svn", ".hg"] ["b.php"] := by
  intro root
  have hroute : directoryRoute .threeInUtf16 .inUtf16 root root
      = ⟨[.directory root, .file ⟨"", ["a.php"]⟩, .file ⟨"", ["b.php"]⟩,
        .file ⟨"", ["c.php"]⟩], .ok true⟩ := by
    have hdepth : FileSystem.threeInUtf16.depth = 81 + 1 := rfl
    rw [directoryRoute, hdepth, directoryRouteFrom_succ entriesToCheck_threeInUtf16]
    cbv
  have hfails : (Stop.visit .threeInUtf16 .inUtf16 (.file ⟨"", ["a.php"]⟩)).result
      = .error .unmarkedText := by cbv
  have hdirectory : FileSystem.threeInUtf16.isDirectory? root = .ok true := by cbv
  refine ⟨?_, ?_, ⟨_, rfl⟩, ?_, ?_, ?_⟩
  · rw [checkDirectory_eq_taken hdirectory, Route.taken_eq, hroute]
    have heach : (Progress.each (Stop.visit .threeInUtf16 .inUtf16)
        [.directory root, .file ⟨"", ["a.php"]⟩, .file ⟨"", ["b.php"]⟩,
          .file ⟨"", ["c.php"]⟩]).result = .error .unmarkedText := by
      rw [Progress.each_cons, Progress.andThen_of_ok _ rfl, Progress.each_cons,
        Progress.andThen_of_error _ hfails]
    rw [Progress.andThen_of_error _ heach]
  · unfold filesHandedOver
    rw [hroute, Stop.reached, Stop.reached, hfails]
    rfl
  · cbv
  · decide +kernel
  · have hin : leftOut [".git", ".svn", ".hg"] root (root.below ["b.php"]) = false := by cbv
    exact (Unexcluded.append_iff root (Unexcluded.nil _) "b.php").2 hin

end DocCoverage
