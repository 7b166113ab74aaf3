/-
Going down a tree of directories by paths. Where a path leads to a directory, the path with a name
behind it leads to the entry of that name, and if the entry is a directory it leads there and
nowhere else: an entry is found below its own directory, however many links the path to that
directory went through. So the paths below a directory and the tree that it is the root of are two
sides of the same thing, as long as the tree is one that a file system can hold and the operating
system does not refuse to answer.

Following a path is a loop over its names, in which a link puts its own names in front of the
others. One turn of the loop is `FileSystem.next`, and `walk_cons` says that the loop is made of
such turns; nothing else here looks into how a path is followed.
-/
import DocCoverage.Proofs.Files.Probe
import DocCoverage.Run.Route

set_option autoImplicit false

namespace DocCoverage

/-! ## Trees that a file system can hold -/

/-- A name that an entry can have. -/
def properName (name : String) : Bool :=
  name != "" && name != "." && name != ".."
    && name.toList.all fun c => c != '/' && c != '\x00'

mutual

/-- The directories from a node down name every entry properly and no two alike. -/
def Node.wellFormed : Node → Bool
  | .directory entries _ => Node.wellFormedEntries entries
  | _ => true

/-- Some entries are named properly and no two alike, and so is everything below them. -/
def Node.wellFormedEntries : List (String × Node) → Bool
  | [] => true
  | (name, node) :: rest =>
    properName name && !(rest.map Prod.fst).contains name && Node.wellFormed node
      && Node.wellFormedEntries rest

end

/-- **A file system that can exist:** every directory in it names its entries properly and no two
alike. -/
def FileSystem.wellFormed (fs : FileSystem) : Bool := Node.wellFormedEntries fs.root

namespace Node

variable {entries : List (String × Node)} {name : String} {node : Node}

/-- What is known of the entries of a tree that a file system can hold. -/
theorem wellFormedEntries_cons {rest : List (String × Node)}
    (h : wellFormedEntries ((name, node) :: rest) = true) :
    properName name = true ∧ name ∉ rest.map Prod.fst ∧ node.wellFormed = true
      ∧ wellFormedEntries rest = true := by
  rw [wellFormedEntries] at h
  simp only [Bool.and_eq_true, Bool.not_eq_true'] at h
  obtain ⟨⟨⟨hproper, hnew⟩, hnode⟩, hrest⟩ := h
  refine ⟨hproper, fun hmem => ?_, hnode, hrest⟩
  rw [List.contains_iff_mem.2 hmem] at hnew
  cases hnew

/-- No two entries have the same name. -/
theorem nodup_of_wellFormed (h : wellFormedEntries entries = true) :
    (entries.map Prod.fst).Nodup := by
  induction entries with
  | nil => exact List.nodup_nil
  | cons entry rest ih =>
    obtain ⟨-, hnew, -, hrest⟩ := wellFormedEntries_cons h
    exact List.nodup_cons.2 ⟨hnew, ih hrest⟩

/-- An entry that is found is a proper one, and what is below it is well formed and not higher than
the directory. -/
theorem of_entry (h : wellFormedEntries entries = true)
    (hentry : FileSystem.entry? name entries = some node) :
    properName name = true ∧ node.wellFormed = true ∧ node.height ≤ heightOfEntries entries := by
  induction entries with
  | nil => cases hentry
  | cons entry rest ih =>
    obtain ⟨first, firstNode⟩ := entry
    obtain ⟨hproper, -, hnode, hrest⟩ := wellFormedEntries_cons h
    unfold FileSystem.entry? at hentry ih
    rw [List.lookup_cons] at hentry
    rw [heightOfEntries]
    by_cases hname : name = first
    · subst hname
      rw [beq_self_eq_true] at hentry
      obtain rfl := Option.some.inj hentry
      exact ⟨hproper, hnode, Nat.le_max_left _ _⟩
    · rw [beq_eq_false_iff_ne.2 hname] at hentry
      obtain ⟨hproper', hnode', hheight⟩ := ih hrest hentry
      exact ⟨hproper', hnode', Nat.le_trans hheight (Nat.le_max_right _ _)⟩

/-- The names of a directory are those under which there is an entry. -/
theorem mem_names_iff : name ∈ entries.map Prod.fst ↔
    ∃ node, FileSystem.entry? name entries = some node := by
  induction entries with
  | nil =>
    constructor
    · intro h
      cases h
    · rintro ⟨node, h⟩
      cases h
  | cons entry rest ih =>
    obtain ⟨first, firstNode⟩ := entry
    unfold FileSystem.entry? at ih ⊢
    rw [List.lookup_cons, List.map_cons, List.mem_cons, ih]
    by_cases hname : name = first
    · rw [beq_iff_eq.2 hname]
      exact ⟨fun _ => ⟨firstNode, rfl⟩, fun _ => Or.inl hname⟩
    · rw [beq_eq_false_iff_ne.2 hname]
      exact ⟨fun h => h.resolve_left hname, Or.inr⟩

end Node

/-! ## Trees and the names that lead down them -/

namespace FileSystem

variable {fs : FileSystem} {entries below : List (String × Node)} {locked locked' : Bool}
  {names rest : List String} {name : String} {node : Node}

/-- Names lead through a directory that is an entry to where they lead from that directory on. -/
theorem nodeBelow_of_entry (hentry : entry? name entries = some (.directory below locked'))
    (rest : List String) :
    nodeBelow entries locked (name :: rest) = nodeBelow below locked' rest := by
  cases rest with
  | nil => exact hentry
  | cons next rest => simp only [nodeBelow, hentry]

/-- Names that lead to something begin with the name of an entry: of that something, or of a
directory that the other names lead on from. -/
theorem entry_of_nodeBelow (h : nodeBelow entries locked (name :: rest) = some node) :
    (rest = [] ∧ entry? name entries = some node)
      ∨ ∃ below locked', entry? name entries = some (.directory below locked')
        ∧ nodeBelow below locked' rest = some node := by
  cases rest with
  | nil => exact Or.inl ⟨rfl, h⟩
  | cons next rest =>
    right
    cases hentry : entry? name entries with
    | none =>
      simp only [nodeBelow, hentry] at h
      cases h
    | some first =>
      simp only [nodeBelow, hentry] at h
      cases first with
      | directory below locked' => exact ⟨below, locked', rfl, h⟩
      | file bytes locked' => cases h
      | link target => cases h

/-- Names that lead to a directory are followed by the names that lead on from there. -/
theorem nodeBelow_append (h : nodeBelow entries locked names = some (.directory below locked'))
    (rest : List String) :
    nodeBelow entries locked (names ++ rest) = nodeBelow below locked' rest := by
  induction names generalizing entries locked with
  | nil =>
    obtain ⟨rfl, rfl⟩ := Node.directory.inj (Option.some.inj h)
    rfl
  | cons name names ih =>
    rcases entry_of_nodeBelow h with ⟨rfl, hentry⟩ | ⟨under, lock, hentry, hunder⟩
    · exact nodeBelow_of_entry hentry rest
    · rw [List.cons_append, nodeBelow_of_entry hentry]
      exact ih hunder

/-- What names lead to in a well-formed tree is well formed and not higher than the tree. -/
theorem of_nodeBelow (hformed : Node.wellFormedEntries entries = true)
    (h : nodeBelow entries locked names = some (.directory below locked')) :
    Node.wellFormedEntries below = true
      ∧ Node.heightOfEntries below ≤ Node.heightOfEntries entries := by
  induction names generalizing entries locked with
  | nil =>
    obtain ⟨rfl, rfl⟩ := Node.directory.inj (Option.some.inj h)
    exact ⟨hformed, Nat.le_refl _⟩
  | cons name names ih =>
    have hdown : ∀ {under : List (String × Node)} {lock : Bool},
        entry? name entries = some (.directory under lock) →
        Node.wellFormedEntries under = true
          ∧ Node.heightOfEntries under ≤ Node.heightOfEntries entries := by
      intro under lock hentry
      obtain ⟨-, hunder, hheight⟩ := Node.of_entry hformed hentry
      rw [Node.wellFormed] at hunder
      rw [Node.height] at hheight
      exact ⟨hunder, by omega⟩
    rcases entry_of_nodeBelow h with ⟨rfl, hentry⟩ | ⟨under, lock, hentry, hrest⟩
    · exact hdown hentry
    · obtain ⟨hunder, hheight⟩ := hdown hentry
      obtain ⟨hbelow, hheight'⟩ := ih hunder hrest
      exact ⟨hbelow, Nat.le_trans hheight' hheight⟩

/-- Where there is a directory, the name of an entry leads one place further. -/
theorem nodeAt_child {location : List String}
    (h : fs.nodeAt location = some (.directory entries locked)) (name : String) :
    fs.nodeAt (name :: location) = entry? name entries := by
  unfold nodeAt at h ⊢
  rw [List.reverse_cons, nodeBelow_append h]
  rfl

end FileSystem

mutual

/-- All names that lead from a node to something. -/
def Node.namesBelow : Node → List (List String)
  | .directory entries _ => [] :: Node.namesBelowEntries entries
  | _ => [[]]

/-- All names that lead to one of some entries, or on from there. -/
def Node.namesBelowEntries : List (String × Node) → List (List String)
  | [] => []
  | (name, node) :: rest =>
    (Node.namesBelow node).map (name :: ·) ++ Node.namesBelowEntries rest

end

/-- Names that lead on from an entry lead on from the directory with its name in front. -/
theorem Node.mem_namesBelowEntries {entries : List (String × Node)} {name : String} {node : Node}
    {names : List String} (hentry : FileSystem.entry? name entries = some node)
    (hnames : names ∈ node.namesBelow) : name :: names ∈ namesBelowEntries entries := by
  induction entries with
  | nil => cases hentry
  | cons entry rest ih =>
    obtain ⟨first, firstNode⟩ := entry
    unfold FileSystem.entry? at hentry ih
    rw [List.lookup_cons] at hentry
    rw [namesBelowEntries, List.mem_append]
    by_cases hname : name = first
    · subst hname
      rw [beq_self_eq_true] at hentry
      obtain rfl := Option.some.inj hentry
      exact Or.inl (List.mem_map_of_mem hnames)
    · rw [beq_eq_false_iff_ne.2 hname] at hentry
      exact Or.inr (ih hentry)

namespace FileSystem

variable {fs : FileSystem} {entries below : List (String × Node)} {locked locked' : Bool}
  {names rest : List String} {name : String} {node : Node}

/-- **Names that lead to something are among those that can be listed beforehand.** -/
theorem mem_namesBelow (h : nodeBelow entries locked names = some node) :
    names ∈ (Node.directory entries locked).namesBelow := by
  rw [Node.namesBelow]
  induction names generalizing entries locked with
  | nil => exact List.mem_cons_self
  | cons name rest ih =>
    refine List.mem_cons_of_mem _ ?_
    rcases entry_of_nodeBelow h with ⟨rfl, hentry⟩ | ⟨under, lock, hentry, hrest⟩
    · refine Node.mem_namesBelowEntries hentry ?_
      cases node <;> exact List.mem_cons_self
    · refine Node.mem_namesBelowEntries hentry ?_
      rw [Node.namesBelow]
      exact ih hrest

/-! ## One name after the other -/

/-- **One turn of following a path:** how many links may still be followed, where a name leads, and
the names that come before the others from there on. -/
def next (fs : FileSystem) (links : Nat) (location : List String) (name : String) :
    Except FileError (Nat × List String × List String) :=
  match fs.nodeAt location with
  | some (.directory entries locked) =>
    if name.isEmpty then .ok (links, location, [])
    else if locked then .error .denied
    else if name = "." then .ok (links, location, [])
    else if name = ".." then .ok (links, location.tail, [])
    else if maxNameBytes < name.utf8ByteSize then .error .nameTooLong
    else
      match entry? name entries with
      | none => .error .notFound
      | some (.link target) =>
        match links with
        | 0 => .error .tooManyLinks
        | links + 1 =>
          .ok (links, if target.startsWith "/" then [] else location, Path.namesAsWritten target)
      | some _ => .ok (links, name :: location, [])
  | _ => .error .notDirectory

/-- **A path is followed name by name,** except that a link which the last name leads to stays as it
is where the entry itself is wanted. -/
theorem walk_cons {aim : Aim} (haim : aim = .target ∨ aim = .entry ∧ rest ≠ []) (links : Nat)
    (location : List String) (name : String) :
    fs.walk aim links location (name :: rest)
      = match fs.next links location name with
        | .ok (links, location, names) => fs.walk aim links location (names ++ rest)
        | .error e => .error e := by
  have houtput : aim ≠ .output := by
    rcases haim with rfl | ⟨rfl, -⟩ <;> decide
  have hentry : (decide (aim = .entry) && rest.isEmpty) = false := by
    rcases haim with rfl | ⟨rfl, hrest⟩
    · rfl
    · cases rest with
      | nil => exact absurd rfl hrest
      | cons => rfl
  rw [walk]
  unfold next
  cases fs.nodeAt location with
  | none => rfl
  | some node =>
    cases node with
    | file bytes locked => rfl
    | link target => rfl
    | directory entries locked =>
      dsimp only
      by_cases hempty : name.isEmpty = true
      · rw [if_pos hempty, if_pos hempty]
        rfl
      rw [if_neg hempty, if_neg hempty]
      by_cases hlocked : locked = true
      · rw [if_pos hlocked, if_pos hlocked]
      rw [if_neg hlocked, if_neg hlocked]
      by_cases hdot : name = "."
      · rw [if_pos hdot, if_pos hdot]
        rfl
      rw [if_neg hdot, if_neg hdot]
      by_cases hparent : name = ".."
      · rw [if_pos hparent, if_pos hparent]
        rfl
      rw [if_neg hparent, if_neg hparent, decide_eq_false houtput, Bool.false_and,
        if_neg Bool.false_ne_true]
      by_cases hlong : maxNameBytes < name.utf8ByteSize
      · rw [if_pos hlong, if_pos hlong]
      rw [if_neg hlong, if_neg hlong]
      cases entry? name entries with
      | none =>
        rw [Bool.false_and]
        rfl
      | some node =>
        cases node with
        | file bytes locked => rfl
        | directory below locked => rfl
        | link target =>
          dsimp only
          rw [hentry, if_neg Bool.false_ne_true]
          cases links <;> rfl

/-- A name uses up a link, or puts no other names in front of the rest. -/
theorem next_decreases {links links' : Nat} {location location' more : List String}
    (h : fs.next links location name = .ok (links', location', more)) :
    links' < links ∨ links' = links ∧ more = [] := by
  unfold next at h
  split at h
  · split at h
    · cases h
      exact Or.inr ⟨rfl, rfl⟩
    split at h
    · cases h
    split at h
    · cases h
      exact Or.inr ⟨rfl, rfl⟩
    split at h
    · cases h
      exact Or.inr ⟨rfl, rfl⟩
    split at h
    · cases h
    split at h
    · cases h
    · split at h
      · cases h
      · cases h
        exact Or.inl (Nat.lt_succ_self _)
    · cases h
      exact Or.inr ⟨rfl, rfl⟩
  · cases h

/-- **A path that goes on behind names that were followed** goes on from where they lead, with some
links left, and whatever the rest of it is. -/
theorem walk_append {links : Nat} {location location' : List String}
    (h : fs.walk .target links location names = .ok (location', some node)) :
    fs.nodeAt location' = some node
      ∧ ∃ links', ∀ (aim : Aim), aim ≠ .output → ∀ rest ≠ [],
        fs.walk aim links location (names ++ rest) = fs.walk aim links' location' rest := by
  -- a turn uses up a link or a name, so the induction is on the links left and then on the names
  induction links using Nat.strongRecOn generalizing location names with
  | ind links ihlinks =>
    induction names generalizing location with
    | nil =>
      rw [walk] at h
      split at h
      · next there hthere =>
        cases h
        exact ⟨hthere, links, fun aim _ rest _ => rfl⟩
      · cases h
    | cons name names ihnames =>
      rw [walk_cons (Or.inl rfl)] at h
      cases hnext : fs.next links location name with
      | error e =>
        rw [hnext] at h
        cases h
      | ok turn =>
        obtain ⟨links₁, location₁, more⟩ := turn
        rw [hnext] at h
        dsimp only at h
        have hlater : fs.nodeAt location' = some node
            ∧ ∃ links', ∀ (aim : Aim), aim ≠ .output → ∀ rest ≠ [],
              fs.walk aim links₁ location₁ (more ++ names ++ rest)
                = fs.walk aim links' location' rest := by
          rcases next_decreases hnext with hlinks | ⟨rfl, rfl⟩
          · exact ihlinks links₁ hlinks h
          · exact ihnames h
        obtain ⟨hnode, links', hwalk⟩ := hlater
        refine ⟨hnode, links', fun aim haim rest hrest => ?_⟩
        have hcons : aim = .target ∨ aim = .entry ∧ names ++ rest ≠ [] := by
          cases aim with
          | target => exact Or.inl rfl
          | output => exact absurd rfl haim
          | entry => exact Or.inr ⟨rfl, fun hnil => hrest (List.append_eq_nil_iff.1 hnil).2⟩
        rw [List.cons_append, walk_cons hcons, hnext]
        dsimp only
        rw [← List.append_assoc]
        exact hwalk aim haim rest hrest

end FileSystem

/-! ## The text of a path with one name more -/

namespace Path

variable {p : Path} {name : String}

/-- A text begins with a slash if its first character is one. -/
theorem startsWith_slash_iff {s : String} :
    s.startsWith "/" = true ↔ s.toList.head? = some '/' := by
  rw [String.startsWith_string_iff]
  show ['/'] <+: s.toList ↔ _
  cases s.toList with
  | nil => simp
  | cons c cs => simp [eq_comm]

/-- A path whose root, if it has one, begins with a slash, and whose names are not empty. -/
structure Plain (p : Path) : Prop where
  root : p.root = "" ∨ p.root.startsWith "/" = true
  parts : ∀ part ∈ p.parts, part ≠ ""

/-- The path that a text denotes is plain. -/
theorem plain_ofText (s : String) : (ofText s).Plain where
  root := by
    show rootOf s.toList = "" ∨ (rootOf s.toList).startsWith "/" = true
    rw [startsWith_slash_iff]
    unfold rootOf
    split
    · exact Or.inr rfl
    · exact Or.inr rfl
    · exact Or.inr rfl
    · exact Or.inl rfl
  parts part hpart := by
    have hkept := (List.mem_filter.1 hpart).2
    simp only [Bool.and_eq_true, bne_iff_ne] at hkept
    exact hkept.1

/-- A name more leaves a path plain. -/
theorem Plain.child (h : p.Plain) (hname : name ≠ "") : (p.child name).Plain where
  root := h.root
  parts part hpart := by
    rcases List.mem_append.1 hpart with hold | hnew
    · exact h.parts part hold
    · rw [List.mem_singleton.1 hnew]
      exact hname

/-- The text of a path with a name more. -/
theorem shown_child (p : Path) (name : String) :
    (p.child name).shown = if p.parts = [] then p.root ++ name else p.shown ++ "/" ++ name := by
  have hmore : (p.parts ++ [name]).isEmpty = false := by
    cases p.parts <;> rfl
  unfold shown child
  dsimp only
  rw [hmore, Bool.and_false, if_neg Bool.false_ne_true]
  by_cases hparts : p.parts = []
  · rw [if_pos hparts, hparts, List.nil_append, String.intercalate_singleton]
  · have hsome : p.parts.isEmpty = false := List.isEmpty_eq_false_iff.2 hparts
    rw [if_neg hparts, hsome, Bool.and_false, if_neg Bool.false_ne_true,
      String.intercalate_append_of_ne_nil hparts (List.cons_ne_nil _ _),
      String.intercalate_singleton]
    simp only [String.append_assoc]

/-- The text of a plain path is not empty. -/
theorem Plain.shown_ne_empty (h : p.Plain) : p.shown ≠ "" := by
  unfold shown
  by_cases hnone : (p.root.isEmpty && p.parts.isEmpty) = true
  · rw [if_pos hnone]
    decide
  rw [if_neg hnone]
  intro hshown
  obtain ⟨hroot, hparts⟩ := String.append_eq_empty_iff.1 hshown
  cases hp : p.parts with
  | nil =>
    rw [hroot, hp] at hnone
    exact hnone rfl
  | cons first rest =>
    have hfirst : first ≠ "" := h.parts first (by rw [hp]; exact List.mem_cons_self)
    rw [hp] at hparts
    cases rest with
    | nil => exact hfirst (String.intercalate_singleton.symm.trans hparts)
    | cons next rest =>
      rw [String.intercalate_cons_cons, String.append_assoc] at hparts
      exact hfirst (String.append_eq_empty_iff.1 hparts).1

/-- What is known of the characters of a name that an entry can have. -/
theorem of_properName (h : properName name = true) :
    name ≠ "" ∧ name ≠ "." ∧ name ≠ ".." ∧ ∀ c ∈ name.toList, c ≠ '/' ∧ c ≠ '\x00' := by
  unfold properName at h
  simp only [Bool.and_eq_true, bne_iff_ne, List.all_eq_true] at h
  obtain ⟨⟨⟨hempty, hdot⟩, hparent⟩, hchars⟩ := h
  exact ⟨hempty, hdot, hparent, hchars⟩

/-- With a proper name behind it a path begins at the root of the file system exactly if it did so
before. -/
theorem Plain.startsWith_child (h : p.Plain) (hproper : properName name = true) :
    (p.child name).shown.startsWith "/" = p.shown.startsWith "/" := by
  obtain ⟨hempty, -, -, hchars⟩ := of_properName hproper
  have hname : name.toList.head? ≠ some '/' := by
    intro hhead
    exact (hchars '/' (List.mem_of_head? hhead)).1 rfl
  rw [Bool.eq_iff_iff, startsWith_slash_iff, startsWith_slash_iff, shown_child]
  by_cases hparts : p.parts = []
  · rw [if_pos hparts]
    unfold shown
    rw [hparts]
    rcases h.root with hroot | hroot
    · rw [hroot, String.empty_append]
      exact ⟨fun hhead => absurd hhead hname, fun hdot => by cases hdot⟩
    · have hfirst := startsWith_slash_iff.1 hroot
      have hsome : p.root.isEmpty = false := by
        cases hr : p.root.isEmpty with
        | false => rfl
        | true =>
          rw [String.isEmpty_iff.1 hr] at hfirst
          cases hfirst
      rw [hsome, Bool.false_and, if_neg Bool.false_ne_true, String.toList_append,
        String.toList_append, List.head?_append, List.head?_append, hfirst]
      exact Iff.rfl
  · rw [if_neg hparts]
    rw [String.append_assoc, String.toList_append, List.head?_append]
    cases hchars : p.shown.toList with
    | nil => exact absurd (String.toList_eq_nil_iff.1 hchars) h.shown_ne_empty
    | cons c rest => rfl

/-- With a proper name behind it a path holds the character zero only if it did so before. -/
theorem zero_notMem_child (hproper : properName name = true) (h : p.shown.contains '\x00' = false) :
    (p.child name).shown.contains '\x00' = false := by
  obtain ⟨-, -, -, hchars⟩ := of_properName hproper
  rw [String.contains_char_eq, decide_eq_false_iff_not] at h ⊢
  have hname : '\x00' ∉ name.toList := fun hmem => (hchars _ hmem).2 rfl
  rw [shown_child]
  by_cases hparts : p.parts = []
  · rw [if_pos hparts, String.toList_append, List.mem_append]
    rintro (hroot | hmem)
    · refine h ?_
      unfold shown
      rw [hparts]
      by_cases hempty : p.root.isEmpty = true
      · rw [String.isEmpty_iff.1 hempty] at hroot
        cases hroot
      · rw [Bool.eq_false_iff.2 hempty, Bool.false_and, if_neg Bool.false_ne_true,
          String.toList_append]
        exact List.mem_append_left _ hroot
    · exact hname hmem
  · rw [if_neg hparts, String.toList_append, String.toList_append, List.mem_append, List.mem_append]
    rintro ((hshown | hslash) | hmem)
    · exact h hshown
    · cases List.mem_singleton.1 hslash
    · exact hname hmem

end Path

/-! ## An entry of a directory -/

namespace FileSystem

variable {fs : FileSystem} {path : Path} {location : List String}
  {entries : List (String × Node)} {locked : Bool} {name : String} {node : Node} {answer : Bool}

/-- A path that leads somewhere is followed from where it begins. -/
theorem walk_of_find {aim : Aim} (h : fs.find aim path = .ok (location, node)) :
    refusal? path.shown = none
      ∧ fs.walk aim maxLinks (if path.shown.startsWith "/" then [] else fs.current.reverse)
        path.parts = .ok (location, some node) := by
  unfold find follow at h
  cases hrefusal : refusal? path.shown with
  | some e =>
    rw [hrefusal] at h
    cases h
  | none =>
    rw [hrefusal] at h
    refine ⟨rfl, ?_⟩
    dsimp only at h
    unfold arrived at h
    split at h
    · next hwalk =>
      obtain ⟨rfl, rfl⟩ := Prod.mk.inj (Except.ok.inj h)
      exact hwalk
    · cases h
    · cases h

/-- What a path leads to is at the place where it leads. -/
theorem nodeAt_of_find (h : fs.find .target path = .ok (location, node)) :
    fs.nodeAt location = some node :=
  (walk_append (walk_of_find h).2).1

/-- **A path with a name more** goes on from where the path leads, if it is not too long. -/
theorem exists_find_child (hplain : path.Plain)
    (hfind : fs.find .target path = .ok (location, node)) :
    ∃ links, ∀ aim : Aim, aim ≠ .output → ∀ name : String, properName name = true →
      fs.find aim (path.child name)
        = if maxPathBytes < (path.child name).shown.utf8ByteSize then .error .nameTooLong
          else arrived (fs.walk aim links location [name]) := by
  obtain ⟨hrefusal, hwalk⟩ := walk_of_find hfind
  obtain ⟨-, links, happend⟩ := walk_append hwalk
  have hzero : path.shown.contains '\x00' = false := by
    unfold refusal? at hrefusal
    split at hrefusal
    · cases hrefusal
    · next h => exact Bool.eq_false_iff.2 h
  refine ⟨links, fun aim haim name hproper => ?_⟩
  unfold find follow refusal?
  rw [hplain.startsWith_child hproper, Path.zero_notMem_child hproper hzero,
    if_neg Bool.false_ne_true]
  by_cases hlong : maxPathBytes < (path.child name).shown.utf8ByteSize
  · rw [if_pos hlong, if_pos hlong]
    rfl
  · rw [if_neg hlong, if_neg hlong]
    exact congrArg arrived (happend aim haim [name] (List.cons_ne_nil _ _))

/-- The name of an entry leads to it, or the operating system refuses to go there. -/
theorem walk_name (hproper : properName name = true)
    (hnode : fs.nodeAt location = some (.directory entries locked))
    (hentry : entry? name entries = some node) (aim : Aim) (haim : aim ≠ .output) (links : Nat) :
    ∃ reached, fs.walk aim links location [name]
        = (if locked then .error .denied
          else if maxNameBytes < name.utf8ByteSize then .error .nameTooLong else reached)
      ∧ (aim = .entry ∨ (∀ target, node ≠ .link target) →
        reached = .ok (name :: location, some node)) := by
  obtain ⟨hempty, hdot, hparent, -⟩ := Path.of_properName hproper
  have hsome : name.isEmpty = false := by
    rw [Bool.eq_false_iff, ne_eq, String.isEmpty_iff]
    exact hempty
  have hthere : fs.nodeAt (name :: location) = some node := (nodeAt_child hnode name).trans hentry
  rw [walk, hnode]
  dsimp only
  rw [hsome, if_neg Bool.false_ne_true, if_neg hdot, if_neg hparent, decide_eq_false haim,
    Bool.false_and, if_neg Bool.false_ne_true, hentry]
  cases node with
  | file bytes locked' =>
    refine ⟨_, rfl, fun _ => ?_⟩
    dsimp only
    rw [walk, hthere]
  | directory below locked' =>
    refine ⟨_, rfl, fun _ => ?_⟩
    dsimp only
    rw [walk, hthere]
  | link target =>
    refine ⟨_, rfl, fun hlink => ?_⟩
    rcases hlink with rfl | hlink
    · rfl
    · exact absurd rfl (hlink target)

/-- The root directory is at its path. -/
theorem find_root (fs : FileSystem) :
    fs.find .target ⟨"/", []⟩ = .ok ([], .directory fs.root false) := by
  have hslash : (Path.shown ⟨"/", []⟩).startsWith "/" = true := by
    rw [Path.startsWith_slash_iff]
    rfl
  have hzero : (Path.shown ⟨"/", []⟩).contains '\x00' = false := by
    rw [String.contains_char_eq]
    decide
  unfold find follow refusal?
  rw [hzero, if_neg Bool.false_ne_true, if_neg (by decide)]
  dsimp only
  rw [hslash, if_pos rfl, walk]
  rfl

/-- The path of the root directory is plain. -/
theorem plain_root : Path.Plain ⟨"/", []⟩ where
  root := Or.inr (by rw [Path.startsWith_slash_iff]; rfl)
  parts _ hpart := absurd hpart List.not_mem_nil

/-- An entry of a directory that is open is at its path, if neither its name nor the path is too
long. -/
theorem find_child_of_short (hplain : path.Plain) (hproper : properName name = true)
    (hfind : fs.find .target path = .ok (location, .directory entries false))
    (hentry : entry? name entries = some node) (hname : ¬ maxNameBytes < name.utf8ByteSize)
    (hshort : ¬ maxPathBytes < (path.child name).shown.utf8ByteSize) (aim : Aim)
    (haim : aim ≠ .output) (hlink : aim = .entry ∨ ∀ target, node ≠ .link target) :
    fs.find aim (path.child name) = .ok (name :: location, node) := by
  obtain ⟨links, hchild⟩ := exists_find_child hplain hfind
  obtain ⟨reached, hwalk, hreached⟩ :=
    walk_name hproper (nodeAt_of_find hfind) hentry aim haim links
  rw [hchild aim haim name hproper, if_neg hshort, hwalk, if_neg Bool.false_ne_true, if_neg hname,
    hreached hlink]
  rfl

/-- An entry of the root directory is at its name, if that is not too long. -/
theorem find_in_root (hproper : properName name = true) (hentry : entry? name fs.root = some node)
    (hname : ¬ maxNameBytes < name.utf8ByteSize)
    (hshort : ¬ maxPathBytes < (Path.shown ⟨"/", [name]⟩).utf8ByteSize)
    (hlink : ∀ target, node ≠ .link target) :
    fs.find .target ⟨"/", [name]⟩ = .ok ([name], node) :=
  find_child_of_short plain_root hproper fs.find_root hentry hname hshort .target (by decide)
    (Or.inr hlink)

/-- **The entry of a directory is at its path,** as far as the operating system tells at all what is
there: the path leads to the entry, and beyond it only where the entry is a link that is
followed. -/
theorem find_child (hplain : path.Plain) (hproper : properName name = true)
    (hfind : fs.find .target path = .ok (location, .directory entries locked))
    (hentry : entry? name entries = some node)
    (hanswer : fs.isDirectory? (path.child name) = .ok answer) (aim : Aim) (haim : aim ≠ .output)
    (hlink : aim = .entry ∨ ∀ target, node ≠ .link target) :
    fs.find aim (path.child name) = .ok (name :: location, node) := by
  obtain ⟨links, hchild⟩ := exists_find_child hplain hfind
  have hnode := nodeAt_of_find hfind
  obtain ⟨there, hprobe, -⟩ := probe_of_map_eq_ok hanswer
  -- the question was answered, so none of the reasons to refuse an answer holds for the path
  have hasked : ∀ e, e.meansAbsent = false → fs.find .target (path.child name) ≠ .error e := by
    intro e habsent he
    unfold probe at hprobe
    rw [he] at hprobe
    dsimp only at hprobe
    rw [habsent, if_neg Bool.false_ne_true] at hprobe
    cases hprobe
  have htarget := hchild .target (by decide) name hproper
  obtain ⟨reached, hwalk, -⟩ := walk_name hproper hnode hentry .target (by decide) links
  have hshort : ¬ maxPathBytes < (path.child name).shown.utf8ByteSize := by
    intro hlong
    rw [if_pos hlong] at htarget
    exact hasked .nameTooLong rfl htarget
  rw [if_neg hshort, hwalk] at htarget
  have hopen : ¬ locked = true := by
    intro hlocked
    rw [if_pos hlocked] at htarget
    exact hasked .denied rfl htarget
  rw [if_neg hopen] at htarget
  have hname : ¬ maxNameBytes < name.utf8ByteSize := by
    intro hlong
    rw [if_pos hlong] at htarget
    exact hasked .nameTooLong rfl htarget
  rw [Bool.not_eq_true] at hopen
  rw [hopen] at hfind
  exact find_child_of_short hplain hproper hfind hentry hname hshort aim haim hlink

/-! ## Answers about an entry -/

/-- A subdirectory is told to be a directory and no link. -/
theorem answers_directory {below : List (String × Node)} {locked' : Bool}
    (hplain : path.Plain) (hproper : properName name = true)
    (hfind : fs.find .target path = .ok (location, .directory entries locked))
    (hentry : entry? name entries = some (.directory below locked'))
    (hanswer : fs.isDirectory? (path.child name) = .ok answer) :
    fs.isDirectory? (path.child name) = .ok true ∧ fs.isLink? (path.child name) = .ok false
      ∧ fs.find .target (path.child name) = .ok (name :: location, .directory below locked') := by
  have htarget := find_child hplain hproper hfind hentry hanswer .target (by decide)
    (Or.inr fun target h => by cases h)
  have hhere := find_child hplain hproper hfind hentry hanswer .entry (by decide)
    (Or.inl rfl)
  refine ⟨?_, ?_, htarget⟩
  · unfold isDirectory?
    rw [probe_of_find htarget]
    rfl
  · unfold isLink?
    rw [probe_of_find hhere]
    rfl

/-- A symbolic link is told to be one, whatever it leads to. -/
theorem answers_link {target : String} (hplain : path.Plain) (hproper : properName name = true)
    (hfind : fs.find .target path = .ok (location, .directory entries locked))
    (hentry : entry? name entries = some (.link target))
    (hanswer : fs.isDirectory? (path.child name) = .ok answer) :
    fs.isLink? (path.child name) = .ok true := by
  have hhere := find_child hplain hproper hfind hentry hanswer .entry (by decide)
    (Or.inl rfl)
  unfold isLink?
  rw [probe_of_find hhere]
  rfl

/-- A file is told to be no directory. -/
theorem answers_file {bytes : List UInt8} {locked' : Bool} (hplain : path.Plain)
    (hproper : properName name = true)
    (hfind : fs.find .target path = .ok (location, .directory entries locked))
    (hentry : entry? name entries = some (.file bytes locked'))
    (hanswer : fs.isDirectory? (path.child name) = .ok answer) :
    fs.isDirectory? (path.child name) = .ok false := by
  have htarget := find_child hplain hproper hfind hentry hanswer .target (by decide)
    (Or.inr fun target h => by cases h)
  unfold isDirectory?
  rw [probe_of_find htarget]
  rfl

end FileSystem

end DocCoverage
