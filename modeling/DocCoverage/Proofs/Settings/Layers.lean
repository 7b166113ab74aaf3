/-
The layers that settings come from. Every layer is a table without repeated keys: the files because
their text is refused otherwise, the environment because there is one variable for each setting, and
what is asked for directly because names are given once.

Reading them fails for a problem with settings, with one exception. Before a file is read it is
asked whether the file exists, and an operating system that refuses to tell is not covered by any
problem.
-/
import DocCoverage.Proofs.Files.Walk
import DocCoverage.Proofs.Toml.Keys
import DocCoverage.Settings.Layers

set_option autoImplicit false

namespace DocCoverage

/-- **A failure is a problem with settings.** -/
def Failure.AboutSettings (f : Failure) : Prop :=
  ∃ p : Problem, f = .problem p ∧ Problem.Family.configuration ∈ p.family.ancestry

/-- Problems in words of their own are about settings. -/
theorem Failure.aboutSettings_configuration (message : String) (details : List (String × Value)) :
    Failure.AboutSettings (.problem (.configuration message details)) :=
  ⟨_, rfl, (by decide : Problem.Family.configuration ∈ Problem.Family.configuration.ancestry)⟩

/-- Problems with values of settings are about settings. -/
theorem Failure.aboutSettings_invalid (key value reason : String) :
    Failure.AboutSettings (.problem (.invalidSetting key value reason)) :=
  ⟨_, rfl, (by decide : Problem.Family.configuration ∈ Problem.Family.invalidSetting.ancestry)⟩

/-! ## Computations -/

section Results

variable {α β : Type} {x : Result α} {g : α → Result β} {b : β} {f : Failure}

/-- A computation that ends well has done so step by step. -/
theorem Result.ok_of_bind (h : x >>= g = .ok b) : ∃ a, x = .ok a ∧ g a = .ok b := by
  cases x with
  | ok a => exact ⟨a, rfl, h⟩
  | error f => cases h

/-- A computation that breaks off has done so in its first step or later. -/
theorem Result.error_of_bind (h : x >>= g = .error f) :
    x = .error f ∨ ∃ a, x = .ok a ∧ g a = .error f := by
  cases x with
  | ok a => exact Or.inr ⟨a, rfl, h⟩
  | error f' => exact Or.inl (congrArg Except.error (Except.error.inj h))

end Results

/-! ## Names of settings -/

namespace Field

/-- No setting is missing from the list. -/
theorem mem_all (field : Field) : field ∈ all := by
  cases field with
  | report kind =>
    rcases kind with _ | d
    · decide
    · cases d <;> decide
  | checkDefines | extensions | excludePatterns | followLinks | encoding => decide

/-- Settings have names of their own. -/
theorem nodup_keys : (all.map key).Nodup := by
  decide +kernel

/-- A setting is known by its name. -/
theorem key_injective {field other : Field} (h : field.key = other.key) : field = other :=
  List.inj_on_of_nodup_map nodup_keys (mem_all field) (mem_all other) h

/-- **A name is that of a setting** exactly if the setting is found by it. -/
theorem ofKey?_eq_some_iff {key : String} {field : Field} :
    ofKey? key = some field ↔ field.key = key := by
  unfold ofKey?
  constructor
  · intro h
    simpa only [beq_iff_eq] using List.find?_some h
  · rintro rfl
    cases hfind : all.find? (·.key == field.key) with
    | none =>
      have hother := List.find?_eq_none.1 hfind field (mem_all field)
      rw [beq_self_eq_true] at hother
      exact absurd rfl hother
    | some other =>
      have hkey : other.key = field.key := by
        simpa only [beq_iff_eq] using List.find?_some hfind
      rw [key_injective hkey]

end Field

/-! ## The environment -/

namespace Environment

variable {env : Environment} {fields : List Field} {entries : List (String × Value)}

/-- The value that its variable gives a setting. -/
def valueOf? (env : Environment) (field : Field) : Option Value :=
  (env.lookup field.variableName).bind (value? field)

/-- One more field: it has no variable, or its variable gives it a value. -/
theorem settingsOf_cons {field : Field} (h : env.settingsOf (field :: fields) = .ok entries) :
    (env.valueOf? field = none ∧ env.settingsOf fields = .ok entries)
      ∨ ∃ value rest, env.valueOf? field = some value ∧ env.settingsOf fields = .ok rest
        ∧ entries = (field.key, value) :: rest := by
  rw [settingsOf] at h
  unfold valueOf?
  cases hlookup : env.lookup field.variableName with
  | none =>
    rw [hlookup] at h
    exact Or.inl ⟨rfl, h⟩
  | some text =>
    rw [hlookup] at h
    dsimp only at h
    rw [Option.bind_some]
    cases hvalue : value? field text with
    | none =>
      rw [hvalue] at h
      cases h
    | some value =>
      rw [hvalue] at h
      cases hrest : env.settingsOf fields with
      | error f =>
        rw [hrest] at h
        cases h
      | ok rest =>
        rw [hrest] at h
        exact Or.inr ⟨value, rest, rfl, rfl, (Except.ok.inj h).symm⟩

/-- The settings of some fields stand in their order. -/
theorem keys_settingsOf (h : env.settingsOf fields = .ok entries) :
    (entries.map Prod.fst).Sublist (fields.map Field.key) := by
  induction fields generalizing entries with
  | nil =>
    obtain rfl := Except.ok.inj h
    exact List.Sublist.slnil
  | cons field fields ih =>
    rcases settingsOf_cons h with ⟨-, hrest⟩ | ⟨value, rest, -, hrest, rfl⟩
    · exact (ih hrest).cons field.key
    · exact (ih hrest).cons_cons field.key

/-- The settings of some fields are found by their names. -/
theorem lookupEntry_settingsOf (hdistinct : (fields.map Field.key).Nodup)
    (h : env.settingsOf fields = .ok entries) {field : Field} (hfield : field ∈ fields) :
    lookupEntry field.key entries = env.valueOf? field := by
  induction fields generalizing entries with
  | nil => cases hfield
  | cons first fields ih =>
    obtain ⟨hfresh, hfields⟩ := List.nodup_cons.1 hdistinct
    -- what comes later does not have the name of the first field
    have hlater : ∀ {rest}, env.settingsOf fields = .ok rest → lookupEntry first.key rest = none :=
      fun hrest =>
        lookupEntry_eq_none_iff.2 fun hmem => hfresh ((keys_settingsOf hrest).subset hmem)
    rcases settingsOf_cons h with ⟨hnone, hrest⟩ | ⟨value, rest, hvalue, hrest, rfl⟩
    · rcases List.mem_cons.1 hfield with rfl | hmem
      · rw [hlater hrest, hnone]
      · exact ih hfields hrest hmem
    · rw [lookupEntry_cons]
      rcases List.mem_cons.1 hfield with rfl | hmem
      · rw [if_pos rfl, hvalue]
      · rw [if_neg, ih hfields hrest hmem]
        intro hkey
        exact hfresh (hkey ▸ List.mem_map_of_mem hmem)

/-- **The environment gives a setting the value of its variable.** -/
theorem lookupEntry_settings (h : env.settings = .ok entries) (field : Field) :
    lookupEntry field.key entries = env.valueOf? field :=
  lookupEntry_settingsOf Field.nodup_keys h (Field.mem_all field)

/-- The environment gives no setting twice. -/
theorem distinct_settings (h : env.settings = .ok entries) : Distinct entries :=
  (keys_settingsOf h).nodup Field.nodup_keys

/-- An environment can be read if every variable in it has a text that its setting can be given. -/
theorem exists_settingsOf
    (h : ∀ field ∈ fields, ∀ text, env.lookup field.variableName = some text →
      (value? field text).isSome = true) :
    ∃ entries, env.settingsOf fields = .ok entries := by
  induction fields with
  | nil => exact ⟨[], rfl⟩
  | cons field fields ih =>
    obtain ⟨hfirst, hrest⟩ := List.forall_mem_cons.1 h
    obtain ⟨entries, hentries⟩ := ih hrest
    rw [settingsOf]
    cases hlookup : env.lookup field.variableName with
    | none => exact ⟨entries, hentries⟩
    | some text =>
      obtain ⟨value, hvalue⟩ := Option.isSome_iff_exists.1 (hfirst text hlookup)
      simp only [hvalue, hentries]
      exact ⟨_, rfl⟩

/-- What is wrong with the environment is a problem with settings. -/
theorem aboutSettings_of_settingsOf {f : Failure} (h : env.settingsOf fields = .error f) :
    f.AboutSettings := by
  induction fields with
  | nil => cases h
  | cons field fields ih =>
    rw [settingsOf] at h
    split at h
    · exact ih h
    · split at h
      · obtain rfl := Except.error.inj h
        exact Failure.aboutSettings_configuration _ _
      · cases hrest : env.settingsOf fields with
        | ok rest =>
          rw [hrest] at h
          cases h
        | error f' =>
          rw [hrest] at h ih
          exact ih (congrArg Except.error (Except.error.inj h))

end Environment

namespace Settings

/-! ## Files -/

section Files

variable {files : FileSystem} {layer : FileLayer} {path : Path} {entries : List (String × Value)}
  {f : Failure}

/-- **What a file says about settings:** the entries of the table of its own name, or of the whole
document where there is no such table. -/
def Says (files : FileSystem) (path : Path) (entries : List (String × Value)) : Prop :=
  ∃ bytes document, files.read path = .ok bytes ∧ Toml.tableOfBytes? bytes = some document
    ∧ (lookupEntry sectionName document = some (.table entries)
      ∨ lookupEntry sectionName document = none ∧ entries = document)

/-- **What a file says that need not exist:** nothing if it does not. -/
def SaysIfThere (files : FileSystem) (path : Path) (entries : List (String × Value)) : Prop :=
  files.exists? path = .ok false ∧ entries = []
    ∨ files.exists? path = .ok true ∧ Says files path entries

/-- No setting stands twice in a file. -/
theorem Says.distinct (h : Says files path entries) : Distinct entries := by
  obtain ⟨bytes, document, -, hdocument, hbelow | ⟨-, rfl⟩⟩ := h
  · have hkeyed := (Toml.wellKeyed_tableOfBytes hdocument).of_lookup hbelow
    exact (Toml.keyed_table_iff.1 hkeyed).distinct
  · exact (Toml.wellKeyed_tableOfBytes hdocument).distinct

/-- **The settings in a file** are what it says. -/
theorem inFile_eq_ok_iff : inFile files layer path = .ok entries ↔ Says files path entries := by
  unfold inFile
  constructor
  · intro h
    split at h
    · cases h
    · rename_i bytes hbytes
      split at h
      · cases h
      · rename_i document hdocument
        refine ⟨bytes, document, hbytes, hdocument, ?_⟩
        unfold inTable at h
        split at h
        · rename_i hnone
          exact Or.inr ⟨hnone, (Except.ok.inj h).symm⟩
        · rename_i below hbelow
          rw [← Except.ok.inj h]
          exact Or.inl hbelow
        · cases h
  · rintro ⟨bytes, document, hbytes, hdocument, hbelow | ⟨hnone, rfl⟩⟩
    · simp only [hbytes, hdocument, inTable, hbelow]
    · simp only [hbytes, hdocument, inTable, hnone]

/-- The settings in a file that need not exist are what it says, if it does. -/
theorem inFileIfThere_eq_ok_iff :
    inFileIfThere files layer path = .ok entries ↔ SaysIfThere files path entries := by
  unfold inFileIfThere SaysIfThere
  cases hexists : files.exists? path with
  | error e =>
    simp only [reduceCtorEq, false_and, or_self, iff_false]
    intro h
    cases FileError.eq_ok_of_lift h
  | ok there =>
    cases there with
    | false => simp only [Except.ok.injEq, eq_comm, true_and, reduceCtorEq, false_and, or_false]
    | true => simp only [inFile_eq_ok_iff, Except.ok.injEq, reduceCtorEq, false_and, true_and,
        false_or]

/-- The settings in a file that was named are what it says, and it has to exist. -/
theorem inNamedFile_eq_ok_iff :
    inNamedFile files path = .ok entries
      ↔ files.exists? path = .ok true ∧ Says files path entries := by
  unfold inNamedFile
  cases hexists : files.exists? path with
  | error e =>
    simp only [reduceCtorEq, false_and, iff_false]
    intro h
    cases FileError.eq_ok_of_lift h
  | ok there =>
    cases there with
    | false => simp only [Problem.raise, reduceCtorEq, Except.ok.injEq, false_and]
    | true => simp only [inFile_eq_ok_iff, true_and]

/-- A file that can be opened exists and says what its document says. -/
theorem says_of_find {location : List String} {bytes : List UInt8}
    {document : List (String × Value)}
    (hfind : files.find .target path = .ok (location, .file bytes false))
    (hdocument : Toml.tableOfBytes? bytes = some document)
    (hentries : lookupEntry sectionName document = some (.table entries)
      ∨ lookupEntry sectionName document = none ∧ entries = document) :
    files.exists? path = .ok true ∧ Says files path entries := by
  refine ⟨?_, bytes, document, ?_, hdocument, hentries⟩
  · unfold FileSystem.exists?
    rw [FileSystem.probe_of_find hfind]
    rfl
  · unfold FileSystem.read
    rw [hfind]
    rfl

/-- What is wrong with a file is a problem with settings. -/
theorem aboutSettings_of_inFile (h : inFile files layer path = .error f) : f.AboutSettings := by
  -- every failure is made by the words for a bad file
  have hbad : ∀ reason : String, Failure.AboutSettings (.problem (badFile layer path reason)) :=
    fun _ => Failure.aboutSettings_configuration _ _
  unfold inFile at h
  split at h
  · obtain rfl := Except.error.inj h
    exact hbad _
  · split at h
    · obtain rfl := Except.error.inj h
      exact hbad _
    · unfold inTable at h
      split at h
      · cases h
      · cases h
      · obtain rfl := Except.error.inj h
        exact hbad _

/-- No setting stands twice in a file that need not exist. -/
theorem SaysIfThere.distinct (h : SaysIfThere files path entries) : Distinct entries := by
  rcases h with ⟨-, rfl⟩ | ⟨-, hsays⟩
  · exact distinct_nil
  · exact hsays.distinct

/-- A question that is refused breaks off whatever asks it. -/
theorem refuses_of_exists {α : Type} {e : FileError} (hexists : files.exists? path = .error e)
    (h : (FileError.lift (.error e) : Result α) = .error f) :
    ∃ e, f = .file e ∧ files.Refuses path e := by
  have hasked : FileError.lift ((files.probe .target path).map Option.isSome) = .error f := by
    unfold FileSystem.exists? at hexists
    rw [hexists]
    cases e <;> exact congrArg Except.error (Except.error.inj h)
  exact FileSystem.refuses_of_lift hasked

/-- **Reading a file that need not exist** fails for a problem with it, or because the operating
system refuses to tell whether it exists. -/
theorem error_of_inFileIfThere (h : inFileIfThere files layer path = .error f) :
    f.AboutSettings ∨ ∃ e, f = .file e ∧ files.Refuses path e := by
  unfold inFileIfThere at h
  split at h
  · rename_i hexists
    exact Or.inr (refuses_of_exists hexists h)
  · cases h
  · exact Or.inl (aboutSettings_of_inFile h)

/-- **Reading a file that was named** fails for the same reasons, or because it does not exist. -/
theorem error_of_inNamedFile (h : inNamedFile files path = .error f) :
    f.AboutSettings ∨ ∃ e, f = .file e ∧ files.Refuses path e := by
  unfold inNamedFile at h
  split at h
  · rename_i hexists
    exact Or.inr (refuses_of_exists hexists h)
  · obtain rfl := Except.error.inj h
    exact Or.inl (Failure.aboutSettings_configuration _ _)
  · exact Or.inl (aboutSettings_of_inFile h)

end Files

/-! ## What is asked for directly -/

section Given

variable {overrides : List (String × Value)} {key : String}

/-- A value is there unless it is null. -/
def isThere : Value → Bool
  | .null => false
  | _ => true

/-- What is given are the values that are there. -/
theorem given_eq : given overrides = overrides.filter fun e => isThere e.2 := by
  unfold given
  congr 1
  funext e
  obtain ⟨key, value⟩ := e
  cases value <;> rfl

/-- Leaving entries out brings no key in twice. -/
theorem distinct_given (h : Distinct overrides) : Distinct (given overrides) := by
  rw [given_eq]
  exact h.sublist (List.filter_sublist.map Prod.fst)

/-- **What is given under a key** is the value that stands there, unless that is null. -/
theorem lookupEntry_given (h : Distinct overrides) :
    lookupEntry key (given overrides) = (lookupEntry key overrides).filter isThere := by
  rw [given_eq, lookupEntry_filter h]

end Given

/-! ## All layers -/

section Layers

variable {s : Surroundings} {named : Option Path} {overrides : List (String × Value)}
  {stack : List (List (String × Value))} {f : Failure}

/-- **The layers below what is asked for directly.** -/
structure Reads (s : Surroundings) (named : Option Path)
    (home project explicit environment : List (String × Value)) : Prop where
  ofHome : inFileIfThere s.files .home (homeFile s) = .ok home
  ofProject : inFileIfThere s.files .project (projectFile s) = .ok project
  ofNamed : ∀ path, named = some path → inNamedFile s.files path = .ok explicit
  ofNone : named = none → explicit = []
  ofEnvironment : s.environment.settings = .ok environment

/-- **What the layers that are files say.** -/
theorem Reads.says {home project explicit environment : List (String × Value)}
    (h : Reads s named home project explicit environment) :
    SaysIfThere s.files (homeFile s) home ∧ SaysIfThere s.files (projectFile s) project
      ∧ (∀ path, named = some path → s.files.exists? path = .ok true ∧ Says s.files path explicit)
      ∧ (named = none → explicit = []) :=
  ⟨inFileIfThere_eq_ok_iff.1 h.ofHome, inFileIfThere_eq_ok_iff.1 h.ofProject,
    fun path hpath => inNamedFile_eq_ok_iff.1 (h.ofNamed path hpath), h.ofNone⟩

/-- The files that are looked for. -/
def filesAsked (s : Surroundings) (named : Option Path) : List Path :=
  [homeFile s, projectFile s] ++ named.toList

/-- All layers are read, from the lowest to the highest. -/
theorem layers_eq_ok_iff :
    layers s named overrides = .ok stack
      ↔ ∃ home project explicit environment, Reads s named home project explicit environment
        ∧ stack = [home, project, explicit, environment, given overrides] := by
  unfold layers
  constructor
  · intro h
    obtain ⟨home, hhome, h⟩ := Result.ok_of_bind h
    obtain ⟨project, hproject, h⟩ := Result.ok_of_bind h
    cases named with
    | none =>
      obtain ⟨explicit, hexplicit, h⟩ := Result.ok_of_bind h
      obtain ⟨environment, henvironment, h⟩ := Result.ok_of_bind h
      refine ⟨home, project, explicit, environment, ?_, (Except.ok.inj h).symm⟩
      exact ⟨hhome, hproject, nofun,
        fun _ => (Except.ok.inj hexplicit).symm, henvironment⟩
    | some path =>
      obtain ⟨explicit, hexplicit, h⟩ := Result.ok_of_bind h
      obtain ⟨environment, henvironment, h⟩ := Result.ok_of_bind h
      refine ⟨home, project, explicit, environment, ?_, (Except.ok.inj h).symm⟩
      refine ⟨hhome, hproject, ?_, nofun, henvironment⟩
      intro other hother
      rw [← Option.some.inj hother]
      exact hexplicit
  · rintro ⟨home, project, explicit, environment, hreads, rfl⟩
    cases named with
    | none =>
      simp only [hreads.ofHome, hreads.ofProject, hreads.ofNone rfl, hreads.ofEnvironment]
      rfl
    | some path =>
      simp only [hreads.ofHome, hreads.ofProject, hreads.ofNamed path rfl, hreads.ofEnvironment]
      rfl

/-- There is one way to read the layers. -/
theorem Reads.unique {home home' project project' explicit explicit' environment environment' :
    List (String × Value)} (h : Reads s named home project explicit environment)
    (h' : Reads s named home' project' explicit' environment') :
    home = home' ∧ project = project' ∧ explicit = explicit' ∧ environment = environment' := by
  have hlayers : layers s named [] = .ok [home, project, explicit, environment, []] :=
    layers_eq_ok_iff.2 ⟨home, project, explicit, environment, h, rfl⟩
  have hlayers' : layers s named [] = .ok [home', project', explicit', environment', []] :=
    layers_eq_ok_iff.2 ⟨home', project', explicit', environment', h', rfl⟩
  have hsame := Except.ok.inj (hlayers.symm.trans hlayers')
  simp only [List.cons.injEq, and_true] at hsame
  exact hsame

/-- **Layers that cannot be read** are a problem with settings, or the operating system refuses to
tell whether one of the files exists. -/
theorem error_of_layers (h : layers s named overrides = .error f) :
    f.AboutSettings
      ∨ ∃ path ∈ filesAsked s named, ∃ e, f = .file e ∧ s.files.Refuses path e := by
  unfold layers at h
  rcases Result.error_of_bind h with h | ⟨home, -, h⟩
  · refine (error_of_inFileIfThere h).imp_right fun hrefuses => ⟨homeFile s, ?_, hrefuses⟩
    simp [filesAsked]
  rcases Result.error_of_bind h with h | ⟨project, -, h⟩
  · refine (error_of_inFileIfThere h).imp_right fun hrefuses => ⟨projectFile s, ?_, hrefuses⟩
    simp [filesAsked]
  cases named with
  | none =>
    rcases Result.error_of_bind h with h | ⟨explicit, -, h⟩
    · cases h
    rcases Result.error_of_bind h with h | ⟨environment, -, h⟩
    · exact Or.inl (Environment.aboutSettings_of_settingsOf h)
    · cases h
  | some path =>
    rcases Result.error_of_bind h with h | ⟨explicit, -, h⟩
    · refine (error_of_inNamedFile h).imp_right fun hrefuses => ⟨path, ?_, hrefuses⟩
      simp [filesAsked]
    rcases Result.error_of_bind h with h | ⟨environment, -, h⟩
    · exact Or.inl (Environment.aboutSettings_of_settingsOf h)
    · cases h

/-- No layer has a key twice. -/
theorem distinct_of_layers (hdistinct : Distinct overrides)
    (h : layers s named overrides = .ok stack) : ∀ layer ∈ stack, Distinct layer := by
  obtain ⟨home, project, explicit, environment, hreads, rfl⟩ := layers_eq_ok_iff.1 h
  have hexplicit : Distinct explicit := by
    cases named with
    | none => exact hreads.ofNone rfl ▸ distinct_nil
    | some path => exact (inNamedFile_eq_ok_iff.1 (hreads.ofNamed path rfl)).2.distinct
  intro layer hlayer
  simp only [List.mem_cons, List.not_mem_nil, or_false] at hlayer
  rcases hlayer with rfl | rfl | rfl | rfl | rfl
  · exact (inFileIfThere_eq_ok_iff.1 hreads.ofHome).distinct
  · exact (inFileIfThere_eq_ok_iff.1 hreads.ofProject).distinct
  · exact hexplicit
  · exact Environment.distinct_settings hreads.ofEnvironment
  · exact distinct_given hdistinct

end Layers

end Settings

/-! ## A single file -/

/-- Surroundings with a file of settings in the current directory and none elsewhere. -/
def Surroundings.withProject (bytes : List UInt8) (environment : Environment) : Surroundings where
  files := { root := [(Settings.fileName, .file bytes false)], current := [] }
  home := ⟨"/", ["home"]⟩
  environment

namespace Surroundings

open Settings

variable (bytes : List UInt8) (environment : Environment)

/-- There is no file in the home directory. -/
theorem find_homeFile :
    (withProject bytes environment).files.find .target (homeFile (withProject bytes environment))
      = .error .notFound := by
  have hpath : homeFile (withProject bytes environment)
      = ⟨"/", ["home", ".doccomment-checker.toml"]⟩ := by cbv
  have hnext : (withProject bytes environment).files.next FileSystem.maxLinks [] "home"
      = .error .notFound := by cbv
  have hfollowed :
      FileSystem.refusal? (Path.shown ⟨"/", ["home", ".doccomment-checker.toml"]⟩) = none := by cbv
  rw [hpath]
  unfold FileSystem.find FileSystem.follow
  rw [hfollowed]
  dsimp only
  rw [FileSystem.walk_cons (Or.inl rfl), if_pos (by cbv), hnext]
  rfl

/-- There is one in the current directory. -/
theorem find_projectFile :
    (withProject bytes environment).files.find .target (projectFile (withProject bytes environment))
      = .ok ([fileName], .file bytes false) := by
  have hentry : FileSystem.entry? fileName (withProject bytes environment).files.root
      = some (.file bytes false) := List.lookup_cons_self
  exact FileSystem.find_in_root (by cbv) hentry (by decide) (by cbv) nofun

variable {bytes environment}

/-- **The layers of a single file,** which keeps its settings at the top. -/
theorem layers_withProject {document settings : List (String × Value)}
    (overrides : List (String × Value)) (hdocument : Toml.tableOfBytes? bytes = some document)
    (htop : lookupEntry sectionName document = none)
    (hsettings : environment.settings = .ok settings) :
    layers (withProject bytes environment) none overrides
      = .ok [[], document, [], settings, given overrides] := by
  refine layers_eq_ok_iff.2 ⟨[], document, [], settings, ?_, rfl⟩
  constructor
  · unfold inFileIfThere FileSystem.exists? FileSystem.probe
    rw [find_homeFile]
    rfl
  · exact inFileIfThere_eq_ok_iff.2 (Or.inr
      (says_of_find (find_projectFile _ _) hdocument (Or.inr ⟨htop, rfl⟩)))
  · intro path hpath
    cases hpath
  · exact fun _ => rfl
  · exact hsettings

end Surroundings

end DocCoverage
