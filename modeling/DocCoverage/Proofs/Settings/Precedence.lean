/-
Which layer a setting has its value from. A setting that is no report flag has the value of the
highest layer that sets it: the request to look at calls of `define`, which sets that setting only,
the environment, the file that was named, the one of the project, the one in the home directory.
What the command line says about reports changes none of them.

A report flag is on if everything is to be reported. Otherwise its own flag on the command line
counts, then the wish that nothing be reported, and then the layers. The choices about reports never
make settings fail: settings that were accepted stay accepted, whatever their report flags are.
-/
import DocCoverage.Proofs.Settings.InForce

set_option autoImplicit false

namespace DocCoverage

/-! ## Report flags -/

namespace Settings

variable {s : Settings} {flags others : EntityKind → Value}

/-- **The settings with other report flags.** -/
def withReports (s : Settings) (flags : EntityKind → Value) : Settings :=
  ⟨fun
    | .report kind => flags kind
    | field => s.value field⟩

/-- The report flags that settings have change nothing. -/
theorem withReports_self : s.withReports (fun kind => s.value (.report kind)) = s := by
  unfold withReports
  congr 1
  funext field
  cases field <;> rfl

/-- The report flags that are set last are kept. -/
theorem withReports_withReports :
    (s.withReports others).withReports flags = s.withReports flags := by
  unfold withReports
  congr 1
  funext field
  cases field <;> rfl

/-- Turning all report flags on or off is one way to set them. -/
theorem withAllReports_eq (enabled : Bool) :
    s.withAllReports enabled = s.withReports fun _ => .bool enabled := rfl

/-- **Settings are accepted whatever their report flags are.** -/
theorem check_withReports (haccepted : s.check = .ok s) :
    (s.withReports flags).check = .ok (s.withReports flags) :=
  check_eq_ok_iff.2 ⟨rfl, (check_eq_ok_iff.1 haccepted).2⟩

end Settings

open Settings

/-! ## Choices about reports -/

namespace Choices

variable {c : Choices} {base settings : Settings}

/-- **The flags are about reports,** and none is given twice. -/
structure AboutReports (c : Choices) : Prop where
  flags : ∀ key ∈ c.flags.map Prod.fst, ∃ kind, (Field.report kind).key = key
  distinct : Distinct c.flags

/-- What the flag of a kind is set to, unless that is null. -/
def flag? (c : Choices) (kind : EntityKind) : Option Value :=
  (lookupEntry (Field.report kind).key c.flags).filter isThere

/-- What is asked for directly has one name. -/
theorem distinct_overrides (c : Choices) : Distinct c.overrides := List.nodup_singleton _

/-- Flags about reports that are given are settings. -/
theorem known_given (hc : c.AboutReports) : Known (given c.flags) := by
  intro key hkey
  rw [given_eq] at hkey
  obtain ⟨kind, hkind⟩ := hc.flags key ((List.filter_sublist.map Prod.fst).subset hkey)
  exact ⟨.report kind, hkind⟩

/-- No flag about reports has the name of another setting. -/
theorem lookupEntry_given_of_other (hc : c.AboutReports) {field : Field}
    (hfield : ∀ kind, Field.report kind ≠ field) :
    lookupEntry field.key (given c.flags) = none := by
  rw [lookupEntry_given hc.distinct, lookupEntry_eq_none_iff.2]
  · rfl
  · intro hmem
    obtain ⟨kind, hkind⟩ := hc.flags _ hmem
    exact hfield kind (Field.key_injective hkind)

/-- **Flags about reports** set the kinds they are about. -/
theorem changedBy_given (hc : c.AboutReports) :
    base.changedBy (given c.flags)
      = base.withReports fun kind => (c.flag? kind).getD (base.value (.report kind)) := by
  unfold changedBy withReports
  congr 1
  funext field
  cases field with
  | report kind =>
    dsimp only
    rw [lookupEntry_given hc.distinct, flag?]
  | checkDefines | extensions | excludePatterns | followLinks | encoding =>
    rw [lookupEntry_given_of_other hc, Option.getD_none]
    intro kind hkind
    cases hkind

/-- Flags about reports can always be put over settings that are accepted. -/
theorem change_given (hc : c.AboutReports) (haccepted : base.check = .ok base) :
    base.change (given c.flags) = .ok (base.changedBy (given c.flags)) := by
  refine (change_eq_ok_iff (distinct_given hc.distinct)).2 ⟨known_given hc, ?_⟩
  rw [changedBy_given hc]
  exact check_withReports haccepted

/-- **What a report flag is in the end,** where its layers give it a value. -/
def flagOver (c : Choices) (layered : EntityKind → Value) (kind : EntityKind) : Value :=
  if c.reportAll then .bool true
  else (c.flag? kind).getD (if c.reportNone then .bool false else layered kind)

/-- The settings before the single flags are looked at. -/
def beforeFlags (c : Choices) (base : Settings) : Settings :=
  base.withReports fun kind => if c.reportNone then .bool false else base.value (.report kind)

/-- That nothing is to be reported comes before the single flags. -/
theorem beforeFlags_eq :
    (if c.reportNone = true then base.withAllReports false else base) = c.beforeFlags base := by
  unfold beforeFlags
  cases c.reportNone with
  | true => rfl
  | false => exact withReports_self.symm

/-- That everything is to be reported comes behind them. -/
theorem afterFlags_eq (hc : c.AboutReports) :
    (if c.reportAll = true then ((c.beforeFlags base).changedBy (given c.flags)).withAllReports true
      else (c.beforeFlags base).changedBy (given c.flags))
      = base.withReports (c.flagOver fun kind => base.value (.report kind)) := by
  rw [changedBy_given hc]
  unfold beforeFlags flagOver
  cases c.reportAll with
  | true => simp only [if_true, withAllReports_eq, withReports_withReports]
  | false => exact withReports_withReports

/-- **The choices about reports never fail** on settings that are accepted, and they set report
flags only. -/
theorem apply_eq (hc : c.AboutReports) (haccepted : base.check = .ok base) :
    c.apply base
      = .ok (base.withReports (c.flagOver fun kind => base.value (.report kind))) := by
  have hbefore : (c.beforeFlags base).check = .ok (c.beforeFlags base) :=
    check_withReports haccepted
  have hchange := change_given hc hbefore
  -- without flags the settings are not checked again, and nothing is changed
  rw [← afterFlags_eq hc]
  unfold apply
  dsimp only
  rw [beforeFlags_eq]
  cases hgiven : given c.flags with
  | nil => rfl
  | cons first rest =>
    rw [hgiven] at hchange
    dsimp only
    rw [hchange]
    rfl

/-- **Settings are resolved** exactly if they are loaded: the choices about reports never fail. -/
theorem resolve_eq_ok_iff {s : Surroundings} (hc : c.AboutReports) :
    Settings.resolve s c = .ok settings
      ↔ ∃ base, Settings.load s c.file c.overrides = .ok base
        ∧ settings = base.withReports (c.flagOver fun kind => base.value (.report kind)) := by
  have haccepted : ∀ {base}, Settings.load s c.file c.overrides = .ok base →
      base.check = .ok base := by
    intro base hload
    obtain ⟨stack, -, -, hcheck⟩ := (load_eq_ok_iff (distinct_overrides c)).1 hload
    obtain ⟨rfl, hparts⟩ := check_eq_ok_iff.1 hcheck
    exact hcheck
  constructor
  · intro h
    obtain ⟨base, hload, happly⟩ := Result.ok_of_bind h
    rw [apply_eq hc (haccepted hload)] at happly
    exact ⟨base, hload, (Except.ok.inj happly).symm⟩
  · rintro ⟨base, hload, rfl⟩
    unfold Settings.resolve
    rw [hload]
    exact apply_eq hc (haccepted hload)

end Choices

/-! ## Layers -/

/-- **The value of a setting before the choices about reports:** that of the highest layer that sets
it. -/
def Settings.layered (s : Surroundings) (checkDefines : Bool)
    (home project explicit : List (String × Value)) (field : Field) : Value :=
  ((if field = .checkDefines ∧ checkDefines = true then some (.bool true) else none).or
    ((s.environment.valueOf? field).or
      ((lookupEntry field.key explicit).or
        ((lookupEntry field.key project).or (lookupEntry field.key home))))).getD field.default

namespace Choices

variable {c : Choices}

/-- What is asked for directly is that calls of `define` are looked at. -/
theorem lookupEntry_given_overrides (field : Field) :
    lookupEntry field.key (given c.overrides)
      = if field = .checkDefines ∧ c.checkDefines = true then some (.bool true) else none := by
  rw [lookupEntry_given c.distinct_overrides]
  unfold overrides
  rw [lookupEntry_cons]
  by_cases hfield : field = .checkDefines
  · subst hfield
    cases c.checkDefines <;> rfl
  · rw [if_neg fun hkey => hfield (Field.key_injective hkey), if_neg fun hboth => hfield hboth.1]
    rfl

/-- **The settings in force** are those of the highest layer that sets them. -/
theorem value_inForce {s : Surroundings} {home project explicit environment : List (String × Value)}
    (henvironment : s.environment.settings = .ok environment) (field : Field) :
    (inForce [home, project, explicit, environment, given c.overrides]).value field
      = layered s c.checkDefines home project explicit field := by
  unfold layered
  simp only [inForce_value, highest, Option.none_or, Option.or_assoc, lookupEntry_given_overrides,
    Environment.lookupEntry_settings henvironment]

end Choices

/-- **The layers and the choices about reports** make up the settings of a run. A setting that is no
report flag has the value of the highest layer that sets it. A report flag is on if everything is to
be reported; otherwise it has the value of its own flag, is off if nothing is to be reported, or has
its value from the layers. The layers that are files set what the files say. -/
theorem resolve_value {s : Surroundings} {c : Choices} {settings : Settings} (hc : c.AboutReports)
    (h : Settings.resolve s c = .ok settings) :
    ∃ home project explicit environment, Reads s c.file home project explicit environment
      ∧ (SaysIfThere s.files (homeFile s) home ∧ SaysIfThere s.files (projectFile s) project
        ∧ (∀ path, c.file = some path →
          s.files.exists? path = .ok true ∧ Says s.files path explicit)
        ∧ (c.file = none → explicit = []))
      ∧ (∀ field, (∀ kind, Field.report kind ≠ field) →
        settings.value field = layered s c.checkDefines home project explicit field)
      ∧ ∀ kind, settings.value (.report kind) =
        if c.reportAll then .bool true
        else (c.flag? kind).getD
          (if c.reportNone then .bool false
          else layered s c.checkDefines home project explicit (.report kind)) := by
  obtain ⟨base, hload, rfl⟩ := (Choices.resolve_eq_ok_iff hc).1 h
  obtain ⟨stack, hlayers, -, hcheck⟩ := (load_eq_ok_iff c.distinct_overrides).1 hload
  obtain ⟨home, project, explicit, environment, hreads, rfl⟩ := layers_eq_ok_iff.1 hlayers
  have hvalue : ∀ field,
      base.value field = layered s c.checkDefines home project explicit field := by
    intro field
    rw [(check_eq_ok_iff.1 hcheck).1]
    exact Choices.value_inForce hreads.ofEnvironment field
  refine ⟨home, project, explicit, environment, hreads, hreads.says, ?_, ?_⟩
  · intro field hfield
    rw [← hvalue]
    cases field with
    | report kind => exact absurd rfl (hfield kind)
    | checkDefines | extensions | excludePatterns | followLinks | encoding => rfl
  · intro kind
    rw [← hvalue]
    rfl

/-! ## An example with all layers -/

/-- The file in the home directory: a setting of its own, and one that the project sets too. -/
def exampleHome : List UInt8 := "extensions = true\nfollow_symlinks = true\n".toUTF8.toList

/-- The file of the project, with a table: a setting from below, and one that the named file sets
too. -/
def exampleProject : List UInt8 :=
  "[doccomment-checker]\nextensions = ['.b']\nexclude_patterns = true\n".toUTF8.toList

/-- The file that is named: a setting from below, and one that the environment sets too. -/
def exampleNamed : List UInt8 := "exclude_patterns = ['c']\nencoding = true\n".toUTF8.toList

/-- Surroundings in which every layer sets something that the next one sets too. -/
def Surroundings.everyLayer : Surroundings where
  files :=
    { root := [("home", .directory [(".doccomment-checker.toml", .file exampleHome false)] false),
        ("doccomment-checker.toml", .file exampleProject false),
        ("c.toml", .file exampleNamed false)]
      current := [] }
  home := ⟨"/", ["home"]⟩
  environment := [("DOCCHECK_CHECK_DEFINE_CONSTANTS", "no"), ("DOCCHECK_ENCODING", "utf-16")]

/-- Choices that name a file, and leave some report flags to what is below them. -/
def Choices.someFlags : Choices where
  file := some ⟨"/", ["c.toml"]⟩
  flags := [("report_function", .bool true), ("report_class", .null)]
  reportNone := true
  checkDefines := true

/-- The flags of the example are about reports. -/
theorem Choices.aboutReports_someFlags : Choices.someFlags.AboutReports where
  flags key hkey := by
    rcases List.mem_cons.1 hkey with rfl | hkey
    · exact ⟨.declared .function, rfl⟩
    · rw [List.mem_singleton.1 hkey]
      exact ⟨.declared .classDecl, rfl⟩
  distinct := by
    unfold Distinct
    decide

namespace Surroundings

/-- What the file in the home directory says. -/
theorem home_everyLayer :
    SaysIfThere everyLayer.files (homeFile everyLayer)
      [("extensions", .bool true), ("follow_symlinks", .bool true)] := by
  have hdirectory : FileSystem.entry? "home" everyLayer.files.root = some (.directory
      [(".doccomment-checker.toml", .file exampleHome false)] false) := rfl
  have hhome := FileSystem.find_in_root (by cbv) hdirectory (by decide) (by cbv)
    fun _ h => by cases h
  have hplain : Path.Plain ⟨"/", ["home"]⟩ := FileSystem.plain_root.child (by decide)
  have hentry : FileSystem.entry? ".doccomment-checker.toml"
      [(".doccomment-checker.toml", .file exampleHome false)]
      = some (.file exampleHome false) := List.lookup_cons_self
  have hfind := FileSystem.find_child_of_short hplain (by cbv) hhome hentry (by decide) (by cbv)
    .target (by decide) (Or.inr fun _ h => by cases h)
  have hpath : homeFile everyLayer
      = Path.child ⟨"/", ["home"]⟩ ".doccomment-checker.toml" := by decide +kernel
  have hdocument : Toml.tableOfBytes? exampleHome
      = some [("extensions", .bool true), ("follow_symlinks", .bool true)] := by cbv
  rw [hpath]
  exact Or.inr (says_of_find hfind hdocument (Or.inr ⟨rfl, rfl⟩))

/-- What the file of the project says. -/
theorem project_everyLayer :
    SaysIfThere everyLayer.files (projectFile everyLayer)
      [("extensions", .list [.text ".b"]), ("exclude_patterns", .bool true)] := by
  have hentry : FileSystem.entry? fileName everyLayer.files.root
      = some (.file exampleProject false) := by rfl
  have hfind := FileSystem.find_in_root (by cbv) hentry (by decide) (by cbv)
    fun _ h => by cases h
  have hdocument : Toml.tableOfBytes? exampleProject = some [("doccomment-checker",
      .table [("extensions", .list [.text ".b"]), ("exclude_patterns", .bool true)])] := by cbv
  exact Or.inr (says_of_find hfind hdocument (Or.inl rfl))

/-- What the file that is named says. -/
theorem named_everyLayer :
    everyLayer.files.exists? ⟨"/", ["c.toml"]⟩ = .ok true
      ∧ Says everyLayer.files ⟨"/", ["c.toml"]⟩
        [("exclude_patterns", .list [.text "c"]), ("encoding", .bool true)] := by
  have hentry : FileSystem.entry? "c.toml" everyLayer.files.root
      = some (.file exampleNamed false) := by rfl
  have hfind := FileSystem.find_in_root (by cbv) hentry (by decide) (by cbv)
    fun _ h => by cases h
  have hdocument : Toml.tableOfBytes? exampleNamed
      = some [("exclude_patterns", .list [.text "c"]), ("encoding", .bool true)] := by cbv
  exact says_of_find hfind hdocument (Or.inr ⟨rfl, rfl⟩)

/-- The environment can be read. -/
theorem environment_everyLayer :
    ∃ environment, everyLayer.environment.settings = .ok environment := by
  have hread : (Field.all.all fun field =>
      ((everyLayer.environment.lookup field.variableName).map fun text =>
        (Environment.value? field text).isSome).getD true) = true := by decide +kernel
  refine Environment.exists_settingsOf fun field hfield text htext => ?_
  have hfield := List.all_eq_true.1 hread field hfield
  rwa [htext] at hfield

/-- The environment has the encoding. -/
theorem encoding_everyLayer :
    everyLayer.environment.valueOf? .encoding = some (.text "utf-16") := by
  have hlookup : everyLayer.environment.lookup (Field.variableName .encoding) = some "utf-16" := by
    decide +kernel
  unfold Environment.valueOf?
  rw [hlookup]
  rfl

/-- The environment has no setting but the encoding and whether calls of `define` are looked at. -/
theorem valueOf_everyLayer {field : Field} (h : field ∉ [.checkDefines, .encoding]) :
    everyLayer.environment.valueOf? field = none := by
  have hvariables : (Field.all.filter fun field =>
      (everyLayer.environment.lookup field.variableName).isSome)
      = [.checkDefines, .encoding] := by decide +kernel
  have hlookup : everyLayer.environment.lookup field.variableName = none := by
    rw [← hvariables, List.mem_filter, not_and] at h
    exact Option.not_isSome_iff_eq_none.1 (h field.mem_all)
  unfold Environment.valueOf?
  rw [hlookup]
  rfl

/-- The layers of the example. -/
theorem reads_everyLayer {environment : List (String × Value)}
    (h : everyLayer.environment.settings = .ok environment) :
    Reads everyLayer (some ⟨"/", ["c.toml"]⟩)
      [("extensions", .bool true), ("follow_symlinks", .bool true)]
      [("extensions", .list [.text ".b"]), ("exclude_patterns", .bool true)]
      [("exclude_patterns", .list [.text "c"]), ("encoding", .bool true)] environment where
  ofHome := inFileIfThere_eq_ok_iff.2 home_everyLayer
  ofProject := inFileIfThere_eq_ok_iff.2 project_everyLayer
  ofNamed path hpath := by
    obtain rfl := Option.some.inj hpath
    exact inNamedFile_eq_ok_iff.2 named_everyLayer
  ofNone hnone := by cases hnone
  ofEnvironment := h

/-- All keys of the layers are settings. -/
theorem known_everyLayer {environment : List (String × Value)}
    (h : everyLayer.environment.settings = .ok environment) :
    ∀ layer ∈ [[("extensions", .bool true), ("follow_symlinks", .bool true)],
      [("extensions", .list [.text ".b"]), ("exclude_patterns", .bool true)],
      [("exclude_patterns", .list [.text "c"]), ("encoding", .bool true)], environment,
      given Choices.someFlags.overrides], Known layer := by
  have henvironment : Known environment := by
    intro key hkey
    obtain ⟨field, -, hfield⟩ := List.mem_map.1 ((Environment.keys_settingsOf h).subset hkey)
    exact ⟨field, hfield⟩
  simp only [List.mem_cons, List.not_mem_nil, or_false, forall_eq_or_imp, forall_eq]
  refine ⟨?_, ?_, ?_, henvironment, ?_⟩
  all_goals
    rw [known_iff]
    decide +kernel

end Surroundings

/-- The settings of the example are accepted. -/
theorem Choices.exists_resolve_someFlags :
    ∃ settings, Settings.resolve .everyLayer .someFlags = .ok settings := by
  obtain ⟨environment, henvironment⟩ := Surroundings.environment_everyLayer
  have hlayers : layers .everyLayer someFlags.file someFlags.overrides = .ok _ :=
    layers_eq_ok_iff.2 ⟨_, _, _, environment, Surroundings.reads_everyLayer henvironment, rfl⟩
  have hload := (load_eq_ok_iff Choices.someFlags.distinct_overrides).2 ⟨_, hlayers,
    Surroundings.known_everyLayer henvironment, check_eq_ok_iff.2 ⟨rfl, ?_, ?_⟩⟩
  · exact ⟨_, (Choices.resolve_eq_ok_iff Choices.aboutReports_someFlags).2 ⟨_, hload, rfl⟩⟩
  · rw [Choices.value_inForce henvironment, layered, Surroundings.valueOf_everyLayer (by decide)]
    cbv
  · rw [Choices.value_inForce henvironment, layered, Surroundings.encoding_everyLayer]
    cbv

/-- Every layer wins over the one below it: links are followed as the file in the home directory
says, the suffixes are those of the project, the patterns those of the file that is named, the
encoding that of the environment, and calls of `define` are looked at as was asked for. A flag that
is null leaves classes to the wish that nothing be reported. -/
theorem resolve_value_of_every_layer :
    ∃ settings, Settings.resolve .everyLayer .someFlags = .ok settings
      ∧ settings.value .followLinks = .bool true
      ∧ settings.value .extensions = .list [.text ".b"]
      ∧ settings.value .excludePatterns = .list [.text "c"]
      ∧ settings.value .encoding = .text "utf-16"
      ∧ settings.value .checkDefines = .bool true
      ∧ settings.value (.report (.declared .function)) = .bool true
      ∧ settings.value (.report (.declared .classDecl)) = .bool false := by
  obtain ⟨settings, hresolve⟩ := Choices.exists_resolve_someFlags
  obtain ⟨home, project, explicit, environment, hreads, -, hother, hreport⟩ :=
    resolve_value Choices.aboutReports_someFlags hresolve
  obtain ⟨rfl, rfl, rfl, -⟩ :=
    hreads.unique (Surroundings.reads_everyLayer hreads.ofEnvironment)
  refine ⟨settings, hresolve, ?_, ?_, ?_, ?_, ?_, ?_, ?_⟩
  · rw [hother .followLinks (fun _ h => by cases h), layered,
      Surroundings.valueOf_everyLayer (by decide)]
    cbv
  · rw [hother .extensions (fun _ h => by cases h), layered,
      Surroundings.valueOf_everyLayer (by decide)]
    cbv
  · rw [hother .excludePatterns (fun _ h => by cases h), layered,
      Surroundings.valueOf_everyLayer (by decide)]
    cbv
  · rw [hother .encoding (fun _ h => by cases h), layered, Surroundings.encoding_everyLayer]
    cbv
  · rw [hother .checkDefines (fun _ h => by cases h)]
    rfl
  · rw [hreport]
    rfl
  · rw [hreport]
    rfl

end DocCoverage
