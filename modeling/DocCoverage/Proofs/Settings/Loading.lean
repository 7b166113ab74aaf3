/-
How loading settings ends. What is promised is that settings come out as their types say, or that a
problem with settings is raised. Two names of an encoding break that promise: one that holds the
character zero, and that of the encoding in which nothing can be written. For all other values of
the types of their settings it is kept, and the environment gives only such values. A file or an
override may give any value, and then the check of the settings may break off at a suffix that is no
text; and a value that the check does not look at is kept as it is, whatever it is.

The other thing no problem covers is the operating system refusing to tell whether a file exists.
-/
import DocCoverage.Proofs.Settings.InForce

set_option autoImplicit false

namespace DocCoverage

/-! ## Types of settings -/

/-- **A value is of the type of a setting.** -/
def Field.Admits (field : Field) (v : Value) : Prop :=
  match field.form with
  | .switch => ∃ b, v = .bool b
  | .list => ∃ texts : List String, v = .list (texts.map .text)
  | .text => ∃ text, v = .text text

/-- The value of a setting that nobody set is of its type. -/
theorem Field.admits_default (field : Field) : field.Admits field.default := by
  cases field with
  | report kind => exact ⟨true, rfl⟩
  | checkDefines | followLinks => exact ⟨false, rfl⟩
  | extensions => exact ⟨[".php"], rfl⟩
  | excludePatterns => exact ⟨[".git", ".svn", ".hg"], rfl⟩
  | encoding => exact ⟨"utf-8", rfl⟩

/-- **The environment gives a setting only values of its type.** -/
theorem Environment.admits_of_valueOf {env : Environment} {field : Field} {v : Value}
    (h : env.valueOf? field = some v) : field.Admits v := by
  obtain ⟨text, -, hvalue⟩ := Option.bind_eq_some_iff.1 h
  unfold value? at hvalue
  unfold Field.Admits
  cases hform : field.form with
  | switch =>
    rw [hform] at hvalue
    obtain ⟨b, -, rfl⟩ := Option.map_eq_some_iff.1 hvalue
    exact ⟨b, rfl⟩
  | list =>
    rw [hform] at hvalue
    exact ⟨elements text, (Option.some.inj hvalue).symm⟩
  | text =>
    rw [hform] at hvalue
    exact ⟨text, (Option.some.inj hvalue).symm⟩

namespace Settings

/-- **Settings as their types say:** switches are on or off, suffixes are texts that begin with a
dot, patterns are texts, and the encoding is known. -/
structure WellFormed (s : Settings) : Prop where
  switches : ∀ field : Field, field.form = .switch → ∃ b, s.value field = .bool b
  suffixes : ∃ suffixes : List String, s.value .extensions = .list (suffixes.map .text)
    ∧ ∀ suffix ∈ suffixes, suffix.startsWith "." = true
  patterns : ∃ patterns : List String, s.value .excludePatterns = .list (patterns.map .text)
  encoding : ∃ name, s.value .encoding = .text name ∧ (Encoding.ofName? name).isSome = true

/-- **Accepted settings are as their types say** exactly if every value is of its type. -/
theorem wellFormed_iff {s : Settings} (haccepted : s.check = .ok s) :
    s.WellFormed ↔ ∀ field : Field, field.Admits (s.value field) := by
  obtain ⟨-, hextensions, hencoding⟩ := check_eq_ok_iff.1 haccepted
  constructor
  · intro h field
    cases hform : field.form with
    | switch =>
      unfold Field.Admits
      rw [hform]
      exact h.switches field hform
    | list =>
      cases field with
      | extensions =>
        obtain ⟨suffixes, hsuffixes, -⟩ := h.suffixes
        exact ⟨suffixes, hsuffixes⟩
      | excludePatterns => exact h.patterns
      | report kind | checkDefines | followLinks | encoding => cases hform
    | text =>
      cases field with
      | encoding =>
        obtain ⟨name, hname, -⟩ := h.encoding
        exact ⟨name, hname⟩
      | report kind | checkDefines | followLinks | extensions | excludePatterns => cases hform
  · intro h
    constructor
    · intro field hform
      have hadmits := h field
      unfold Field.Admits at hadmits
      rw [hform] at hadmits
      exact hadmits
    · -- the check has seen to the dots; that the suffixes are a list of texts it leaves open
      obtain ⟨texts, htexts⟩ : ∃ texts : List String, _ = Value.list _ := h .extensions
      obtain ⟨-, suffixes, hsuffixes, hdotted⟩ := checkExtensions_eq_ok_iff.1 hextensions
      rw [htexts] at hsuffixes
      exact ⟨suffixes, htexts.trans (congrArg Value.list (Except.ok.inj hsuffixes)), hdotted⟩
    · exact h .excludePatterns
    · obtain ⟨name, hname, -, encoding, hknown, -⟩ := checkEncoding_eq_ok_iff.1 hencoding
      exact ⟨name, hname, Option.isSome_of_mem hknown⟩

/-! ## Values at fault -/

section Faults

variable {s : Settings} {entries : List (String × Value)} {f : Failure}

/-- Some suffix is no text. -/
def HasOddSuffix (s : Settings) : Prop :=
  ∃ items, s.value .extensions = .list items ∧ ∃ item ∈ items, ∀ text, item ≠ .text text

/-- The name of the encoding holds the character zero. -/
def HasZeroInEncoding (s : Settings) : Prop :=
  ∃ name, s.value .encoding = .text name ∧ name.contains '\x00' = true

/-- The encoding is the one in which nothing can be written. -/
def HasUnusableEncoding (s : Settings) : Prop :=
  ∃ name, s.value .encoding = .text name ∧ Encoding.ofName? name = some .undefined

/-- **The check of settings breaks off** at what is at fault in them, without a problem with
settings. -/
inductive BreaksOff (s : Settings) : Failure → Prop
  | oddSuffix (h : s.HasOddSuffix) : BreaksOff s .notText
  | zeroInEncoding (h : s.HasZeroInEncoding) : BreaksOff s .zeroInName
  | unusableEncoding (h : s.HasUnusableEncoding) : BreaksOff s .unusableEncoding

/-- Only a list has elements that are no texts. -/
theorem eq_list_of_odd_element {v item : Value} {items : List Value}
    (helements : v.elements = .ok items) (hitem : item ∈ items)
    (hodd : ∀ text, item ≠ .text text) : v = .list items := by
  cases v with
  | list others =>
    rw [Except.ok.inj helements]
  | table entries =>
    obtain rfl := Except.ok.inj helements
    obtain ⟨e, -, rfl⟩ := List.mem_map.1 hitem
    exact absurd rfl (hodd _)
  | text s =>
    obtain rfl := Except.ok.inj helements
    obtain ⟨c, -, rfl⟩ := List.mem_map.1 hitem
    exact absurd rfl (hodd _)
  | null | bool b | int n | literal kind written => cases helements

/-- A check that fails has words for what is at fault, or breaks off at it. -/
theorem error_of_check {e : SettingsError} (h : s.check = .error e) :
    (∃ key value reason, e = .invalid key value reason) ∨ (∃ text, e.typeText? = some text)
      ∨ e.typeText? = none ∧ s.BreaksOff e.failure := by
  rcases check_eq_error h with hextensions | hencoding
  · rcases error_of_checkExtensions hextensions with hinvalid | ⟨typeName, rfl⟩ |
      ⟨rfl, items, helements, item, hitem, hodd⟩
    · exact Or.inl hinvalid
    · exact Or.inr (Or.inl ⟨_, rfl⟩)
    · have hlist := eq_list_of_odd_element helements hitem hodd
      exact Or.inr (Or.inr ⟨rfl, .oddSuffix ⟨items, hlist, item, hitem, hodd⟩⟩)
  · rcases error_of_checkEncoding hencoding with hinvalid | ⟨typeName, rfl⟩ | ⟨rfl, hzero⟩ |
      ⟨rfl, hundefined⟩
    · exact Or.inl hinvalid
    · exact Or.inr (Or.inl ⟨_, rfl⟩)
    · exact Or.inr (Or.inr ⟨rfl, .zeroInEncoding hzero⟩)
    · exact Or.inr (Or.inr ⟨rfl, .unusableEncoding hundefined⟩)

/-- Changes fail for a name that is no setting, or for what comes of them. -/
theorem error_of_change (hdistinct : Distinct entries) {e : SettingsError}
    (h : s.change entries = .error e) :
    (∃ text, e.typeText? = some text) ∨ (s.changedBy entries).check = .error e := by
  unfold change at h
  cases hassign : s.assign entries with
  | ok changed =>
    rw [hassign] at h
    obtain ⟨-, rfl⟩ := (assign_eq_ok_iff hdistinct).1 hassign
    exact Or.inr h
  | error e' =>
    rw [hassign] at h
    obtain rfl := Except.error.inj h
    exact Or.inl (typeText_of_assign hassign)

/-- **Settings are refused** for a problem with them, or their check breaks off. -/
theorem error_of_accept (hdistinct : Distinct entries) (h : accept entries = .error f) :
    f.AboutSettings ∨ (Settings.default.changedBy entries).BreaksOff f := by
  unfold accept at h
  cases hentries : ofEntries entries with
  | ok settings =>
    rw [hentries] at h
    cases h
  | error e =>
    rw [hentries] at h
    dsimp only at h
    cases htext : e.typeText? with
    | some text =>
      rw [htext] at h
      obtain rfl := Except.error.inj h
      exact Or.inl (Failure.aboutSettings_configuration _ _)
    | none =>
      rw [htext] at h
      obtain rfl := Except.error.inj h
      have hworded : ¬ ∃ text, e.typeText? = some text := by
        rintro ⟨text, hsome⟩
        cases htext.symm.trans hsome
      -- a name that is no setting would have been a problem with settings
      have hcheck := (error_of_change hdistinct hentries).resolve_left hworded
      rcases error_of_check hcheck with ⟨key, value, reason, rfl⟩ | htexts | ⟨-, hbreaks⟩
      · exact Or.inl (Failure.aboutSettings_invalid _ _ _)
      · exact absurd htexts hworded
      · exact Or.inr hbreaks

end Faults

/-! ## A project with a single setting -/

/-- The layers of a project with a single setting. -/
def ofProject (field : Field) (v : Value) : List (List (String × Value)) :=
  [[], [(field.key, v)], [], [], []]

/-- The only value in force that is not the one nobody set. -/
theorem value_ofProject (field other : Field) (v : Value) :
    (inForce (ofProject field v)).value other = if other = field then v else other.default := by
  have hhighest : highest other.key (ofProject field v)
      = if other = field then some v else none := by
    simp only [ofProject, highest, lookupEntry_cons, Option.none_or]
    by_cases hother : other = field
    · simp [hother, lookupEntry]
    · have hkey : other.key ≠ field.key := fun h => hother (Field.key_injective h)
      simp [hother, hkey, lookupEntry]
  rw [inForce_value, hhighest]
  split <;> rfl

/-- All keys of the layers of a project with a single setting are settings. -/
theorem known_ofProject (field : Field) (v : Value) :
    ∀ layer ∈ ofProject field v, Known layer := by
  have hnil : Known [] := fun _ hkey => absurd hkey List.not_mem_nil
  have hsingle : Known [(field.key, v)] := fun _ hkey => ⟨field, (List.mem_singleton.1 hkey).symm⟩
  simp [ofProject, hnil, hsingle]

/-- A project file with a single key that is a setting has it at its top. -/
theorem layers_ofProject {bytes : List UInt8} {field : Field} {v : Value}
    (hdocument : Toml.tableOfBytes? bytes = some [(field.key, v)]) :
    layers (.withProject bytes []) none [] = .ok (ofProject field v) := by
  have hsection : sectionName ≠ field.key := fun h =>
    Option.some_ne_none field ((Field.ofKey?_eq_some_iff.2 h.symm).symm.trans rfl)
  have htop : lookupEntry sectionName [(field.key, v)] = none := by
    rw [lookupEntry_cons, if_neg hsection]
    rfl
  exact Surroundings.layers_withProject [] hdocument htop rfl

/-- A project file that sets a single switch is accepted, whatever it sets it to. -/
theorem load_ofProject {bytes : List UInt8} {field : Field} {v : Value}
    (hdocument : Toml.tableOfBytes? bytes = some [(field.key, v)])
    (hswitch : field.form = .switch) :
    load (.withProject bytes []) none [] = .ok (inForce (ofProject field v)) := by
  have hextensions : Field.extensions ≠ field := by
    rintro rfl
    cases hswitch
  have hencoding : Field.encoding ≠ field := by
    rintro rfl
    cases hswitch
  refine (load_eq_ok_iff distinct_nil).2
    ⟨_, layers_ofProject hdocument, known_ofProject field v, check_eq_ok_iff.2 ⟨rfl, ?_, ?_⟩⟩
  · rw [value_ofProject, if_neg hextensions]
    cbv
  · rw [value_ofProject, if_neg hencoding]
    cbv

/-! ## Loading -/

/-- **A value stands in a file** or was asked for directly. -/
def StandsInFile (s : Surroundings) (named : Option Path) (overrides : List (String × Value))
    (field : Field) (v : Value) : Prop :=
  ∃ home project explicit environment, Reads s named home project explicit environment
    ∧ ∃ layer ∈ [home, project, explicit, given overrides],
      lookupEntry field.key layer = some v

/-- **A value that is not of the type of its setting** stands in a file or was asked for directly:
the environment gives no such value, and nor does leaving the setting alone. -/
theorem origin_of_misfit {s : Surroundings} {named : Option Path}
    {overrides : List (String × Value)} {stack : List (List (String × Value))} {field : Field}
    (hlayers : layers s named overrides = .ok stack)
    (hmisfit : ¬ field.Admits ((inForce stack).value field)) :
    StandsInFile s named overrides field ((inForce stack).value field) := by
  obtain ⟨home, project, explicit, environment, hreads, rfl⟩ := layers_eq_ok_iff.1 hlayers
  refine ⟨home, project, explicit, environment, hreads, ?_⟩
  rw [inForce_value] at hmisfit ⊢
  cases hhighest : highest field.key [home, project, explicit, environment, given overrides] with
  | none =>
    rw [hhighest] at hmisfit
    exact absurd field.admits_default hmisfit
  | some v =>
    rw [hhighest] at hmisfit
    rw [Option.getD_some] at hmisfit ⊢
    obtain ⟨layer, hlayer, hfound⟩ := exists_layer_of_highest hhighest
    refine ⟨layer, ?_, hfound⟩
    have hother : layer ≠ environment := by
      rintro rfl
      -- the environment has only values of the right type, so it is not the layer
      rw [Environment.lookupEntry_settings hreads.ofEnvironment] at hfound
      exact hmisfit (Environment.admits_of_valueOf hfound)
    simp only [List.mem_cons, List.not_mem_nil, or_false] at hlayer ⊢
    rcases hlayer with h | h | h | h | h
    · exact Or.inl h
    · exact Or.inr (Or.inl h)
    · exact Or.inr (Or.inr (Or.inl h))
    · exact absurd h hother
    · exact Or.inr (Or.inr (Or.inr h))

/-- **How loading settings ends.** It raises a problem with settings; or the operating system
refuses to tell whether one of the files exists; or all layers are read, and whatever is in force
without being of the type of its setting stands in a file or was asked for directly. Then the
settings in force are loaded, which are as their types say exactly if every value in force is of its
type; or loading breaks off at a suffix that is no text, at a zero in the name of the encoding, or
at the encoding in which nothing can be written. -/
theorem load_ends (s : Surroundings) (named : Option Path) {overrides : List (String × Value)}
    (hdistinct : Distinct overrides) :
    (∃ f, load s named overrides = .error f ∧ f.AboutSettings)
      ∨ (∃ path ∈ filesAsked s named, ∃ e, s.files.Refuses path e
        ∧ load s named overrides = .error (.file e))
      ∨ ∃ stack, layers s named overrides = .ok stack
        ∧ (∀ field : Field, ¬ field.Admits ((inForce stack).value field) →
          StandsInFile s named overrides field ((inForce stack).value field))
        ∧ (load s named overrides = .ok (inForce stack)
            ∧ ((inForce stack).WellFormed
              ↔ ∀ field : Field, field.Admits ((inForce stack).value field))
          ∨ ∃ f, load s named overrides = .error f ∧ (inForce stack).BreaksOff f) := by
  cases hload : load s named overrides with
  | ok settings =>
    obtain ⟨stack, hlayers, -, hcheck⟩ := (load_eq_ok_iff hdistinct).1 hload
    obtain ⟨rfl, -⟩ := check_eq_ok_iff.1 hcheck
    exact Or.inr (Or.inr ⟨stack, hlayers, fun field => origin_of_misfit hlayers,
      Or.inl ⟨rfl, wellFormed_iff hcheck⟩⟩)
  | error f =>
    rcases Result.error_of_bind hload with hlayers | ⟨stack, hlayers, haccept⟩
    · rcases error_of_layers hlayers with habout | ⟨path, hpath, e, rfl, hrefuses⟩
      · exact Or.inl ⟨f, rfl, habout⟩
      · exact Or.inr (Or.inl ⟨path, hpath, e, hrefuses, rfl⟩)
    · -- what is checked are all layers over each other, which is what is in force
      have hmerged : Settings.default.changedBy (stack.foldl mergeEntries []) = inForce stack :=
        changedBy_merged (distinct_of_layers hdistinct hlayers)
      have hends := error_of_accept (distinct_foldl_mergeEntries distinct_nil) haccept
      rw [hmerged] at hends
      rcases hends with habout | hbreaks
      · exact Or.inl ⟨f, rfl, habout⟩
      · exact Or.inr (Or.inr ⟨stack, hlayers, fun field => origin_of_misfit hlayers,
          Or.inr ⟨f, rfl, hbreaks⟩⟩)

/-- A project that turns links on is loaded. -/
theorem load_ends_of_links :
    let s := Surroundings.withProject "follow_symlinks = true\n".toUTF8.toList []
    ∃ settings, load s none [] = .ok settings ∧ settings.WellFormed := by
  intro s
  have hdocument : Toml.tableOfBytes? "follow_symlinks = true\n".toUTF8.toList
      = some [("follow_symlinks", .bool true)] := by
    cbv
  have hlayers : layers s none [] = .ok (ofProject .followLinks (.bool true)) :=
    layers_ofProject hdocument
  have hload : load s none [] = .ok (inForce (ofProject .followLinks (.bool true))) :=
    load_ofProject hdocument rfl
  refine ⟨_, hload, ?_⟩
  have hends := load_ends s none distinct_nil
  rw [hload, hlayers] at hends
  rcases hends with ⟨f, hbroken, -⟩ | ⟨_, -, e, -, hbroken⟩
    | ⟨stack, hstack, -, ⟨-, hiff⟩ | ⟨f, hbroken, -⟩⟩
  · cases hbroken
  · cases hbroken
  · obtain rfl := Except.ok.inj hstack
    refine hiff.2 fun field => ?_
    rw [value_ofProject]
    by_cases hfield : field = .followLinks
    · rw [if_pos hfield, hfield]
      exact ⟨true, rfl⟩
    · rw [if_neg hfield]
      exact field.admits_default
  · cases hbroken

/-- A project file with a single setting whose value breaks off the check ends loading. -/
theorem load_ofProject_error {bytes : List UInt8} {field : Field} {v : Value} {f : Failure}
    (hdocument : Toml.tableOfBytes? bytes = some [(field.key, v)])
    (hbroken : accept [(field.key, v)] = .error f) :
    load (.withProject bytes []) none [] = .error f := by
  unfold load
  rw [layers_ofProject hdocument]
  exact hbroken

/-- **Some values break the promise.** A number among the suffixes and the encoding in which nothing
can be written end loading without a problem, and a number for a switch is accepted. -/
theorem load_misfits :
    load (.withProject "extensions = [1]".toUTF8.toList []) none [] = .error .notText
      ∧ load (.withProject "encoding = 'undefined'".toUTF8.toList []) none []
        = .error .unusableEncoding
      ∧ (∀ f, f = .notText ∨ f = .unusableEncoding → ¬ Failure.AboutSettings f)
      ∧ ∃ settings, load (.withProject "report_file = 2\n".toUTF8.toList []) none [] = .ok settings
        ∧ ¬ settings.WellFormed := by
  have hsuffix : Toml.tableOfBytes? "extensions = [1]".toUTF8.toList
      = some [(Field.extensions.key, .list [.int 1])] := by
    cbv
  have hencoding : Toml.tableOfBytes? "encoding = 'undefined'".toUTF8.toList
      = some [(Field.encoding.key, .text "undefined")] := by
    cbv
  have hswitch : Toml.tableOfBytes? "report_file = 2\n".toUTF8.toList
      = some [("report_file", .int 2)] := by
    cbv
  refine ⟨load_ofProject_error hsuffix rfl, load_ofProject_error hencoding (by cbv), ?_,
    inForce (ofProject (.report .file) (.int 2)), load_ofProject hswitch rfl, ?_⟩
  · rintro f (rfl | rfl) ⟨p, hp, -⟩
    · cases hp
    · cases hp
  · intro h
    obtain ⟨b, hb⟩ := h.switches (.report .file) rfl
    cases hb

end Settings

end DocCoverage
