/-
What can happen at a stop, said once. A directory, and whatever cannot be listed or does not exist,
makes one note and never breaks a run off. A file is read: its text is surveyed, or it cannot be
read and that is noted, or the run breaks off there. Statements about runs go through these cases
and look no further into how a file is read and surveyed.

Decoding replaces what is malformed, so a file that can be opened has a text in nearly every
encoding that settings may name. Some decoders of the system still name bytes that stop them, and
then the file counts as unreadable. There are two exceptions that nothing catches: in UTF-16 and
UTF-32 whose byte order is to be told by the file, the file has to tell it; and the decoder of
domain names replaces nothing and gives up on every file, be it empty.
-/
import DocCoverage.Proofs.Files.Probe
import DocCoverage.Proofs.Run.Progress
import DocCoverage.Proofs.Settings.Accepted

set_option autoImplicit false

namespace DocCoverage

variable {fs : FileSystem} {settings : Settings} {path : Path}

/-! ## Visits -/

/-- **What happens at a file:** it is surveyed, or it is noted as unreadable, or the run breaks
off. -/
inductive Stop.VisitsFile (fs : FileSystem) (settings : Settings) (path : Path) :
    Progress Note Unit → Prop
  | surveyed (source : String)
      (hread : readSource fs path settings.encodingName .replace = .ok source) :
      VisitsFile fs settings path
        ⟨.file path.shown ::
          (Survey.of (.ofSource source) settings.defines).events.map (Note.event path.shown),
          .ok ()⟩
  | unreadable (about : Path) (reason : String)
      (hread : readSource fs path settings.encodingName .replace
        = .error (.problem (.fileAccess about reason))) :
      VisitsFile fs settings path ⟨[.unreadable path (.fileAccess about reason)], .ok ()⟩
  | broken (e : Failure) (hother : ∀ about reason, e ≠ .problem (.fileAccess about reason))
      (hread : readSource fs path settings.encodingName .replace = .error e) :
      VisitsFile fs settings path ⟨[], .error e⟩

/-- A file with a text is surveyed. -/
theorem Stop.visit_of_read {source : String}
    (hread : readSource fs path settings.encodingName .replace = .ok source) :
    Stop.visit fs settings (.file path)
      = ⟨.file path.shown ::
        (Survey.of (.ofSource source) settings.defines).events.map (Note.event path.shown),
        .ok ()⟩ := by
  simp only [Stop.visit, checkFileOrNote, checkFile, hread, checkSource, Progress.andThen,
    Progress.recover, Progress.quiet, List.append_nil, List.nil_append]

/-- **A file is visited in one of these ways.** -/
theorem Stop.visitsFile (fs : FileSystem) (settings : Settings) (path : Path) :
    Stop.VisitsFile fs settings path (Stop.visit fs settings (.file path)) := by
  cases hread : readSource fs path settings.encodingName .replace with
  | ok source =>
    rw [Stop.visit_of_read hread]
    exact .surveyed source hread
  | error e =>
    by_cases haccess : ∃ about reason, e = .problem (.fileAccess about reason)
    · obtain ⟨about, reason, rfl⟩ := haccess
      have hvisit : Stop.visit fs settings (.file path)
          = ⟨[.unreadable path (.fileAccess about reason)], .ok ()⟩ := by
        simp only [Stop.visit, checkFileOrNote, checkFile, hread, Progress.quiet_error_andThen]
        rfl
      rw [hvisit]
      exact .unreadable about reason hread
    · have hother : ∀ about reason, e ≠ .problem (.fileAccess about reason) :=
        fun about reason he => haccess ⟨about, reason, he⟩
      have hvisit : Stop.visit fs settings (.file path) = ⟨[], .error e⟩ := by
        simp only [Stop.visit, checkFileOrNote, checkFile, hread, Progress.quiet_error_andThen]
        -- whatever else a reading ends with is no problem with access, and passes
        cases e with
        | problem p =>
          cases p with
          | fileAccess about reason => exact absurd rfl (hother about reason)
          | general | analysis | configuration | invalidPath | invalidSetting | missingInput => rfl
        | wrongType | notText | zeroInName | unknownEncoding | unmarkedText | unusableEncoding
        | file | markup => rfl
      rw [hvisit]
      exact .broken e hother hread

/-- **What a visit notices in a file** is noticed by the survey of a text. -/
theorem Stop.survey_of_mem_notes {stop : Stop} {name : String} {e : Event}
    (h : .event name e ∈ (stop.visit fs settings).notes) :
    ∃ source, e ∈ (Survey.of (.ofSource source) settings.defines).events := by
  cases stop with
  | file path =>
    have hvisits := Stop.visitsFile fs settings path
    generalize Stop.visit fs settings (.file path) = visited at h hvisits
    cases hvisits with
    | surveyed source =>
      rcases List.mem_cons.1 h with hfile | hevent
      · cases hfile
      · obtain ⟨e', he', hsame⟩ := List.mem_map.1 hevent
        obtain ⟨-, rfl⟩ := Note.event.inj hsame
        exact ⟨source, he'⟩
    | unreadable about reason => exact nomatch List.mem_singleton.1 h
    | broken => exact absurd h List.not_mem_nil
  | directory path => exact nomatch List.mem_singleton.1 h
  | unlisted path problem => exact nomatch List.mem_singleton.1 h
  | absent path reason => exact nomatch List.mem_singleton.1 h

/-! ## Reading -/

/-- **A decoder gives up on a file** although malformed parts are replaced: the file has to tell its
byte order and does not, or the encoding is that of domain names. -/
inductive Encoding.GivesUp : Encoding → List UInt8 → DecodingError → Prop
  | unmarked {charset : Charset} {bytes : List UInt8} (hmark : charset.lacksMark bytes = true) :
      GivesUp (.known charset) bytes .unmarked
  | domainNames (bytes : List UInt8) : GivesUp .domainNames bytes .unusable

/-- **A file is given up with a failure:** it can be opened, and the decoder of the encoding that is
set gives up on it. -/
def GivenUp (fs : FileSystem) (settings : Settings) (path : Path) (f : Failure) : Prop :=
  ∃ (bytes : List UInt8) (encoding : Encoding) (e : DecodingError), fs.read path = .ok bytes
    ∧ Encoding.ofName? settings.encodingName = some encoding ∧ encoding.GivesUp bytes e
    ∧ f = e.failure path

/-- Giving a file up is no problem with access to it. -/
theorem GivenUp.ne_fileAccess {f : Failure} (h : GivenUp fs settings path f) (about : Path)
    (reason : String) : f ≠ .problem (.fileAccess about reason) := by
  obtain ⟨bytes, encoding, e, -, -, hgives, rfl⟩ := h
  cases hgives with
  | unmarked hmark => exact fun hf => nomatch hf
  | domainNames => exact fun hf => nomatch hf

/-- Pieces that are no characters are replaced, so there is always a text. -/
theorem Piece.text_replace (pieces : List Piece) : ∃ cs, Piece.text .replace pieces = .ok cs := by
  induction pieces with
  | nil => exact ⟨[], rfl⟩
  | cons piece rest ih =>
    obtain ⟨cs, hcs⟩ := ih
    cases piece with
    | char c => exact ⟨c :: cs, by rw [Piece.text, hcs]; rfl⟩
    | malformed m => exact ⟨'\uFFFD' :: cs, by rw [Piece.text, hcs]; rfl⟩

/-- **Decoding that replaces fails for want of a mark only.** -/
theorem Charset.decode_replace (charset : Charset) (bytes : List UInt8) :
    (charset.lacksMark bytes = true ∧ charset.decode .replace bytes = .error .unmarked)
      ∨ (charset.lacksMark bytes = false ∧ ∃ text, charset.decode .replace bytes = .ok text) := by
  obtain ⟨cs, hcs⟩ := Piece.text_replace (charset.pieces bytes)
  unfold Charset.decode
  rw [hcs]
  cases hmark : charset.lacksMark bytes with
  | true => exact Or.inl ⟨rfl, rfl⟩
  | false => exact Or.inr ⟨rfl, String.ofList cs, rfl⟩

/-- **A file has a text, or the bytes that stop its decoder are named, or it is given up.** -/
theorem Encoding.decode_replace (conversions : Conversions) {encoding : Encoding}
    (hused : encoding ≠ .undefined) (bytes : List UInt8) :
    ((∃ text, encoding.decode conversions .replace bytes = .ok text)
        ∧ ∀ e, ¬ encoding.GivesUp bytes e)
      ∨ ((∃ m, encoding.decode conversions .replace bytes = .error (.malformed m))
        ∧ ∀ e, ¬ encoding.GivesUp bytes e)
      ∨ ∃ e, encoding.decode conversions .replace bytes = .error e ∧ encoding.GivesUp bytes e := by
  cases encoding with
  | known charset =>
    rcases charset.decode_replace bytes with ⟨hmark, hfails⟩ | ⟨hmark, htext⟩
    · exact Or.inr (Or.inr ⟨_, hfails, .unmarked hmark⟩)
    · refine Or.inl ⟨htext, ?_⟩
      rintro _ ⟨hlacks⟩
      rw [hmark] at hlacks
      cases hlacks
  | converted name =>
    have hnever : ∀ e, ¬ (Encoding.converted name).GivesUp bytes e := fun e h => nomatch h
    cases hdecoded : conversions.convert name .replace bytes with
    | ok text => exact Or.inl ⟨⟨text, hdecoded⟩, hnever⟩
    | error e =>
      obtain ⟨m, rfl⟩ := conversions.lenient hdecoded
      exact Or.inr (Or.inl ⟨⟨m, hdecoded⟩, hnever⟩)
  | domainNames => exact Or.inr (Or.inr ⟨_, rfl, .domainNames bytes⟩)
  | undefined => exact absurd rfl hused

/-- An encoding that settings may have is one that can be used. -/
theorem Settings.encoding_of_accepted
    (h : Settings.checkEncoding (settings.value .encoding) = .ok ()) :
    settings.encodingName.contains '\x00' = false
      ∧ ∃ encoding, Encoding.ofName? settings.encodingName = some encoding
        ∧ encoding ≠ .undefined := by
  obtain ⟨name, hname, hzero, hknown⟩ := Settings.checkEncoding_eq_ok_iff.1 h
  unfold Settings.encodingName
  rw [hname]
  exact ⟨hzero, hknown⟩

/-- **A file that exists can be read, or there is a problem with access to it, or it is given
up.** -/
theorem readSource_cases
    (haccepted : Settings.checkEncoding (settings.value .encoding) = .ok ())
    (hholds : fs.Holds path) :
    (∃ source, readSource fs path settings.encodingName .replace = .ok source
        ∧ ∀ f, ¬ GivenUp fs settings path f)
      ∨ (∃ about reason, readSource fs path settings.encodingName .replace
          = .error (.problem (.fileAccess about reason)) ∧ ∀ f, ¬ GivenUp fs settings path f)
      ∨ ∃ f, readSource fs path settings.encodingName .replace = .error f
        ∧ GivenUp fs settings path f := by
  obtain ⟨hzero, encoding, hencoding, hused⟩ := Settings.encoding_of_accepted haccepted
  unfold readSource
  cases hread : fs.read path with
  | error e =>
    refine Or.inr (Or.inl ⟨path, "OS error: " ++ e.shown path.shown, ?_, ?_⟩)
    · dsimp only
      rw [refused_eq_fileAccess (FileSystem.ne_zeroInPath_of_read hholds hread)]
    · rintro f ⟨bytes, _, _, hbytes, -⟩
      rw [hread] at hbytes
      cases hbytes
  | ok bytes =>
    -- the file is given up exactly if the decoder gives up on these bytes
    have hnever (h : ∀ e, ¬ encoding.GivesUp bytes e) (f : Failure) :
        ¬ GivenUp fs settings path f := by
      rintro ⟨bytes', encoding', e, hbytes', hencoding', hgives, -⟩
      obtain rfl := Except.ok.inj (hread.symm.trans hbytes')
      obtain rfl := Option.some.inj (hencoding.symm.trans hencoding')
      exact h e hgives
    dsimp only [decodeNamed]
    rw [if_neg (by rw [hzero]; exact Bool.false_ne_true), hencoding]
    dsimp only
    rcases encoding.decode_replace fs.conversions hused bytes with
      ⟨⟨text, htext⟩, hgives⟩ | ⟨⟨m, hmalformed⟩, hgives⟩ | ⟨e, hfails, hgives⟩
    · rw [htext]
      exact Or.inl ⟨text, rfl, hnever hgives⟩
    · rw [hmalformed]
      exact Or.inr (Or.inl ⟨path, _, rfl, hnever hgives⟩)
    · rw [hfails]
      exact Or.inr (Or.inr ⟨_, rfl, bytes, encoding, e, hread, hencoding, hgives, rfl⟩)

end DocCoverage
