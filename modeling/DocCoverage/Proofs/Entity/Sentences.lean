/-
The sentence of a finding tells what it is about. A finding keeps no kind of entity, only a sentence;
but a sentence begins in a way of its own for each kind, up to the name that is quoted in it, and no
such beginning is the beginning of another one. So the kind can be read off, whatever the name is.

Every sentence that a survey makes begins as one of its kind, which ties what is reported to the
report flags: with some kinds left out, the findings are those of a full report less the ones about
these kinds.
-/
import DocCoverage.Survey.Event

set_option autoImplicit false

namespace DocCoverage

/-! ## Beginnings -/

/-- How the sentence for a kind begins, up to the name. -/
def EntityKind.beginning : EntityKind → String
  | .file => "Missing file level doc-comment"
  | .declared .classConstant => "Missing doc-comment for class level constant `"
  | .declared d =>
    "Missing doc-comment for " ++ Text.lowerAscii (EntityKind.declared d).label ++ " `"

/-- A sentence begins as those of its kind. -/
theorem beginning_prefix_missingMessage (kind : EntityKind) (name : String)
    (enclosing : Option String) :
    kind.beginning.toList <+: (missingMessage kind name enclosing).toList := by
  rcases kind with _ | d
  · exact List.prefix_rfl
  · have hsentence : missingMessage (.declared d) name enclosing
        = (EntityKind.declared d).beginning ++ (qualifiedName name enclosing ++ "`") := by
      cases d <;> exact String.append_assoc
    rw [hsentence, String.toList_append]
    exact List.prefix_append _ _

/-- **No beginning is the beginning of another one.** -/
theorem eq_of_beginning_begins {kind other : EntityKind}
    (h : kind.beginning.toList <+: other.beginning.toList) : kind = other := by
  have hall : ∀ kind ∈ EntityKind.all, ∀ other ∈ EntityKind.all,
      kind.beginning.toList.isPrefixOf other.beginning.toList = true → kind = other := by
    decide +kernel
  exact hall kind kind.mem_all other other.mem_all (List.isPrefixOf_iff_prefix.2 h)

/-! ## The kind of a finding -/

/-- **The kind a finding is about,** read off its sentence. -/
def Finding.kind? (f : Finding) : Option EntityKind :=
  EntityKind.all.find? fun kind => kind.beginning.toList.isPrefixOf f.message.toList

/-- **A sentence for a kind is read as one for that kind,** whatever the name. -/
theorem kind?_missingMessage (file : String) (line : Int) (kind : EntityKind) (name : String)
    (enclosing : Option String) :
    (⟨file, line, missingMessage kind name enclosing⟩ : Finding).kind? = some kind := by
  have hbegins := beginning_prefix_missingMessage kind name enclosing
  cases hfound : (⟨file, line, missingMessage kind name enclosing⟩ : Finding).kind? with
  | none =>
    have hno := List.find?_eq_none.1 hfound kind kind.mem_all
    exact absurd (List.isPrefixOf_iff_prefix.2 hbegins) hno
  | some other =>
    have hother : other.beginning.toList.isPrefixOf
        (missingMessage kind name enclosing).toList = true := by
      unfold Finding.kind? at hfound
      exact List.find?_some (p := fun kind : EntityKind => kind.beginning.toList.isPrefixOf _) hfound
    -- two beginnings of one sentence: the shorter one begins the longer one
    rcases List.prefix_or_prefix_of_prefix (List.isPrefixOf_iff_prefix.1 hother) hbegins with h | h
    · rw [eq_of_beginning_begins h]
    · rw [eq_of_beginning_begins h]

/-! ## What is reported -/

/-- The finding of a check's verdict is about the declaration. -/
theorem kind?_of_check {reported : EntityKind → Bool} {file : String} {c : Check} {f : Finding}
    (h : c.verdict.finding? reported file = some f) :
    f.kind? = some (.declared c.declaration) := by
  unfold Check.verdict at h
  cases hdoc : c.doc with
  | some i =>
    rw [hdoc] at h
    cases h
  | none =>
    rw [hdoc] at h
    dsimp only [Verdict.finding?] at h
    split at h
    · obtain rfl := Option.some.inj h
      exact kind?_missingMessage file c.line (.declared c.declaration) c.name c.enclosing
    · cases h

/-- **A flag decides about the findings of its kind and no others:** what a verdict on an event makes
under some flags is what it makes in a full report, if its kind is on. -/
theorem finding?_eq_filter (reported : EntityKind → Bool) (file : String) {e : Event} {v : Verdict}
    (hverdict : e.verdict? = some v) :
    v.finding? reported file
      = (v.finding? (fun _ => true) file).filter fun f => f.kind?.any reported := by
  have hworded : ∀ (kind : EntityKind) (line : Int) (name : String) (enclosing : Option String),
      Verdict.finding? reported file
          (.undocumented kind line (missingMessage kind name enclosing))
        = (Verdict.finding? (fun _ => true) file
          (.undocumented kind line (missingMessage kind name enclosing))).filter
            fun f => f.kind?.any reported := by
    intro kind line name enclosing
    have hkind := kind?_missingMessage file line kind name enclosing
    dsimp only [Verdict.finding?]
    rw [if_pos rfl, Option.filter_some, hkind]
    rfl
  cases e with
  | check c =>
    obtain rfl := Option.some.inj hverdict
    unfold Check.verdict
    cases c.doc with
    | some i => rfl
    | none => exact hworded _ c.line c.name c.enclosing
  | replaced context => cases hverdict
  | fileDocumented =>
    obtain rfl := Option.some.inj hverdict
    rfl
  | fileUndocumented line =>
    obtain rfl := Option.some.inj hverdict
    exact hworded .file line "" none

end DocCoverage
