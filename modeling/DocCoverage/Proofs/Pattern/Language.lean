/-
The language of a pattern, and the proof that the backward search finds exactly its words.

A pattern is a finite expression over token classes, so it stands for a set of words of classes. The
search never forms a word: it walks back from the anchor, later parts of a sequence first, and keeps
positions. The two meet in `Reads`: the tokens between two positions, read forward, are a word of a
language. Concatenation of languages then is the existence of a position between
(`reads_mul`), which is what the search of a sequence enumerates.

Nothing is lost by the order of preference, because the search lists every position and stops early
only at a node that is no pattern. The induction goes over the tree and its lists of parts at once,
one theorem for each, as the search does.
-/
import DocCoverage.Pattern.Basic
import Mathlib

set_option autoImplicit false

open Computability

namespace DocCoverage

namespace TokenStream

/-! ## Words in a stream -/

/-- The classes at the positions from `first` on and before `last`, with `none` where the stream has
no token. -/
def kindsBetween (s : TokenStream) (first last : Int) : List (Option TokenKind) :=
  (List.range (last - first).toNat).map fun n : Nat => s.kind? (first + n)

/-- **A word stands between two positions:** each position from `first` on and before `last` holds a
token, and their classes in forward order are the word. -/
def Spells (s : TokenStream) (first last : Int) (word : List TokenKind) : Prop :=
  first ≤ last ∧ s.kindsBetween first last = word.map some

/-- The empty word stands between a position and itself, on the stream or off it. -/
theorem spells_nil {s : TokenStream} {first last : Int} :
    s.Spells first last [] ↔ first = last := by
  unfold Spells kindsBetween
  rw [List.map_nil, List.map_eq_nil_iff, List.range_eq_nil]
  omega

/-- A word stands somewhere if its first letter does and the others stand behind it. -/
theorem spells_cons {s : TokenStream} {first last : Int} {k : TokenKind} {word : List TokenKind} :
    s.Spells first last (k :: word) ↔ s.kind? first = some k ∧ s.Spells (first + 1) last word := by
  unfold Spells kindsBetween
  rcases Int.lt_or_le first last with hlt | hge
  -- between them is a first position, and the others are those from the next one on
  · obtain ⟨n, hn⟩ : ∃ n : Nat, last - first = n + 1 := ⟨(last - first - 1).toNat, by omega⟩
    have hlong : (last - first).toNat = n + 1 := by omega
    have hshort : (last - (first + 1)).toNat = n := by omega
    have hhere : first + ((0 : Nat) : Int) = first := by omega
    have hnext : ∀ m : Nat, first + ((m + 1 : Nat) : Int) = first + 1 + (m : Int) := by omega
    rw [hlong, hshort, List.range_succ_eq_map, List.map_cons, List.map_map, List.map_cons,
      List.cons.injEq, hhere]
    simp only [Function.comp_def, Nat.succ_eq_add_one, hnext]
    constructor
    · rintro ⟨-, hk, hword⟩
      exact ⟨hk, by omega, hword⟩
    · rintro ⟨hk, -, hword⟩
      exact ⟨by omega, hk, hword⟩
  -- nothing is between them, so no letter is, and the next position is behind `last`
  · have hempty : (last - first).toNat = 0 := by omega
    rw [hempty]
    constructor
    · rintro ⟨-, hnil⟩
      simp at hnil
    · rintro ⟨-, hle, -⟩
      omega

/-- Two words stand one behind the other if some position divides them. -/
theorem spells_append {s : TokenStream} {first last : Int} {u v : List TokenKind} :
    s.Spells first last (u ++ v) ↔ ∃ middle, s.Spells first middle u ∧ s.Spells middle last v := by
  induction u generalizing first with
  | nil =>
    simp only [List.nil_append, spells_nil]
    exact ⟨fun h => ⟨first, rfl, h⟩, fun ⟨_, hmiddle, h⟩ => hmiddle ▸ h⟩
  | cons k u ih =>
    simp only [List.cons_append, spells_cons, ih]
    constructor
    · rintro ⟨hk, middle, hu, hv⟩
      exact ⟨middle, ⟨hk, hu⟩, hv⟩
    · rintro ⟨middle, ⟨hk, hu⟩, hv⟩
      exact ⟨hk, middle, hu, hv⟩

/-- A word of one letter stands before `last` if the token there has this class. -/
theorem spells_singleton {s : TokenStream} {first last : Int} {k : TokenKind} :
    s.Spells first last [k] ↔ first = last - 1 ∧ s.kind? (last - 1) = some k := by
  rw [spells_cons, spells_nil]
  constructor
  · rintro ⟨hk, hnext⟩
    have hfirst : first = last - 1 := by omega
    exact ⟨hfirst, hfirst ▸ hk⟩
  · rintro ⟨rfl, hk⟩
    exact ⟨hk, by omega⟩

/-- Between the two positions of a word every token is of a class that occurs in it. -/
theorem kind_mem_of_spells {s : TokenStream} {first last : Int} {word : List TokenKind}
    (h : s.Spells first last word) {i : Int} (hfirst : first ≤ i) (hlast : i < last) :
    ∃ kind ∈ word, s.kind? i = some kind := by
  -- the token is among those between the positions, and these are the word's letters
  have hmem : s.kind? i ∈ s.kindsBetween first last := by
    unfold kindsBetween
    refine List.mem_map.2 ⟨(i - first).toNat, List.mem_range.2 (by omega), ?_⟩
    congr 1
    omega
  rw [h.2] at hmem
  obtain ⟨kind, hkind, heq⟩ := List.mem_map.1 hmem
  exact ⟨kind, hkind, heq.symm⟩

/-! ## Languages in a stream -/

/-- The tokens between two positions are a word of the language. -/
def Reads (s : TokenStream) (l : Language TokenKind) (first last : Int) : Prop :=
  ∃ word ∈ l, s.Spells first last word

/-- One letter is read where the token before `last` has this class. -/
theorem reads_letter {s : TokenStream} {kind : TokenKind} {first last : Int} :
    s.Reads {[kind]} first last ↔ first = last - 1 ∧ s.kind? (last - 1) = some kind := by
  constructor
  · rintro ⟨word, rfl, hs⟩
    exact spells_singleton.1 hs
  · intro h
    exact ⟨[kind], rfl, spells_singleton.2 h⟩

/-- One letter of several is read where the token before `last` has one of these classes. -/
theorem reads_oneOf {s : TokenStream} {kinds : List TokenKind} {first last : Int} :
    s.Reads {word | ∃ kind ∈ kinds, word = [kind]} first last
      ↔ first = last - 1 ∧ ∃ kind ∈ kinds, s.kind? (last - 1) = some kind := by
  constructor
  · rintro ⟨word, ⟨kind, hkind, rfl⟩, hs⟩
    obtain ⟨hfirst, hlast⟩ := spells_singleton.1 hs
    exact ⟨hfirst, kind, hkind, hlast⟩
  · rintro ⟨hfirst, kind, hkind, hlast⟩
    exact ⟨[kind], ⟨kind, hkind, rfl⟩, spells_singleton.2 ⟨hfirst, hlast⟩⟩

/-- Nothing is read between a position and itself, and only there. -/
theorem reads_one {s : TokenStream} {first last : Int} : s.Reads 1 first last ↔ first = last := by
  constructor
  · rintro ⟨word, hword, hs⟩
    rw [Language.mem_one] at hword
    rwa [hword, spells_nil] at hs
  · intro h
    exact ⟨[], Language.nil_mem_one, spells_nil.2 h⟩

/-- A sum is read by reading one of its terms. -/
theorem reads_add {s : TokenStream} {l m : Language TokenKind} {first last : Int} :
    s.Reads (l + m) first last ↔ s.Reads l first last ∨ s.Reads m first last := by
  constructor
  · rintro ⟨word, hword, hs⟩
    exact ((Language.mem_add l m word).1 hword).imp (⟨word, ·, hs⟩) (⟨word, ·, hs⟩)
  · rintro (⟨word, hword, hs⟩ | ⟨word, hword, hs⟩)
    · exact ⟨word, (Language.mem_add l m word).2 (Or.inl hword), hs⟩
    · exact ⟨word, (Language.mem_add l m word).2 (Or.inr hword), hs⟩

/-- **A product is read by reading its factors up to and from some position between.** -/
theorem reads_mul {s : TokenStream} {l m : Language TokenKind} {first last : Int} :
    s.Reads (l * m) first last ↔ ∃ middle, s.Reads l first middle ∧ s.Reads m middle last := by
  constructor
  · rintro ⟨word, hword, hs⟩
    obtain ⟨u, hu, v, hv, rfl⟩ := Language.mem_mul.1 hword
    obtain ⟨middle, hsu, hsv⟩ := spells_append.1 hs
    exact ⟨middle, ⟨u, hu, hsu⟩, ⟨v, hv, hsv⟩⟩
  · rintro ⟨middle, ⟨u, hu, hsu⟩, ⟨v, hv, hsv⟩⟩
    exact ⟨u ++ v, Language.mem_mul.2 ⟨u, hu, v, hv, rfl⟩, spells_append.2 ⟨middle, hsu, hsv⟩⟩

/-- **A run of one letter** is read between two positions if every token between them has this
class. -/
theorem reads_run {s : TokenStream} {kind : TokenKind} {first last : Int} :
    s.Reads ({[kind]}∗) first last
      ↔ first ≤ last ∧ ∀ i, first ≤ i → i < last → s.kind? i = some kind := by
  constructor
  · rintro ⟨word, hword, hs⟩
    obtain ⟨pieces, rfl, hpieces⟩ := Language.mem_kstar.1 hword
    refine ⟨hs.1, fun i hfirst hlast => ?_⟩
    obtain ⟨k, hk, hi⟩ := kind_mem_of_spells hs hfirst hlast
    obtain ⟨piece, hpiece, hkpiece⟩ := List.mem_flatten.1 hk
    rw [hpieces piece hpiece, List.mem_singleton] at hkpiece
    rw [hi, hkpiece]
  · rintro ⟨hle, hkinds⟩
    refine ⟨(List.replicate (last - first).toNat [kind]).flatten, ?_, hle, ?_⟩
    · exact Language.join_mem_kstar fun piece hpiece => List.eq_of_mem_replicate hpiece
    · rw [List.flatten_replicate_singleton, List.map_replicate]
      refine List.eq_replicate_iff.2 ⟨by simp [kindsBetween], ?_⟩
      intro found hfound
      obtain ⟨n, hn, rfl⟩ := List.mem_map.1 hfound
      rw [List.mem_range] at hn
      exact hkinds _ (by omega) (by omega)

end TokenStream

namespace Pattern

/-! ## The language of a pattern -/

mutual

/-- **The words a pattern stands for.** A node that is no pattern stands for none. -/
def language : Pattern → Language TokenKind
  | .literal kind => {[kind]}
  | .sequence parts => languageAll parts
  | .optional part => 1 + language part
  | .oneOf kinds => {word | ∃ kind ∈ kinds, word = [kind]}
  | .unknown _ => 0

/-- The words of a sequence: a word of each part, in order. -/
def languageAll : List Pattern → Language TokenKind
  | [] => 1
  | part :: rest => language part * languageAll rest

end

mutual

/-- Every node of the tree is a pattern. -/
def isKnown : Pattern → Bool
  | .literal _ => true
  | .sequence parts => areKnown parts
  | .optional part => isKnown part
  | .oneOf _ => true
  | .unknown _ => false

/-- Every node of every part is a pattern. -/
def areKnown : List Pattern → Bool
  | [] => true
  | part :: rest => isKnown part && areKnown rest

end

/-! ## What the search finds

A search is complete if it met no unknown node. Of complete searches the positions are plain lists,
and the combinations of the search are concatenation and `flatMap` on them. -/

namespace Reached

/-- Behind a complete search the next one is made, and its findings come last. -/
theorem append_of_complete {a : Reached} (b : Reached) (ha : a.unknownNode = none) :
    a.append b = ⟨a.positions ++ b.positions, b.unknownNode⟩ := by
  rw [append, ha]

/-- Complete searches from each of some positions find what any of them finds. -/
theorem fromEach_of_complete {f : Int → Reached} (hf : ∀ p, (f p).unknownNode = none)
    (positions : List Int) :
    fromEach f positions = ⟨positions.flatMap fun p => (f p).positions, none⟩ := by
  induction positions with
  | nil => rfl
  | cons p rest ih => rw [fromEach, append_of_complete _ (hf p), ih, List.flatMap_cons]

/-- Going on from a complete search by complete searches finds what is found from any position of
the first. -/
theorem andThen_of_complete {a : Reached} {f : Int → Reached} (ha : a.unknownNode = none)
    (hf : ∀ p, (f p).unknownNode = none) :
    a.andThen f = ⟨a.positions.flatMap fun p => (f p).positions, none⟩ := by
  rw [andThen, fromEach_of_complete hf, append_of_complete _ rfl, ha, List.append_nil]

end Reached

/-- A search for one token meets no node. -/
theorem unknownNode_reachOne (s : TokenStream) (accepts : TokenKind → Bool) (position : Int) :
    (reachOne s accepts position).unknownNode = none := by
  unfold reachOne
  split <;> rfl

/-- One token is taken if there is one and the test accepts its class. -/
theorem mem_reachOne {s : TokenStream} {accepts : TokenKind → Bool} {position q : Int} :
    q ∈ (reachOne s accepts position).positions
      ↔ q = position - 1 ∧ ∃ kind, s.kind? (position - 1) = some kind ∧ accepts kind = true := by
  unfold reachOne
  rcases hkind : s.kind? (position - 1) with _ | kind
  · simp [Reached.nothing]
  · by_cases haccepts : accepts kind = true
    · simp [Reached.one, haccepts]
    · simp [Reached.nothing, haccepts]

mutual

/-- The search of a tree without unknown nodes is complete. -/
theorem unknownNode_reach (s : TokenStream) :
    ∀ (pattern : Pattern), pattern.isKnown = true → ∀ position,
      (pattern.reach s position).unknownNode = none
  | .literal _, _, position => unknownNode_reachOne s _ position
  | .oneOf _, _, position => unknownNode_reachOne s _ position
  | .optional part, h, position => by
    have hpart := unknownNode_reach s part (by rwa [isKnown] at h) position
    rw [reach, Reached.append_of_complete _ hpart]
    rfl
  | .sequence parts, h, position => by
    rw [reach]
    exact unknownNode_reachAll s parts (by rwa [isKnown] at h) position
  | .unknown _, h, _ => by simp [isKnown] at h

/-- The search of a sequence of such trees is complete. -/
theorem unknownNode_reachAll (s : TokenStream) :
    ∀ (parts : List Pattern), areKnown parts = true → ∀ position,
      (reachAll s parts position).unknownNode = none
  | [], _, _ => rfl
  | part :: rest, h, position => by
    rw [areKnown, Bool.and_eq_true] at h
    rw [reachAll, Reached.andThen_of_complete (unknownNode_reachAll s rest h.2 position)
      (unknownNode_reach s part h.1)]

end

mutual

/-- **The search finds the words of the language, all of them and nothing else.** -/
theorem mem_reach_iff (s : TokenStream) :
    ∀ (pattern : Pattern), pattern.isKnown = true → ∀ position q,
      (q ∈ (pattern.reach s position).positions ↔ s.Reads pattern.language q position)
  | .literal kind, _, position, q => by
    rw [reach, language, mem_reachOne, TokenStream.reads_letter]
    simp only [beq_iff_eq, exists_eq_right]
  | .oneOf kinds, _, position, q => by
    rw [reach, language, mem_reachOne, TokenStream.reads_oneOf]
    simp only [List.contains_iff_mem, and_comm]
  | .optional part, h, position, q => by
    rw [isKnown] at h
    rw [reach, language, Reached.append_of_complete _ (unknownNode_reach s part h position),
      TokenStream.reads_add, TokenStream.reads_one, List.mem_append,
      mem_reach_iff s part h position q, or_comm, Reached.one, List.mem_singleton]
  | .sequence parts, h, position, q => by
    rw [isKnown] at h
    rw [reach, language]
    exact mem_reachAll_iff s parts h position q
  | .unknown _, h, _, _ => by simp [isKnown] at h

/-- A sequence is searched from its end: its later parts are read up to the anchor, and its first
part up to where they begin. -/
theorem mem_reachAll_iff (s : TokenStream) :
    ∀ (parts : List Pattern), areKnown parts = true → ∀ position q,
      (q ∈ (reachAll s parts position).positions ↔ s.Reads (languageAll parts) q position)
  | [], _, position, q => by
    rw [reachAll, languageAll, TokenStream.reads_one, Reached.one, List.mem_singleton]
  | part :: rest, h, position, q => by
    rw [areKnown, Bool.and_eq_true] at h
    rw [reachAll, languageAll, TokenStream.reads_mul,
      Reached.andThen_of_complete (unknownNode_reachAll s rest h.2 position)
        (unknownNode_reach s part h.1), List.mem_flatMap]
    constructor
    -- the position between is where the search of the later parts ended
    · rintro ⟨middle, hrest, hpart⟩
      exact ⟨middle, (mem_reach_iff s part h.1 middle q).1 hpart,
        (mem_reachAll_iff s rest h.2 position middle).1 hrest⟩
    · rintro ⟨middle, hpart, hrest⟩
      exact ⟨middle, (mem_reachAll_iff s rest h.2 position middle).2 hrest,
        (mem_reach_iff s part h.1 middle q).2 hpart⟩

end

/-! ## The preferred match -/

/-- A complete search that found nothing is a failed match, and otherwise its first finding is the
match. -/
theorem matchBackward_of_complete {pattern : Pattern} {s : TokenStream} {position : Int}
    (h : (pattern.reach s position).unknownNode = none) :
    pattern.matchBackward s position
      = .ok (match (pattern.reach s position).positions with
        | q :: _ => ⟨true, q⟩
        | [] => ⟨false, position⟩) := by
  unfold matchBackward
  dsimp only
  rw [h]
  rcases (pattern.reach s position).positions with _ | ⟨q, rest⟩ <;> rfl

/-- **The backward search is sound and complete for the language of its pattern.** In every stream
and from every position, on the stream or off it, the search of a tree of patterns does not break
off, and it lists `q` exactly if the tokens from `q` up to the position are there and their classes
are a word of the language. A match therefore succeeds exactly if such a `q` exists, answers one of
them, and otherwise answers the position it was given. -/
theorem reach_exactly_language (s : TokenStream) (pattern : Pattern)
    (h : pattern.isKnown = true) (position : Int) :
    (pattern.reach s position).unknownNode = none
      ∧ (∀ q, q ∈ (pattern.reach s position).positions
          ↔ ∃ word ∈ pattern.language, s.Spells q position word)
      ∧ ∃ result, pattern.matchBackward s position = .ok result
          ∧ (result.matched = true ↔ ∃ q, ∃ word ∈ pattern.language, s.Spells q position word)
          ∧ (result.matched = true →
              ∃ word ∈ pattern.language, s.Spells result.position position word)
          ∧ (result.matched = false → result.position = position) := by
  have hcomplete := unknownNode_reach s pattern h position
  have hmem : ∀ q, q ∈ (pattern.reach s position).positions
      ↔ s.Reads pattern.language q position := mem_reach_iff s pattern h position
  refine ⟨hcomplete, hmem, _, matchBackward_of_complete hcomplete, ?_⟩
  rcases hpositions : (pattern.reach s position).positions with _ | ⟨q, rest⟩
  · have hnone : ¬ ∃ q, s.Reads pattern.language q position := by
      rintro ⟨q, hq⟩
      have hfound := (hmem q).2 hq
      rw [hpositions] at hfound
      exact List.not_mem_nil hfound
    exact ⟨⟨fun hmatched => absurd hmatched Bool.false_ne_true, fun hq => absurd hq hnone⟩,
      fun hmatched => absurd hmatched Bool.false_ne_true, fun _ => rfl⟩
  · have hfirst : s.Reads pattern.language q position :=
      (hmem q).1 (hpositions ▸ List.mem_cons_self)
    exact ⟨⟨fun _ => ⟨q, hfirst⟩, fun _ => rfl⟩, fun _ => hfirst,
      fun hmatched => absurd hmatched.symm Bool.false_ne_true⟩

/-- Where a blank may be left out, the search gives it back to an earlier part that needs it: the
word `static ws public` is found although the optional blank before `public` takes the only one
first. -/
theorem reach_exactly_language_gives_back :
    let part : Pattern := .sequence
      [.optional (.sequence [.literal .staticWord, .literal .whitespace]),
        .optional (.literal .whitespace), .literal .publicWord]
    let stream : TokenStream :=
      ⟨#[⟨.staticWord, "static", 1⟩, ⟨.whitespace, " ", 1⟩, ⟨.publicWord, "public", 1⟩]⟩
    part.isKnown = true ∧ (part.reach stream 3).positions = [1, 0, 2]
      ∧ ∃ word ∈ part.language, stream.Spells 0 3 word := by
  intro part stream
  have hknown : part.isKnown = true := rfl
  have hpositions : (part.reach stream 3).positions = [1, 0, 2] := by decide
  refine ⟨hknown, hpositions, ?_⟩
  exact ((reach_exactly_language stream part hknown 3).2.1 0).1 (by rw [hpositions]; decide)

end Pattern

end DocCoverage
