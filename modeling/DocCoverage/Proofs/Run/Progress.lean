/-
The laws of computations that note what they do. One behind another notes what both note, and what
breaks the first off breaks the whole off; the same holds of a computation for each element of a
list. Every statement about a whole run is put together with these laws from what is known of its
parts, so that no proof about a run has to look into how notes and failures are passed on.

The last section applies them to a route that is taken: the visits of its stops come first, then
what can be said at its end. A route that is made of two parts is taken part by part.
-/
import DocCoverage.Run.Visit

set_option autoImplicit false

namespace DocCoverage

namespace Progress

variable {ν α β γ : Type}

/-! ## One computation and then another -/

/-- Behind a computation that comes to a result the next one goes on. -/
theorem andThen_of_ok {p : Progress ν α} {a : α} (next : α → Progress ν β)
    (h : p.result = .ok a) :
    p.andThen next = ⟨p.notes ++ (next a).notes, (next a).result⟩ := by
  unfold andThen
  rw [h]

/-- Behind a computation that breaks off nothing happens. -/
theorem andThen_of_error {p : Progress ν α} {e : Failure} (next : α → Progress ν β)
    (h : p.result = .error e) : p.andThen next = ⟨p.notes, .error e⟩ := by
  unfold andThen
  rw [h]

/-- A result at hand is passed on. -/
@[simp] theorem quiet_ok_andThen (a : α) (next : α → Progress ν β) :
    (quiet (.ok a)).andThen next = next a := by
  rw [andThen_of_ok next (a := a) rfl]
  rfl

/-- A failure at hand breaks off whatever comes behind it. -/
@[simp] theorem quiet_error_andThen (e : Failure) (next : α → Progress ν β) :
    (quiet (.error e)).andThen next = quiet (.error e) := rfl

/-- Of three computations it does not matter which two are taken together. -/
theorem andThen_assoc (p : Progress ν α) (next : α → Progress ν β) (last : β → Progress ν γ) :
    (p.andThen next).andThen last = p.andThen fun a => (next a).andThen last := by
  unfold andThen
  cases p.result with
  | error e => rfl
  | ok a =>
    dsimp only
    cases (next a).result with
    | error e => rfl
    | ok b => simp only [List.append_assoc]

/-- Two computations come to a result if the first one does and then the second one. -/
theorem result_andThen_eq_ok_iff {p : Progress ν α} {next : α → Progress ν β} {b : β} :
    (p.andThen next).result = .ok b ↔ ∃ a, p.result = .ok a ∧ (next a).result = .ok b := by
  cases hp : p.result with
  | error e =>
    rw [andThen_of_error next hp]
    exact ⟨nofun, fun ⟨_, h, _⟩ => nomatch h⟩
  | ok a =>
    rw [andThen_of_ok next hp]
    constructor
    · intro h
      exact ⟨a, rfl, h⟩
    · rintro ⟨a', ha, h⟩
      obtain rfl := Except.ok.inj ha
      exact h

/-- What two computations note is noted by one of them. -/
theorem mem_notes_andThen {p : Progress ν α} {next : α → Progress ν β} {n : ν}
    (h : n ∈ (p.andThen next).notes) : n ∈ p.notes ∨ ∃ a, n ∈ (next a).notes := by
  cases hp : p.result with
  | error e =>
    rw [andThen_of_error next hp] at h
    exact Or.inl h
  | ok a =>
    rw [andThen_of_ok next hp] at h
    exact (List.mem_append.1 h).imp_right fun h => ⟨a, h⟩

/-! ## One computation for each element -/

variable {act : α → Progress ν Unit}

@[simp] theorem each_nil : each act [] = quiet (.ok ()) := rfl

theorem each_cons (a : α) (rest : List α) :
    each act (a :: rest) = (act a).andThen fun _ => each act rest := rfl

/-- Elements that are made from others are gone through as those are. -/
theorem each_map {δ : Type} (f : δ → α) (l : List δ) :
    each act (l.map f) = each (fun d => act (f d)) l := by
  induction l with
  | nil => rfl
  | cons d rest ih => rw [List.map_cons, each_cons, each_cons, ih]

/-- Two lists one after the other are gone through one after the other. -/
theorem each_append (l k : List α) :
    each act (l ++ k) = (each act l).andThen fun _ => each act k := by
  induction l with
  | nil => rw [List.nil_append, each_nil, quiet_ok_andThen]
  | cons a rest ih => rw [List.cons_append, each_cons, each_cons, ih, andThen_assoc]

/-- All elements are gone through if none breaks off. -/
theorem result_each_eq_ok_iff {l : List α} :
    (each act l).result = .ok () ↔ ∀ a ∈ l, (act a).result = .ok () := by
  induction l with
  | nil => exact ⟨fun _ a ha => absurd ha List.not_mem_nil, fun _ => rfl⟩
  | cons a rest ih =>
    rw [each_cons, result_andThen_eq_ok_iff, List.forall_mem_cons]
    constructor
    · rintro ⟨_, hfirst, hrest⟩
      exact ⟨hfirst, ih.1 hrest⟩
    · rintro ⟨hfirst, hrest⟩
      exact ⟨(), hfirst, ih.2 hrest⟩

/-- If none breaks off, everything is noted, in order. -/
theorem notes_each {l : List α} (h : ∀ a ∈ l, (act a).result = .ok ()) :
    (each act l).notes = l.flatMap fun a => (act a).notes := by
  induction l with
  | nil => rfl
  | cons a rest ih =>
    obtain ⟨hfirst, hrest⟩ := List.forall_mem_cons.1 h
    rw [each_cons, andThen_of_ok _ hfirst, List.flatMap_cons, ih hrest]

/-- What breaks a walk through a list off is one of its elements. -/
theorem exists_of_result_each_eq_error {l : List α} {e : Failure}
    (h : (each act l).result = .error e) : ∃ a ∈ l, (act a).result = .error e := by
  induction l with
  | nil => cases h
  | cons a rest ih =>
    rw [each_cons] at h
    cases hfirst : (act a).result with
    | error e' =>
      rw [andThen_of_error _ hfirst] at h
      obtain rfl := Except.error.inj h
      exact ⟨a, List.mem_cons_self, hfirst⟩
    | ok u =>
      rw [andThen_of_ok _ hfirst] at h
      obtain ⟨b, hb, hbroken⟩ := ih h
      exact ⟨b, List.mem_cons_of_mem a hb, hbroken⟩

/-- What is noted on the way through a list is noted at one of its elements. -/
theorem exists_of_mem_notes_each {l : List α} {n : ν} (h : n ∈ (each act l).notes) :
    ∃ a ∈ l, n ∈ (act a).notes := by
  induction l with
  | nil => exact absurd h List.not_mem_nil
  | cons a rest ih =>
    rw [each_cons] at h
    rcases mem_notes_andThen h with hfirst | ⟨_, hrest⟩
    · exact ⟨a, List.mem_cons_self, hfirst⟩
    · obtain ⟨b, hb, hnoted⟩ := ih hrest
      exact ⟨b, List.mem_cons_of_mem a hb, hnoted⟩

end Progress

/-! ## Routes that are taken -/

section Routes

variable {α β : Type} {fs : FileSystem} {settings : Settings}

/-- **A route is taken by visiting its stops one after the other.** -/
theorem Route.taken_eq (route : Route α) (fs : FileSystem) (settings : Settings) :
    route.taken (fun _ => fs) settings
      = (Progress.each (Stop.visit fs settings) route.notes).andThen fun _ =>
        .quiet route.result := by
  unfold Route.taken
  rw [visitAll_const]

/-- **A route of two parts is taken part by part.** -/
theorem Route.taken_andThen (route : Route Unit) (rest : Route β) (fs : FileSystem)
    (settings : Settings) :
    Route.taken (route.andThen fun _ => rest) (fun _ => fs) settings
      = (route.taken (fun _ => fs) settings).andThen fun _ =>
        rest.taken (fun _ => fs) settings := by
  rw [Route.taken_eq, Route.taken_eq, Route.taken_eq, Progress.andThen_assoc]
  cases hroute : route.result with
  | error e =>
    rw [Progress.andThen_of_error _ hroute]
    rfl
  | ok u =>
    rw [Progress.andThen_of_ok _ hroute, Progress.each_append, Progress.andThen_assoc]
    simp only [Progress.quiet_ok_andThen]

/-- A route comes to its end if no visit breaks off and it has one. -/
theorem Route.result_taken_eq_ok_iff {route : Route α} {a : α} :
    (route.taken (fun _ => fs) settings).result = .ok a ↔
      (∀ stop ∈ route.notes, (stop.visit fs settings).result = .ok ()) ∧ route.result = .ok a := by
  rw [Route.taken_eq, Progress.result_andThen_eq_ok_iff]
  constructor
  · rintro ⟨_, hvisits, hend⟩
    exact ⟨Progress.result_each_eq_ok_iff.1 hvisits, hend⟩
  · rintro ⟨hvisits, hend⟩
    exact ⟨(), Progress.result_each_eq_ok_iff.2 hvisits, hend⟩

/-- What is noted on a route that comes to its end is what its stops note. -/
theorem Route.notes_taken {route : Route α} {a : α}
    (h : (route.taken (fun _ => fs) settings).result = .ok a) :
    (route.taken (fun _ => fs) settings).notes
      = route.notes.flatMap fun stop => (stop.visit fs settings).notes := by
  obtain ⟨hvisits, -⟩ := Route.result_taken_eq_ok_iff.1 h
  have hall := Progress.result_each_eq_ok_iff.2 hvisits
  rw [Route.taken_eq, Progress.andThen_of_ok _ hall, Progress.notes_each hvisits]
  exact List.append_nil _

/-- What is noted on a route is noted at one of its stops, also if the route breaks off. -/
theorem Route.exists_of_mem_notes_taken {route : Route α} {n : Note}
    (h : n ∈ (route.taken (fun _ => fs) settings).notes) :
    ∃ stop ∈ route.notes, n ∈ (stop.visit fs settings).notes := by
  rw [Route.taken_eq] at h
  rcases Progress.mem_notes_andThen h with hvisits | ⟨_, hend⟩
  · exact Progress.exists_of_mem_notes_each hvisits
  · exact absurd hend List.not_mem_nil

end Routes

end DocCoverage
