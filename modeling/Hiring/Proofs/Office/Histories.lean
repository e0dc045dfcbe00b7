import Hiring.Proofs.Office.Touches

/-!
# Histories of touches

To touch an application is to fetch the record, to change the copy and to store it.  When several
touches are under way at once, a record that is stored need not show the touches before it: it
shows what the copy showed when it was fetched, and the touch that stored it.

A history keeps track of this.  It does not know the records themselves, so what a record shows
depends on the order of the calls alone.

* `Phase`, `History` — how far each touch has come, which touches its copy of the record shows, and
  which of them the stored record shows.
* `History.take`, `shownAfter` — calls in some order; what the stored record shows after them.
* `History.Sound` — records show only touches that are there, and the stored one shows some as soon
  as one touch has ended.
* `shownAfter_oneByOne` — **touches that come one after the other are all shown.**
-/

set_option autoImplicit false

namespace Hiring

/-- How far a touch has come, and which touches its copy of the record shows. -/
inductive Phase where
  | waiting
  /-- The record was fetched. -/
  | fetched (seen : List Touch)
  /-- The job was fetched as well, and the verdict is known. -/
  | judged (seen : List Touch)
  /-- The changed copy was stored. -/
  | ended (seen : List Touch)

/-- How far each touch has come, and which touches the stored record shows. -/
structure History where
  phases : List (Touch × Phase)
  shown : List Touch

/-- The phase after the next call of a touch, and the touches that the stored record shows then. -/
def Phase.next (t : Touch) (shown : List Touch) : Phase → Phase × List Touch
  | .waiting => (.fetched shown, shown)
  | .fetched seen =>
    match t with
    | .rescreen => (.judged seen, shown)
    | .moveTo _ => (.ended seen, seen ++ [t])
  | .judged seen => (.ended seen, seen ++ [t])
  | .ended seen => (.ended seen, shown)

namespace History

/-- Touches that have not begun. -/
def start (touches : List Touch) : History := ⟨touches.map fun t => (t, .waiting), []⟩

/-- The touch at a position makes its next call. -/
def turn (h : History) (i : Nat) : History :=
  match h.phases[i]? with
  | some (t, phase) => ⟨h.phases.set i (t, (phase.next t h.shown).1), (phase.next t h.shown).2⟩
  | none => h

/-- Touches make calls in an order. -/
def take (h : History) (turns : List Nat) : History := turns.foldl turn h

end History

/-- The number of calls of a touch. -/
def Touch.calls : Touch → Nat
  | .rescreen => 3
  | .moveTo _ => 2

/-- The order of calls in which each touch makes all of its calls before the next one begins.  The
first touch stands at position `i`. -/
def oneByOne (i : Nat) : List Touch → List Nat
  | [] => []
  | t :: ts => List.replicate t.calls i ++ oneByOne (i + 1) ts

/-- The touches that the stored record shows after calls in an order. -/
def shownAfter (touches : List Touch) (turns : List Nat) : List Touch :=
  ((History.start touches).take turns).shown

/-! ## What the stored record shows -/

/-- The touches that the copy of a touch shows. -/
def Phase.seen : Phase → List Touch
  | .waiting => []
  | .fetched seen => seen
  | .judged seen => seen
  | .ended seen => seen

namespace History

/-- Records show only touches that are there, and the stored one shows some as soon as one of them
has ended. -/
structure Sound (touches : List Touch) (h : History) : Prop where
  names : h.phases.map (·.1) = touches
  shown_sub : ∀ t ∈ h.shown, t ∈ touches
  seen_sub : ∀ p ∈ h.phases, ∀ t ∈ p.2.seen, t ∈ touches
  shown_ne_nil : ∀ p ∈ h.phases, ∀ seen, p.2 = .ended seen → h.shown ≠ []

variable {touches : List Touch} {h : History}

theorem sound_start (touches : List Touch) : Sound touches (start touches) where
  names := by simp [start, Function.comp_def]
  shown_sub := by simp [start]
  seen_sub := by simp [start, Phase.seen]
  shown_ne_nil := by simp [start]

/-- After a call of a touch `t` both its copy and the stored record show what one of them showed,
and perhaps `t`. -/
theorem next_sub {t : Touch} {shown : List Touch} {phase : Phase} (ht : t ∈ touches)
    (hshown : ∀ u ∈ shown, u ∈ touches) (hseen : ∀ u ∈ phase.seen, u ∈ touches) :
    (∀ u ∈ (phase.next t shown).1.seen, u ∈ touches) ∧
    ∀ u ∈ (phase.next t shown).2, u ∈ touches := by
  have happend : ∀ u ∈ phase.seen ++ [t], u ∈ touches := by
    intro u hu
    rcases List.mem_append.1 hu with hu | hu
    · exact hseen u hu
    · exact List.mem_singleton.1 hu ▸ ht
  cases phase with
  | waiting => exact ⟨hshown, hshown⟩
  | fetched seen =>
    cases t with
    | rescreen => exact ⟨hseen, hshown⟩
    | moveTo stage => exact ⟨hseen, happend⟩
  | judged seen => exact ⟨hseen, happend⟩
  | ended seen => exact ⟨hseen, hshown⟩

theorem next_ne_nil {t : Touch} {shown : List Touch} {phase : Phase} (h : shown ≠ []) :
    (phase.next t shown).2 ≠ [] := by
  cases phase with
  | waiting => exact h
  | fetched seen => cases t <;> simp [Phase.next, h]
  | judged seen => simp [Phase.next]
  | ended seen => exact h

/-- A call that ends a touch makes the stored record show it. -/
theorem next_ne_nil_of_ended {t : Touch} {shown seen' : List Touch} {phase : Phase}
    (hold : ∀ seen, phase = .ended seen → shown ≠ [])
    (h : (phase.next t shown).1 = .ended seen') : (phase.next t shown).2 ≠ [] := by
  cases phase with
  | waiting => cases h
  | fetched seen =>
    cases t with
    | rescreen => cases h
    | moveTo stage => simp [Phase.next]
  | judged seen => simp [Phase.next]
  | ended seen => exact hold seen rfl

/-- A call changes no touch, only how far it has come. -/
theorem names_set {i : Nat} {t : Touch} {phase : Phase} (hi : h.phases[i]? = some (t, phase))
    (phase' : Phase) : (h.phases.set i (t, phase')).map (·.1) = h.phases.map (·.1) := by
  refine List.ext_getElem? fun j => ?_
  rw [List.getElem?_map, List.getElem?_map]
  by_cases hij : i = j
  · subst hij
    have hlt : i < h.phases.length := (List.getElem?_eq_some_iff.1 hi).1
    rw [List.getElem?_set_self hlt, hi]
    rfl
  · rw [List.getElem?_set_ne hij]

theorem Sound.turn (hs : Sound touches h) (i : Nat) : Sound touches (h.turn i) := by
  rw [History.turn]
  cases hi : h.phases[i]? with
  | none => exact hs
  | some p =>
    obtain ⟨t, phase⟩ := p
    have hp : (t, phase) ∈ h.phases := List.mem_of_getElem? hi
    have ht : t ∈ touches := hs.names ▸ List.mem_map_of_mem hp
    obtain ⟨hseen, hshown⟩ := next_sub ht hs.shown_sub (hs.seen_sub _ hp)
    refine ⟨(names_set hi _).trans hs.names, hshown, fun p hmem => ?_, fun p hmem seen he => ?_⟩
    · rcases List.mem_or_eq_of_mem_set hmem with hmem | rfl
      · exact hs.seen_sub p hmem
      · exact hseen
    · rcases List.mem_or_eq_of_mem_set hmem with hmem | rfl
      · exact next_ne_nil (hs.shown_ne_nil p hmem seen he)
      · exact next_ne_nil_of_ended (hs.shown_ne_nil _ hp) he

theorem Sound.take (hs : Sound touches h) (turns : List Nat) : Sound touches (h.take turns) := by
  induction turns generalizing h with
  | nil => exact hs
  | cons i turns ih => exact ih (hs.turn i)

/-! ## One after the other -/

theorem turn_of_get {i : Nat} {t : Touch} {phase : Phase} (hi : h.phases[i]? = some (t, phase)) :
    h.turn i = ⟨h.phases.set i (t, (phase.next t h.shown).1), (phase.next t h.shown).2⟩ := by
  rw [turn, hi]

theorem take_append (h : History) (turns later : List Nat) :
    h.take (turns ++ later) = (h.take turns).take later :=
  List.foldl_append

/-- All calls of a touch, with no other call in between. -/
theorem take_calls {i : Nat} {t : Touch} (hi : h.phases[i]? = some (t, .waiting)) :
    h.take (List.replicate t.calls i) =
      ⟨h.phases.set i (t, .ended h.shown), h.shown ++ [t]⟩ := by
  have hlt : i < h.phases.length := (List.getElem?_eq_some_iff.1 hi).1
  have hset : ∀ p : Touch × Phase, (h.phases.set i p)[i]? = some p := fun p =>
    List.getElem?_set_self hlt
  cases t with
  | rescreen =>
    have hfetched : h.turn i = ⟨h.phases.set i (.rescreen, .fetched h.shown), h.shown⟩ :=
      turn_of_get hi
    have hjudged := turn_of_get (h := ⟨_, h.shown⟩) (hset (.rescreen, .fetched h.shown))
    have hended := turn_of_get (h := ⟨_, h.shown⟩) (hset (.rescreen, .judged h.shown))
    rw [List.set_set] at hjudged hended
    show ((h.turn i).turn i).turn i = _
    rw [hfetched, hjudged]
    exact hended
  | moveTo stage =>
    have hfetched : h.turn i = ⟨h.phases.set i (.moveTo stage, .fetched h.shown), h.shown⟩ :=
      turn_of_get hi
    have hended := turn_of_get (h := ⟨_, h.shown⟩) (hset (.moveTo stage, .fetched h.shown))
    rw [List.set_set] at hended
    show (h.turn i).turn i = _
    rw [hfetched]
    exact hended

/-- Touches that have not begun make their calls, each touch after the one before it has ended. -/
theorem take_oneByOne (before : List (Touch × Phase)) (shown rest : List Touch)
    (hended : ∀ p ∈ before, ∃ seen, p.2 = .ended seen) :
    ∃ after : List (Touch × Phase), (∀ p ∈ after, ∃ seen, p.2 = .ended seen) ∧
      (History.mk (before ++ rest.map fun t => (t, .waiting)) shown).take
        (oneByOne before.length rest) = ⟨after, shown ++ rest⟩ := by
  -- on the touches that have not begun: the first of them joins those that have ended
  induction rest generalizing before shown with
  | nil => exact ⟨before, hended, by simp [oneByOne, take]⟩
  | cons t rest ih =>
    have hfirst : (before ++ (t :: rest).map fun t => (t, Phase.waiting))[before.length]? =
        some (t, .waiting) := by simp
    have hset : (before ++ (t :: rest).map fun t => (t, Phase.waiting)).set before.length
        (t, .ended shown) = (before ++ [(t, .ended shown)]) ++
          rest.map fun t => (t, Phase.waiting) := by simp
    have hended' : ∀ p ∈ before ++ [(t, .ended shown)], ∃ seen, p.2 = .ended seen := by
      intro p hp
      rcases List.mem_append.1 hp with hp | hp
      · exact hended p hp
      · exact ⟨shown, by rw [List.mem_singleton.1 hp]⟩
    obtain ⟨after, hafter, hrest⟩ := ih (before ++ [(t, .ended shown)]) (shown ++ [t]) hended'
    refine ⟨after, hafter, ?_⟩
    have hblock := take_calls (h := ⟨_, shown⟩) hfirst
    simp only [hset] at hblock
    rw [oneByOne, take_append, hblock]
    simpa using hrest

end History

/-- **Touches that come one after the other are all shown.** -/
theorem shownAfter_oneByOne (touches : List Touch) :
    shownAfter touches (oneByOne 0 touches) = touches := by
  obtain ⟨after, -, htake⟩ := History.take_oneByOne [] [] touches (by simp)
  rw [List.nil_append, List.nil_append] at htake
  rw [shownAfter, History.start]
  exact congrArg History.shown htake

end Hiring
