import Mathlib.Data.List.Basic

/-!
Labelled transition relations, the finite runs they generate and the rules that
carry a step lemma to a run: invariants, scheduling conditions, simulations.
-/

namespace Transition

variable {State Event : Type*}

/-- A finite run, written with its newest event last. -/
inductive Run (step : State → Event → State → Prop) (start : State) :
    List Event → State → Prop
  | nil : Run step start [] start
  | snoc {events middle event finish} : Run step start events middle →
      step middle event finish → Run step start (events ++ [event]) finish

def Reachable (step : State → Event → State → Prop) (start finish : State) : Prop :=
  ∃ events, Run step start events finish

/-- The steps of a relation that a scheduling condition on the state before
them admits. -/
def Restrict (step : State → Event → State → Prop) (allowed : State → Event → Prop) :
    State → Event → State → Prop :=
  fun before event after => allowed before event ∧ step before event after

def Steps (next : State → Event → Option State) : State → Event → State → Prop :=
  fun before event after => next before event = some after

def execute (next : State → Event → Option State) : State → List Event → Option State
  | state, [] => some state
  | state, event :: rest => (next state event).bind fun middle => execute next middle rest

section Runs

variable {step : State → Event → State → Prop} {start middle finish : State}
  {events later : List Event}

theorem Run.append (first : Run step start events middle) (second : Run step middle later finish) :
    Run step start (events ++ later) finish := by
  induction second with
  | nil => simpa using first
  | snoc _ last ih =>
      rw [← List.append_assoc]
      exact Run.snoc ih last

theorem Run.single {event : Event} (only : step start event finish) :
    Run step start [event] finish :=
  Run.snoc Run.nil only

theorem Run.cons {event : Event} (first : step start event middle)
    (rest : Run step middle events finish) : Run step start (event :: events) finish :=
  (Run.single first).append rest

theorem Run.reachable (run : Run step start events finish) : Reachable step start finish :=
  ⟨events, run⟩

theorem Run.invariant {holds : State → Prop} (run : Run step start events finish)
    (initially : holds start)
    (preserved : ∀ before event after, holds before → step before event after → holds after) :
    holds finish := by
  induction run with
  | nil => exact initially
  | snoc _ last ih => exact preserved _ _ _ ih last

/-- The invariant rule for facts about the events as well as the state. -/
theorem Run.history (holds : List Event → State → Prop) (run : Run step start events finish)
    (initially : holds [] start)
    (preserved : ∀ past before event after, Run step start past before → holds past before →
      step before event after → holds (past ++ [event]) after) :
    holds events finish := by
  induction run with
  | nil => exact initially
  | snoc past last ih => exact preserved _ _ _ _ past ih last

theorem Run.mono {wider : State → Event → State → Prop} (run : Run step start events finish)
    (included : ∀ before event after, step before event after → wider before event after) :
    Run wider start events finish := by
  induction run with
  | nil => exact Run.nil
  | snoc _ last ih => exact ih.snoc (included _ _ _ last)

theorem Run.unrestrict {allowed : State → Event → Prop}
    (run : Run (Restrict step allowed) start events finish) : Run step start events finish :=
  run.mono fun _ _ _ restricted => restricted.2

/-- A run of events that are allowed in every state. -/
theorem Run.restrict {allowed : State → Event → Prop} (run : Run step start events finish)
    (each : ∀ event ∈ events, ∀ state, allowed state event) :
    Run (Restrict step allowed) start events finish := by
  induction run with
  | nil => exact Run.nil
  | snoc _ last ih =>
      refine (ih fun event member => each event (List.mem_append_left _ member)).snoc ?_
      exact ⟨each _ (List.mem_append_right _ List.mem_cons_self) _, last⟩

/-- Two step relations that agree wherever an invariant of the first holds have
the same runs. -/
theorem Run.congr {other : State → Event → State → Prop} (holds : State → Prop)
    (initially : holds start)
    (preserved : ∀ before event after, holds before → step before event after → holds after)
    (agree : ∀ before event after, holds before →
      (step before event after ↔ other before event after)) :
    Run step start events finish ↔ Run other start events finish := by
  constructor
  · intro run
    induction run with
    | nil => exact Run.nil
    | snoc earlier last ih =>
        exact ih.snoc ((agree _ _ _ (earlier.invariant initially preserved)).mp last)
  · intro run
    induction run with
    | nil => exact Run.nil
    | snoc _ last ih => exact ih.snoc ((agree _ _ _ (ih.invariant initially preserved)).mpr last)

theorem Run.split (run : Run step start (events ++ later) finish) :
    ∃ state, Run step start events state ∧ Run step state later finish := by
  generalize whole : events ++ later = all at run
  induction run generalizing later with
  | nil =>
      obtain ⟨rfl, rfl⟩ := List.append_eq_nil_iff.mp whole
      exact ⟨start, Run.nil, Run.nil⟩
  | @snoc past before event after earlier last ih =>
      rcases List.eq_nil_or_concat later with rfl | ⟨front, final, rfl⟩
      · rw [List.append_nil] at whole
        subst whole
        exact ⟨after, earlier.snoc last, Run.nil⟩
      · rw [List.concat_eq_append, ← List.append_assoc] at whole
        obtain ⟨same, tail⟩ := List.append_inj' whole rfl
        obtain ⟨state, first, second⟩ := ih same
        simp only [List.cons.injEq, and_true] at tail
        subst tail
        exact ⟨state, first, by simpa using second.snoc last⟩

theorem Run.eq_of_nil (run : Run step start [] finish) : finish = start := by
  generalize none : ([] : List Event) = events at run
  cases run with
  | nil => rfl
  | snoc _ _ => simp at none

theorem Run.step_of_single {event : Event} (run : Run step start [event] finish) :
    step start event finish := by
  generalize whole : [event] = events at run
  cases run with
  | nil => simp at whole
  | @snoc past middle last finish earlier taken =>
      obtain ⟨none, tail⟩ := List.append_inj' (show [] ++ [event] = past ++ [last] from whole) rfl
      obtain rfl := (List.cons.inj tail).1
      subst none
      rwa [earlier.eq_of_nil] at taken

theorem Run.uncons {event : Event} (run : Run step start (event :: later) finish) :
    ∃ middle, step start event middle ∧ Run step middle later finish := by
  obtain ⟨middle, first, rest⟩ := Run.split (show Run step start ([event] ++ later) finish from run)
  exact ⟨middle, first.step_of_single, rest⟩

/-- A measure that no step raises by more than one passes each value at some step. -/
theorem Run.passes (measure : State → Nat) {value : Nat} (run : Run step start events finish)
    (initially : measure start ≤ value) (reached : value < measure finish)
    (slow : ∀ before event after, step before event after → measure after ≤ measure before + 1) :
    ∃ past before event after later, events = past ++ event :: later ∧
      Run step start past before ∧ step before event after ∧ Run step after later finish ∧
      measure before = value ∧ measure after = value + 1 := by
  induction run with
  | nil => omega
  | @snoc past before event after earlier last ih =>
      by_cases already : value < measure before
      · obtain ⟨front, middle, first, next, rest, rfl, ran, taken, remaining, measured⟩ :=
          ih already
        exact ⟨front, middle, first, next, rest ++ [event], by simp, ran, taken,
          remaining.snoc last, measured⟩
      · have rose := slow before event after last
        exact ⟨past, before, event, after, [], rfl, earlier, last, .nil, by omega, by omega⟩

theorem Run.unique {other : State}
    (deterministic : ∀ before event first second, step before event first →
      step before event second → first = second)
    (run : Run step start events finish) (again : Run step start events other) :
    finish = other := by
  induction run generalizing other with
  | nil => exact again.eq_of_nil.symm
  | snoc earlier last ih =>
      obtain ⟨middle, before, taken⟩ := again.split
      obtain rfl := ih before
      exact deterministic _ _ _ _ last taken.step_of_single

/-- When the scheduling condition is what one step needs and what the property
of the states forces, the runs it admits are those with the property throughout. -/
theorem Run.restrict_iff {allowed : State → Event → Prop} {good : State → Prop}
    (holds : State → Prop)
    (deterministic : ∀ before event first second, step before event first →
      step before event second → first = second)
    (initially : holds start)
    (preserved : ∀ before event after, holds before → Restrict step allowed before event after →
      holds after)
    (sound : ∀ state, holds state → good state)
    (necessary : ∀ before event after, holds before → step before event after → good after →
      allowed before event)
    (run : Run step start events finish) :
    (∀ past middle, past.IsPrefix events → Run step start past middle → good middle) ↔
      Run (Restrict step allowed) start events finish := by
  constructor
  · intro throughout
    induction run with
    | nil => exact Run.nil
    | @snoc past before event after earlier last ih =>
        have front := ih fun prior middle begins =>
          throughout prior middle (begins.trans (List.prefix_append ..))
        have kept : holds before := front.invariant initially preserved
        have finally' : good after := throughout _ _ List.prefix_rfl (earlier.snoc last)
        exact front.snoc ⟨necessary _ _ _ kept last finally', last⟩
  · rintro restricted past middle ⟨later, rfl⟩ begun
    obtain ⟨state, front, _⟩ := restricted.split
    obtain rfl := front.unrestrict.unique deterministic begun
    exact sound state (front.invariant initially preserved)

/-- Forward simulation: the simulating system takes the same events, and the
states stay related after each beginning of the run. -/
theorem Run.simulate {Abstract : Type*} {abstractStep : Abstract → Event → Abstract → Prop}
    (related : List Event → State → Abstract → Prop) {abstractStart : Abstract}
    (run : Run step start events finish) (initially : related [] start abstractStart)
    (matched : ∀ past before event after abstract, (past ++ [event]).IsPrefix events →
      related past before abstract → step before event after →
      ∃ next, abstractStep abstract event next ∧ related (past ++ [event]) after next) :
    ∃ abstractFinish, Run abstractStep abstractStart events abstractFinish ∧
      related events finish abstractFinish := by
  induction run with
  | nil => exact ⟨abstractStart, Run.nil, initially⟩
  | snoc _ last ih =>
      obtain ⟨abstract, earlier, relation⟩ := ih fun past before event after abstract begins =>
        matched past before event after abstract (begins.trans (List.prefix_append ..))
      obtain ⟨next, taken, kept⟩ := matched _ _ _ _ _ List.prefix_rfl relation last
      exact ⟨next, earlier.snoc taken, kept⟩

/-- A view of a system that shows each of its steps as a run, maybe an empty one,
of another system shows its runs as runs of that system. -/
theorem Run.refines {Other OtherEvent : Type*} {otherStep : Other → OtherEvent → Other → Prop}
    (view : State → Other) (holds : State → Prop) (run : Run step start events finish)
    (initially : holds start)
    (preserved : ∀ before event after, holds before → step before event after → holds after)
    (matched : ∀ before event after, holds before → step before event after →
      ∃ others, Run otherStep (view before) others (view after)) :
    ∃ others, Run otherStep (view start) others (view finish) := by
  induction run with
  | nil => exact ⟨[], Run.nil⟩
  | snoc earlier last ih =>
      obtain ⟨front, seen⟩ := ih
      obtain ⟨back, now⟩ := matched _ _ _ (earlier.invariant initially preserved) last
      exact ⟨front ++ back, seen.append now⟩

/-- A system that can always lower a measure while it is not done can be run
until it is done, by the events its advances take. -/
theorem exists_run_of_decreases {measure : State → Nat} {good done : State → Prop}
    {taken : Event → Prop}
    (advance : ∀ state, good state → ¬done state → ∃ events after, Run step state events after ∧
      (∀ event ∈ events, taken event) ∧ good after ∧ measure after < measure state)
    (start : State) (initially : good start) : ∃ events finish, Run step start events finish ∧
      (∀ event ∈ events, taken event) ∧ good finish ∧ done finish := by
  induction bound : measure start using Nat.strongRecOn generalizing start with
  | ind value ih =>
      by_cases finished : done start
      · exact ⟨[], start, Run.nil, nofun, initially, finished⟩
      · obtain ⟨events, middle, run, service, kept, less⟩ := advance start initially finished
        obtain ⟨later, finish, rest, remaining, stillGood, ended⟩ :=
          ih (measure middle) (bound ▸ less) middle kept rfl
        refine ⟨events ++ later, finish, run.append rest, fun event member => ?_, stillGood, ended⟩
        rcases List.mem_append.mp member with first | second
        · exact service event first
        · exact remaining event second

end Runs

theorem steps_deterministic (next : State → Event → Option State) (before : State) (event : Event)
    (first second : State) (one : Steps next before event first)
    (two : Steps next before event second) : first = second :=
  Option.some.inj (one.symm.trans two)

theorem run_of_execute {next : State → Event → Option State} {start finish : State}
    {events : List Event} (executed : execute next start events = some finish) :
    Run (Steps next) start events finish := by
  induction events generalizing start with
  | nil =>
      simp only [execute, Option.some.injEq] at executed
      subst executed
      exact Run.nil
  | cons event rest ih =>
      simp only [execute, Option.bind_eq_some_iff] at executed
      obtain ⟨middle, first, remaining⟩ := executed
      exact Run.cons first (ih remaining)

def restricted (next : State → Event → Option State) (allowed : State → Event → Prop)
    [∀ state event, Decidable (allowed state event)] (state : State) (event : Event) :
    Option State :=
  if allowed state event then next state event else none

theorem restrict_of_restricted {next : State → Event → Option State}
    {allowed : State → Event → Prop} [∀ state event, Decidable (allowed state event)]
    {before after : State} {event : Event}
    (taken : Steps (restricted next allowed) before event after) :
    Restrict (Steps next) allowed before event after := by
  simp only [Steps, restricted] at taken
  split at taken
  · rename_i admitted
    exact ⟨admitted, taken⟩
  · simp at taken

end Transition
