import Mathlib.Data.DFinsupp.WellFounded
import CeServer.Library.Program
import CeServer.Library.Transition

/-!
Why schedules end: threads that each move down a well-founded order, in any
interleaving, and programs, whose calls always lead to smaller programs. A finite
run that ends at rest is continued to an infinite schedule.
-/

namespace Transition

variable {Weight : Type*} {below : Weight → Weight → Prop}

/-- In a schedule whose own steps move down and whose other steps leave the
weight as it is, the own steps come to an end. -/
theorem eventually_quiet (founded : WellFounded below) (own : Nat → Prop) (weights : Nat → Weight)
    (down : ∀ n, own n → below (weights (n + 1)) (weights n))
    (kept : ∀ n, ¬own n → weights (n + 1) = weights n) : ∃ n, ∀ later, n ≤ later → ¬own later := by
  classical
  induction first : weights 0 using founded.induction generalizing own weights with
  | _ weight ih =>
      by_cases moves : ∃ n, own n
      · have same (n : Nat) (early : n ≤ Nat.find moves) : weights n = weights 0 := by
          induction n with
          | zero => rfl
          | succ n quiet => rw [kept n (Nat.find_min moves early), quiet (Nat.le_of_succ_le early)]
        have lower := down _ (Nat.find_spec moves)
        rw [same _ (Nat.le_refl _), first] at lower
        obtain ⟨n, quiet⟩ := ih _ lower (fun n => own (Nat.find moves + 1 + n))
          (fun n => weights (Nat.find moves + 1 + n)) (fun n => down _) (fun n => kept _) rfl
        refine ⟨Nat.find moves + 1 + n, fun later order => ?_⟩
        have still := quiet (later - (Nat.find moves + 1)) (by omega)
        rwa [Nat.add_sub_cancel' (by omega)] at still
      · exact ⟨0, fun later _ moved => moves ⟨later, moved⟩⟩

section Threads

variable {Thread : Type*} {Rank : Type*} {lower : Rank → Rank → Prop}

/-- One thread moves down, the others stay where they are. -/
def OneBelow (lower : Rank → Rank → Prop) (after before : Thread → Rank) : Prop :=
  ∃ thread, lower (after thread) (before thread) ∧
    ∀ other, other ≠ thread → after other = before other

theorem oneBelow_wellFounded [Finite Thread] (founded : WellFounded lower) :
    WellFounded (OneBelow lower : (Thread → Rank) → (Thread → Rank) → Prop) := by
  obtain ⟨count, ⟨order⟩⟩ := Finite.exists_equiv_fin Thread
  refine Subrelation.wf (fun {after before} moved => ?_)
    (InvImage.wf (fun ranks => ranks ∘ order.symm)
      (Pi.Lex.wellFounded (· < ·) fun _ : Fin count => founded))
  obtain ⟨thread, down, kept⟩ := moved
  refine ⟨order thread, fun other earlier => kept _ fun same => earlier.ne ?_, ?_⟩
  · rw [← same, order.apply_symm_apply]
  · change lower (after (order.symm (order thread))) (before (order.symm (order thread)))
    rwa [order.symm_apply_apply]

end Threads

section Prolonged

variable {State Event : Type*} {next : State → Event → Option State} {first middle final : State}
  {event last : Event} {events : List Event}

/-- These events, and then one event for ever. -/
def prolonged (events : List Event) (last : Event) (n : Nat) : Event := (events[n]?).getD last

def statesFrom (next : State → Event → Option State) (first : State) (schedule : Nat → Event) :
    Nat → State
  | 0 => first
  | n + 1 => (next (statesFrom next first schedule n) (schedule n)).getD
      (statesFrom next first schedule n)

theorem prolonged_of_all (holds : Event → Prop) (each : ∀ event ∈ events, holds event)
    (always : holds last) (n : Nat) : holds (prolonged events last n) := by
  rw [prolonged]
  cases here : events[n]? with
  | none => exact always
  | some event => exact each event (List.mem_of_getElem? here)

theorem statesFrom_cons (taken : next first event = some middle) (n : Nat) :
    statesFrom next first (prolonged (event :: events) last) (n + 1) =
      statesFrom next middle (prolonged events last) n := by
  induction n with
  | zero => simp [statesFrom, prolonged, taken]
  | succ n ih =>
      rw [statesFrom, ih]
      rfl

theorem statesFrom_of_execute (executed : execute next first events = some final) :
    statesFrom next first (prolonged events last) events.length = final := by
  induction events generalizing first with
  | nil => exact Option.some.inj executed
  | cons event rest ih =>
      obtain ⟨middle, taken, remaining⟩ := Option.bind_eq_some_iff.mp executed
      rw [List.length_cons, statesFrom_cons taken]
      exact ih remaining

theorem rests_statesFrom (rests : State → Prop)
    (executed : execute next first events = some final) (ended : rests final)
    (repeats : ∀ state, rests state → ∃ after, next state last = some after ∧ rests after)
    (n : Nat) : rests (statesFrom next first (prolonged events last) (events.length + n)) := by
  induction n with
  | zero =>
      rw [Nat.add_zero, statesFrom_of_execute executed]
      exact ended
  | succ n ih =>
      obtain ⟨after, taken, kept⟩ := repeats _ ih
      have beyond : prolonged events last (events.length + n) = last := by
        simp [prolonged]
      rw [← Nat.add_assoc, statesFrom, beyond, taken]
      exact kept

/-- A run that ends where the last event can be taken again and again goes on for ever. -/
theorem steps_statesFrom (rests : State → Prop)
    (executed : execute next first events = some final) (ended : rests final)
    (repeats : ∀ state, rests state → ∃ after, next state last = some after ∧ rests after)
    (n : Nat) : Steps next (statesFrom next first (prolonged events last) n)
      (prolonged events last n) (statesFrom next first (prolonged events last) (n + 1)) := by
  induction events generalizing first n with
  | nil =>
      have here := rests_statesFrom rests executed ended repeats n
      rw [List.length_nil, Nat.zero_add] at here
      obtain ⟨after, taken, -⟩ := repeats _ here
      rw [Steps, statesFrom, show prolonged [] last n = last from rfl, taken, Option.getD_some]
  | cons event rest ih =>
      obtain ⟨middle, taken, remaining⟩ := Option.bind_eq_some_iff.mp executed
      cases n with
      | zero =>
          rw [statesFrom_cons taken]
          exact taken
      | succ n =>
          rw [statesFrom_cons taken, statesFrom_cons taken]
          exact ih remaining n

/-- Where nothing is possible any more once the run has ended, its own events are
progress enough. -/
theorem untiring_statesFrom (rests : State → Prop) (progress : Nat → Prop)
    {possible : State → Prop}
    (executed : execute next first events = some final) (ended : rests final)
    (repeats : ∀ state, rests state → ∃ after, next state last = some after ∧ rests after)
    (finished : ∀ state, rests state → ¬possible state) {newest : Nat}
    (newer : events.length ≤ newest + 1) (progresses : progress newest) (n : Nat)
    (possibleNow : possible (statesFrom next first (prolonged events last) n)) :
    ∃ later, n ≤ later ∧ progress later := by
  by_cases early : n ≤ newest
  · exact ⟨newest, early, progresses⟩
  · have here := rests_statesFrom rests executed ended repeats (n - events.length)
    rw [Nat.add_sub_cancel' (by omega)] at here
    exact absurd possibleNow (finished _ here)

end Prolonged

end Transition

namespace Interaction.Program

variable {Op : Type} {Response : Op → Type} {Value : Type}

/-- What is left of a program after a call is answered. -/
inductive Below : Program Op Response Value → Program Op Response Value → Prop
  | answer {op : Op} {next : Response op → Program Op Response Value} (response : Response op) :
      Below (next response) (call op next)

theorem below_wellFounded : WellFounded (Below : Program Op Response Value → _ → Prop) := by
  refine ⟨fun program => ?_⟩
  induction program with
  | ret value =>
      refine ⟨_, fun other smaller => ?_⟩
      cases smaller
  | call op next ih =>
      refine ⟨_, fun other smaller => ?_⟩
      cases smaller with
      | answer response => exact ih response

end Interaction.Program
