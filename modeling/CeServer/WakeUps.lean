import CeServer.Progress

/-!
The condition wait of `dispatchLoop` in its single steps: who holds `mtx`, when
the predicate is evaluated, and when the notifications come.
-/

namespace CeServer

open Transition Memory

/-- A thread of `Memory::read` holds `mtx` from its change until after its
notification, the dispatcher from a false predicate until it blocks. -/
inductive MutexOwner (Thread : Type)
  | dispatcher
  | pushed (thread : Thread)
  | notified (thread : Thread)
  deriving DecidableEq

/-- `Memory::shutdown` takes no lock. -/
inductive Shutdown
  | uncalled
  | stopSet
  | joining
  | returned
  deriving DecidableEq

structure Waiting (Thread Stopper Device Scatter : Type) where
  memory : MemoryState Thread Device Scatter
  owner : Option (MutexOwner Thread) := none
  shutdowns : Stopper → Shutdown := fun _ => .uncalled

inductive WaitEvent (Thread Stopper Device : Type)
  | other (event : MemoryEvent Thread Device)
  | findItem (thread : Thread)
  | pushItem (thread : Thread)
  | notifyPush (thread : Thread)
  | unlock (thread : Thread)
  | evaluate
  | block
  | setStop (stopper : Stopper)
  | notifyStop (stopper : Stopper)
  | joinThread (stopper : Stopper)

namespace Waiting

variable {Thread Stopper Device Scatter : Type}

/-- The steps of the coarser model that are taken apart here. -/
def takenApart : MemoryEvent Thread Device → Bool
  | .enqueue _ | .waitTest | .setStop | .notifyStop => true
  | _ => false

def locksMutex : MemoryEvent Thread Device → Bool
  | .refuse _ | .testEmpty | .formBatch _ => true
  | _ => false

def dispatching (waiting : Waiting Thread Stopper Device Scatter)
    (dispatcher : Dispatcher Scatter) : Waiting Thread Stopper Device Scatter :=
  { waiting with memory := { waiting.memory with dispatcher } }

variable [DecidableEq Thread] [DecidableEq Stopper]

def setShutdown (waiting : Waiting Thread Stopper Device Scatter) (stopper : Stopper)
    (shutdown : Shutdown) : Waiting Thread Stopper Device Scatter :=
  { waiting with shutdowns := Function.update waiting.shutdowns stopper shutdown }

/-- The request of a thread that is about to lock `mtx`, and its item. -/
def lookup (waiting : Waiting Thread Stopper Device Scatter) (thread : Thread) :
    Option (Option ItemId) :=
  match waiting.memory.threads thread with
  | .calling _ request => some (waiting.memory.backlog.find request.key)
  | _ => none

def next (dma : Dma Device Scatter) (waiting : Waiting Thread Stopper Device Scatter) :
    WaitEvent Thread Stopper Device → Option (Waiting Thread Stopper Device Scatter)
  | .other event =>
      if takenApart event || (locksMutex event && waiting.owner.isSome) then none
      else (Memory.next dma waiting.memory event).map fun memory => { waiting with memory }
  | .findItem thread =>
      match waiting.owner, waiting.lookup thread with
      | none, some (some _) => (Memory.next dma waiting.memory (.enqueue thread)).map fun memory =>
          { waiting with memory }
      | _, _ => none
  | .pushItem thread =>
      match waiting.owner, waiting.lookup thread with
      | none, some none => (Memory.next dma waiting.memory (.enqueue thread)).map fun memory =>
          -- the change alone: nobody has been notified yet
          { waiting with
            memory := { memory with dispatcher := waiting.memory.dispatcher }
            owner := some (.pushed thread) }
      | _, _ => none
  | .notifyPush thread =>
      if waiting.owner = some (.pushed thread) then
        some { waiting.dispatching waiting.memory.dispatcher.notified with
          owner := some (.notified thread) }
      else none
  | .unlock thread =>
      if waiting.owner = some (.notified thread) then some { waiting with owner := none }
      else none
  | .evaluate =>
      match waiting.memory.dispatcher, waiting.owner, waiting.memory.mtxAbandoned with
      | .waitTest, none, false =>
          if waiting.memory.bStop || !waiting.memory.backlog.entries.isEmpty then
            some (waiting.dispatching .test)
          else some { waiting with owner := some .dispatcher }
      | _, _, _ => none
  | .block =>
      if waiting.owner = some .dispatcher then
        some { waiting.dispatching .blocked with owner := none }
      else none
  | .setStop stopper =>
      match waiting.shutdowns stopper with
      | .uncalled => (Memory.next dma waiting.memory .setStop).map fun memory =>
          { waiting.setShutdown stopper .stopSet with memory }
      | _ => none
  | .notifyStop stopper =>
      match waiting.shutdowns stopper with
      | .stopSet => (Memory.next dma waiting.memory .notifyStop).map fun memory =>
          { waiting.setShutdown stopper .joining with memory }
      | _ => none
  | .joinThread stopper =>
      match waiting.shutdowns stopper, waiting.memory.dispatcher with
      | .joining, .stopped => some (waiting.setShutdown stopper .returned)
      | _, _ => none

def start (device : Device) : Waiting Thread Stopper Device Scatter :=
  { memory := Memory.start device }

/-- Whoever has changed what the dispatcher waits for has also notified it. -/
def AllNotified (waiting : Waiting Thread Stopper Device Scatter) : Prop :=
  (∀ thread, waiting.owner ≠ some (.pushed thread)) ∧
    ∀ stopper, waiting.shutdowns stopper ≠ .stopSet

/-- The dispatcher, blocked and not yet woken, has missed nothing. -/
def NoLostWakeUp (waiting : Waiting Thread Stopper Device Scatter) : Prop :=
  waiting.memory.dispatcher = .blocked → waiting.AllNotified →
    waiting.memory.backlog.entries = [] ∧ waiting.memory.bStop = false

/-- The dispatcher blocks only before `bStop` is set, or before the notification
of a shutdown that has set it. -/
def BlocksInTime (waiting : Waiting Thread Stopper Device Scatter) :
    WaitEvent Thread Stopper Device → Prop
  | .block => waiting.memory.bStop = false ∨ ∃ stopper, waiting.shutdowns stopper = .stopSet
  | _ => True

section Invariants

variable {dma : Dma Device Scatter}

theorem asleep_of_act {before after : MemoryState Thread Device Scatter}
    {event : MemoryEvent Thread Device} (act : Act dma before event after)
    (other : event ≠ .waitTest) (running : event ≠ .setStop)
    (asleep : after.dispatcher = .blocked) :
    before.dispatcher = .blocked ∧ after.backlog = before.backlog ∧ after.bStop = before.bStop := by
  cases act with
  | waitTest => exact absurd rfl other
  | setStop => exact absurd rfl running
  | create | notifyStop => exact absurd asleep (notified_ne_blocked _)
  | testStop | testEmpty | acquire =>
      dsimp only at asleep
      split at asleep <;> cases asleep
  | @setValue path =>
      cases path <;> cases asleep
  | wakeSpuriously | formBatch | prepare | execute | fill | setTwice | memFree | finish | release =>
      cases asleep
  | _ => exact ⟨asleep, rfl, rfl⟩

/-- While the dispatcher holds `mtx`, nothing else changes what it has seen of
the backlog. -/
theorem deciding_of_act {before after : MemoryState Thread Device Scatter}
    {event : MemoryEvent Thread Device} (act : Act dma before event after)
    (other : takenApart event = false) (waits : before.dispatcher = .waitTest) :
    after.dispatcher = .waitTest ∧ after.backlog = before.backlog := by
  cases act with
  | waitTest | create | join | setStop | notifyStop => cases other
  | testStop same | testEmpty same | wakeSpuriously same | formBatch same | acquire same
    | prepare same | execute same | fill same | setTwice same | setValue same | memFree _ same
    | finish same | release same =>
      rw [waits] at same
      cases same
  | _ => exact ⟨waits, rfl⟩

structure Invariant (waiting : Waiting Thread Stopper Device Scatter) : Prop where
  deciding : waiting.owner = some .dispatcher →
    waiting.memory.dispatcher = .waitTest ∧ waiting.memory.backlog.entries = []
  noLostWakeUp : waiting.NoLostWakeUp

variable {waiting after : Waiting Thread Stopper Device Scatter}

omit [DecidableEq Thread] [DecidableEq Stopper] in
theorem invariant_start (device : Device) :
    Invariant (start device : Waiting Thread Stopper Device Scatter) :=
  ⟨nofun, nofun⟩

omit [DecidableEq Stopper] in
/-- A step of the memory that leaves the notifications as they stand. -/
theorem Invariant.act (invariant : Invariant waiting) {memory : MemoryState Thread Device Scatter}
    {event : MemoryEvent Thread Device}
    (taken : Steps (Memory.next dma) waiting.memory event memory)
    (other : event ≠ .waitTest) (running : event ≠ .setStop)
    (kept : waiting.owner = some .dispatcher → takenApart event = false) :
    Invariant { waiting with memory } := by
  obtain ⟨acted, act, rfl⟩ := act_of_next taken
  constructor
  · intro owned
    obtain ⟨waits, empty⟩ := invariant.deciding owned
    obtain ⟨still, backlog⟩ := deciding_of_act act (kept owned) waits
    exact ⟨still, backlog ▸ empty⟩
  · intro asleep notified
    obtain ⟨blocked, backlog, bStop⟩ := asleep_of_act act other running asleep
    obtain ⟨empty, stop⟩ := invariant.noLostWakeUp blocked notified
    exact ⟨backlog ▸ empty, bStop.trans stop⟩

omit [DecidableEq Thread] in
/-- One shutdown moves on, and with it perhaps what it does to the memory. -/
theorem Invariant.shutdown (invariant : Invariant waiting) {stopper : Stopper}
    {shutdown : Shutdown} (same : shutdown = .stopSet ↔ waiting.shutdowns stopper = .stopSet) :
    Invariant (waiting.setShutdown stopper shutdown) := by
  refine ⟨invariant.deciding, fun asleep notified => invariant.noLostWakeUp asleep ⟨notified.1, ?_⟩⟩
  intro other pending
  refine notified.2 other ?_
  by_cases own : other = stopper
  · subst own
    simpa [setShutdown] using same.mpr pending
  · simpa [setShutdown, Function.update_of_ne own] using pending

theorem evaluated_of_next (taken : Steps (next dma) waiting .evaluate after) :
    waiting.memory.dispatcher = .waitTest ∧ waiting.owner = none ∧
      (after = waiting.dispatching .test ∨
        waiting.memory.backlog.entries = [] ∧
          after = { waiting with owner := some .dispatcher }) := by
  simp only [Steps, next] at taken
  split at taken
  · rename_i waits free _
    refine ⟨waits, free, ?_⟩
    split at taken
    · exact Or.inl (Option.some.inj taken).symm
    · rename_i unready
      simp only [Bool.or_eq_true, Bool.not_eq_true', not_or, Bool.not_eq_false] at unready
      exact Or.inr ⟨List.isEmpty_iff.mp unready.2, (Option.some.inj taken).symm⟩
  · cases taken

theorem blocked_of_next (taken : Steps (next dma) waiting .block after) :
    waiting.owner = some .dispatcher ∧
      after = { waiting.dispatching .blocked with owner := none } := by
  simp only [Steps, next] at taken
  split at taken
  · rename_i owned
    exact ⟨owned, (Option.some.inj taken).symm⟩
  · cases taken

theorem Invariant.step (invariant : Invariant waiting) {event : WaitEvent Thread Stopper Device}
    (inTime : BlocksInTime waiting event) (taken : Steps (next dma) waiting event after) :
    Invariant after := by
  cases event with
  | other event =>
      simp only [Steps, next] at taken
      split at taken
      · cases taken
      · rename_i admitted
        obtain ⟨memory, stepped, rfl⟩ := Option.map_eq_some_iff.mp taken
        have apart : takenApart event = false := by
          simp only [Bool.or_eq_true, not_or, Bool.not_eq_true] at admitted
          exact admitted.1
        refine invariant.act stepped ?_ ?_ fun _ => apart
        · rintro rfl
          cases apart
        · rintro rfl
          cases apart
  | findItem thread =>
      simp only [Steps, next] at taken
      split at taken
      · rename_i free _
        obtain ⟨memory, stepped, rfl⟩ := Option.map_eq_some_iff.mp taken
        refine invariant.act stepped (by simp) (by simp) fun owned => ?_
        rw [free] at owned
        cases owned
      · cases taken
  | pushItem thread =>
      simp only [Steps, next] at taken
      split at taken
      · obtain ⟨memory, stepped, rfl⟩ := Option.map_eq_some_iff.mp taken
        refine ⟨fun owned => ?_, fun _ notified => absurd rfl (notified.1 thread)⟩
        cases owned
      · cases taken
  | notifyPush thread =>
      simp only [Steps, next] at taken
      split at taken
      · cases taken
        refine ⟨fun owned => ?_, fun asleep => absurd asleep (notified_ne_blocked _)⟩
        cases owned
      · cases taken
  | unlock thread =>
      simp only [Steps, next] at taken
      split at taken
      · rename_i owned
        cases taken
        constructor
        · intro free
          cases free
        · intro asleep notified
          refine invariant.noLostWakeUp asleep ⟨fun other pushed => ?_, notified.2⟩
          rw [owned] at pushed
          cases pushed
      · cases taken
  | evaluate =>
      obtain ⟨waits, free, rfl | ⟨empty, rfl⟩⟩ := evaluated_of_next taken
      · constructor
        · intro owned
          simp [dispatching, free] at owned
        · intro asleep
          cases asleep
      · refine ⟨fun _ => ⟨waits, empty⟩, fun asleep => ?_⟩
        rw [waits] at asleep
        cases asleep
  | block =>
      obtain ⟨owned, rfl⟩ := blocked_of_next taken
      constructor
      · intro free
        cases free
      · intro _ notified
        refine ⟨(invariant.deciding owned).2, ?_⟩
        rcases inTime with running | ⟨stopper, pending⟩
        · exact running
        · exact absurd pending (notified.2 stopper)
  | setStop stopper =>
      simp only [Steps, next] at taken
      split at taken
      · obtain ⟨memory, stepped, rfl⟩ := Option.map_eq_some_iff.mp taken
        obtain ⟨acted, act, rfl⟩ := act_of_next stepped
        cases act
        refine ⟨invariant.deciding, fun _ notified => absurd ?_ (notified.2 stopper)⟩
        exact Function.update_self ..
      · cases taken
  | notifyStop stopper =>
      simp only [Steps, next] at taken
      split at taken
      · obtain ⟨memory, stepped, rfl⟩ := Option.map_eq_some_iff.mp taken
        obtain ⟨acted, act, rfl⟩ := act_of_next stepped
        cases act
        refine ⟨fun owned => ?_, fun asleep => absurd asleep (notified_ne_blocked _)⟩
        obtain ⟨waits, empty⟩ := invariant.deciding owned
        exact ⟨congrArg Dispatcher.notified waits, empty⟩
      · cases taken
  | joinThread stopper =>
      simp only [Steps, next] at taken
      split at taken
      · rename_i joins _
        cases taken
        exact invariant.shutdown (by simp [joins])
      · cases taken

theorem blocksInTime_of_noLostWakeUp {event : WaitEvent Thread Stopper Device}
    (step : Steps (next dma) waiting event after) (good : after.NoLostWakeUp) :
    BlocksInTime waiting event := by
  cases event with
  | block =>
      obtain ⟨_, rfl⟩ := blocked_of_next step
      cases stopped : waiting.memory.bStop with
      | false => exact Or.inl stopped
      | true =>
          refine Or.inr ?_
          by_contra none
          have notified : ∀ stopper, waiting.shutdowns stopper ≠ .stopSet := by
            simpa using none
          have running : waiting.memory.bStop = false := (good rfl ⟨by simp, notified⟩).2
          rw [stopped] at running
          cases running
  | _ => exact trivial

/-- Every state of a run is free of lost wake-ups exactly when the dispatcher
never blocks after a shutdown's notification. -/
theorem noLostWakeUp_iff_blocksInTime {device : Device}
    {events : List (WaitEvent Thread Stopper Device)}
    (run : Run (Steps (next dma)) (start device) events waiting) :
    (∀ past middle, past.IsPrefix events → Run (Steps (next dma)) (start device) past middle →
        middle.NoLostWakeUp) ↔
      Run (Restrict (Steps (next dma)) BlocksInTime) (start device) events waiting :=
  run.restrict_iff Invariant (steps_deterministic (next dma)) (invariant_start device)
    (fun _ _ _ holds taken => holds.step taken.1 taken.2) (fun _ holds => holds.noLostWakeUp)
    fun _ _ _ _ step good => blocksInTime_of_noLostWakeUp step good

end Invariants

/-- A shutdown beside a dispatcher that has just found nothing to do. -/
def shutsDown (stops : List (WaitEvent Unit Unit (List UInt8))) :
    List (WaitEvent Unit Unit (List UInt8)) :=
  [.other .testStop, .other .testEmpty, .evaluate] ++ stops

def blocksRunning (waiting : Waiting Unit Unit (List UInt8) (List UInt8)) :
    WaitEvent Unit Unit (List UInt8) → Bool
  | .block => !waiting.memory.bStop
  | _ => true

theorem noLostWakeUp_iff_blocksInTime_wakes :
    ∃ waiting : Waiting Unit Unit (List UInt8) (List UInt8),
      Run (Restrict (Steps (next flatMemory)) BlocksInTime) (start [])
          (shutsDown [.block, .setStop (), .notifyStop (), .evaluate]) waiting ∧
        waiting.NoLostWakeUp := by
  have executed : (execute (restricted (next flatMemory)
      fun waiting event => blocksRunning waiting event = true) (start [])
        (shutsDown [.block, .setStop (), .notifyStop (), .evaluate])).isSome = true := by
    rfl
  obtain ⟨waiting, ran⟩ := Option.isSome_iff_exists.mp executed
  have run : Run (Restrict (Steps (next flatMemory)) BlocksInTime) (start [])
      (shutsDown [.block, .setStop (), .notifyStop (), .evaluate]) waiting := by
    refine (run_of_execute ran).mono fun before event after taken => ?_
    obtain ⟨runs, step⟩ := restrict_of_restricted taken
    refine ⟨?_, step⟩
    cases event with
    | block => exact Or.inl (by simpa [blocksRunning] using runs)
    | _ => exact trivial
  have whole := (noLostWakeUp_iff_blocksInTime run.unrestrict).mpr run
  exact ⟨waiting, run, whole _ _ List.prefix_rfl run.unrestrict⟩

/-- Both steps of the shutdown fall between the predicate and the blocking. -/
theorem wakeUp_lost :
    ¬∀ (events : List (WaitEvent Unit Unit (List UInt8)))
      (waiting : Waiting Unit Unit (List UInt8) (List UInt8)),
      Run (Steps (next flatMemory)) (start []) events waiting → waiting.NoLostWakeUp := by
  intro noticed
  have executed : (execute (next flatMemory) (start [])
      (shutsDown [.setStop (), .notifyStop (), .block])).map (fun waiting =>
        (waiting.memory.dispatcher, waiting.owner, waiting.shutdowns (), waiting.memory.bStop)) =
        some (.blocked, none, .joining, true) := by
    rfl
  obtain ⟨waiting, ran, observed⟩ := Option.map_eq_some_iff.mp executed
  simp only [Prod.mk.injEq] at observed
  obtain ⟨asleep, free, joins, stopped⟩ := observed
  have notified : waiting.AllNotified := by
    refine ⟨fun thread => ?_, fun stopper => ?_⟩
    · rw [free]
      simp
    · rw [joins]
      simp
  have running := (noticed _ waiting (run_of_execute ran) asleep notified).2
  rw [stopped] at running
  cases running

end Waiting

end CeServer