import CeServer.Progress

/-!
The semaphore of the DMA device: one holder at a time, so that no write of the
server falls into a batch.
-/

namespace CeServer.Memory

open Transition

variable {Thread Device Scatter : Type} {dma : Dma Device Scatter}
  {before after : MemoryState Thread Device Scatter} {event : MemoryEvent Thread Device}

inductive Holder (Thread : Type)
  | dispatcher
  | thread (thread : Thread)

def Holds (state : MemoryState Thread Device Scatter) : Holder Thread → Prop
  | .dispatcher => holdsSem state.dispatcher = true
  | .thread thread => holdsSemaphore (state.threads thread) = true

structure Exclusive (state : MemoryState Thread Device Scatter) : Prop where
  taken : ∀ holder, Holds state holder → state.semFree = false
  alone : ∀ first second, Holds state first → Holds state second → first = second

theorem exclusive_start (device : Device) :
    Exclusive (start device : MemoryState Thread Device Scatter) := by
  have nobody (holder : Holder Thread) :
      ¬Holds (start device : MemoryState Thread Device Scatter) holder := by
    cases holder <;> simp [Holds, start, holdsSem, holdsSemaphore]
  exact ⟨fun holder holds => absurd holds (nobody holder),
    fun first _ holds => absurd holds (nobody first)⟩

/-- Nobody new holds the semaphore. -/
theorem Exclusive.shrinks (exclusive : Exclusive before)
    (holds : ∀ holder, Holds after holder → Holds before holder)
    (semFree : after.semFree = before.semFree) : Exclusive after := by
  refine ⟨fun holder held => ?_, fun first second one two => ?_⟩
  · rw [semFree]
    exact exclusive.taken holder (holds holder held)
  · exact exclusive.alone first second (holds first one) (holds second two)

/-- Somebody takes the free semaphore. -/
theorem Exclusive.takes (exclusive : Exclusive before) (free : before.semFree = true)
    (taker : Holder Thread)
    (holds : ∀ holder, Holds after holder → Holds before holder ∨ holder = taker)
    (taken : after.semFree = false) : Exclusive after := by
  have only (holder : Holder Thread) (held : Holds after holder) : holder = taker := by
    refine (holds holder held).resolve_left fun earlier => ?_
    have busy := exclusive.taken holder earlier
    rw [free] at busy
    cases busy
  exact ⟨fun _ _ => taken,
    fun first second one two => (only first one).trans (only second two).symm⟩

/-- The one holder releases the semaphore. -/
theorem Exclusive.releases (exclusive : Exclusive before) (releaser : Holder Thread)
    (held : Holds before releaser) (gone : ¬Holds after releaser)
    (holds : ∀ holder, Holds after holder → Holds before holder) : Exclusive after := by
  have nobody (holder : Holder Thread) : ¬Holds after holder := by
    intro still
    obtain rfl := exclusive.alone holder releaser (holds holder still) held
    exact gone still
  exact ⟨fun holder still => absurd still (nobody holder),
    fun first _ still => absurd still (nobody first)⟩

variable [DecidableEq Thread]

theorem holds_thread {holder : Holder Thread} (holds : Holds after holder) {thread : Thread}
    {value : ThreadState} (threads : after.threads = Function.update before.threads thread value)
    (dispatcher : holdsSem after.dispatcher = holdsSem before.dispatcher) :
    Holds before holder ∨ holder = .thread thread ∧ holdsSemaphore value = true := by
  cases holder with
  | dispatcher => exact Or.inl (dispatcher.symm.trans holds)
  | thread other =>
      simp only [Holds, threads] at holds
      by_cases same : other = thread
      · rw [same, Function.update_self] at holds
        exact Or.inr ⟨congrArg _ same, holds⟩
      · rw [Function.update_of_ne same] at holds
        exact Or.inl holds

omit [DecidableEq Thread] in
theorem holds_dispatcher (before : MemoryState Thread Device Scatter)
    (threads : after.threads = before.threads)
    (dispatcher : holdsSem after.dispatcher = true → holdsSem before.dispatcher = true)
    (holder : Holder Thread) (holds : Holds after holder) : Holds before holder := by
  cases holder with
  | dispatcher => exact dispatcher holds
  | thread other =>
      simp only [Holds, threads] at holds
      exact holds

theorem Exclusive.step (exclusive : Exclusive before) (act : Act dma before event after) :
    Exclusive after := by
  cases act with
  | @acquireWrite thread first request writing free =>
      refine exclusive.takes free (.thread thread) (fun holder holds => ?_) rfl
      exact (holds_thread holds rfl rfl).imp_right And.left
  | acquire formed free perm =>
      refine exclusive.takes free .dispatcher (fun holder holds => ?_) rfl
      cases holder with
      | dispatcher => exact Or.inr rfl
      | thread other => exact Or.inl holds
  | @memWrite thread first request acquired =>
      refine exclusive.shrinks (fun holder holds => ?_) rfl
      rcases holds_thread holds rfl rfl with earlier | ⟨rfl, -⟩
      · exact earlier
      · simp only [Holds, acquired]
        rfl
  | @returnWrite thread first request effect success written =>
      refine exclusive.releases (.thread thread) (by simp only [Holds, written]; rfl) ?_
        fun holder holds => ?_
      · simp [Holds, holdsSemaphore]
      · rcases holds_thread holds rfl rfl with earlier | ⟨-, idle⟩
        · exact earlier
        · cases idle
  | release dispatched =>
      refine exclusive.releases .dispatcher (by simp only [Holds, dispatched]; rfl) ?_
        (holds_dispatcher before rfl (by simp [holdsSem]))
      simp [Holds, holdsSem]
  | create calling =>
      refine exclusive.shrinks (fun holder holds => ?_) rfl
      rcases holds_thread holds rfl (holdsSem_notified _) with earlier | ⟨-, none⟩
      · exact earlier
      · cases none
  | callRead | join | refuse | reuse | retrieveTwice | retrieve | wake | copy | returnRead
    | callWrite =>
      refine exclusive.shrinks (fun holder holds => ?_) rfl
      rcases holds_thread holds rfl rfl with earlier | ⟨-, none⟩
      · exact earlier
      · cases none
  | testStop | testEmpty | waitTest =>
      refine exclusive.shrinks (holds_dispatcher before rfl ?_) rfl
      dsimp only
      split <;> simp [holdsSem]
  | notifyStop =>
      refine exclusive.shrinks (holds_dispatcher before rfl ?_) rfl
      exact (holdsSem_notified _).symm.trans
  | prepare was | execute was | fill was | setValue was | memFree _ was | finish was =>
      refine exclusive.shrinks (holds_dispatcher before rfl fun _ => ?_) rfl
      rw [was]
      rfl
  | wakeSpuriously | formBatch | setTwice =>
      exact exclusive.shrinks (holds_dispatcher before rfl (by simp [holdsSem])) rfl
  | change | setStop => exact exclusive.shrinks (holds_dispatcher before rfl id) rfl

theorem exclusive_of_run {device : Device} {events : List (MemoryEvent Thread Device)}
    {final : MemoryState Thread Device Scatter}
    (run : Run (Steps (next dma)) (start device) events final) : Exclusive final :=
  run_invariant (unrestricted run) (exclusive_start device) (fun _ _ _ held _ act => held.step act)
    fun _ _ held => held.shrinks (fun _ => id) rfl

theorem holdsSem_step (served : Served before) (act : Act dma before event after)
    (held : holdsSem before.dispatcher = true) (kept : event ≠ .release) :
    holdsSem after.dispatcher = true := by
  cases act with
  | testStop was | testEmpty was | waitTest was | wakeSpuriously was | formBatch was
    | acquire was =>
      rw [was] at held
      cases held
  | prepare | execute | fill | memFree | finish => rfl
  | @setValue path => cases path <;> rfl
  | setTwice filled set =>
      cases (served.step (.setTwice filled set : Act dma _ _ _)).unthrown
  | release => exact absurd rfl kept
  | create | notifyStop => exact (holdsSem_notified _).trans held
  | _ => exact held

/-- The device while the dispatcher holds it: only the target itself changes it. -/
theorem Exclusive.device_step (exclusive : Exclusive before) (act : Act dma before event after)
    (held : holdsSem before.dispatcher = true) :
    (∀ thread, event ≠ .acquireWrite thread ∧ event ≠ .memWrite thread) ∧
      ((∀ other, event ≠ .change other) → after.device = before.device) := by
  have taken := exclusive.taken .dispatcher held
  cases act with
  | acquireWrite writing free =>
      rw [taken] at free
      cases free
  | @memWrite thread first request acquired =>
      have holds : Holds before (.thread thread) := by
        simp only [Holds, acquired]
        rfl
      cases exclusive.alone .dispatcher (.thread thread) held holds
  | change device => exact ⟨fun _ => ⟨nofun, nofun⟩, fun alone => absurd rfl (alone device)⟩
  | _ => exact ⟨fun _ => ⟨nofun, nofun⟩, fun _ => rfl⟩

/-- No write of the server falls between the acquisition of the device for a batch
and its release: unless the target changes itself, the whole batch is read from
one state of the device. -/
theorem batch_undisturbed {device : Device} {events inside : List (MemoryEvent Thread Device)}
    {order : List ItemId} {middle final : MemoryState Thread Device Scatter}
    (run : Run (Steps (next dma)) (start device) events before)
    (acquired : Steps (next dma) before (.acquire order) middle)
    (rest : Run (Steps (next dma)) middle inside final) (unreleased : .release ∉ inside) :
    (∀ thread, .acquireWrite thread ∉ inside ∧ .memWrite thread ∉ inside) ∧
      ((∀ other, .change other ∉ inside) → final.device = before.device) := by
  have begun := run.snoc acquired
  have taken : holdsSem middle.dispatcher = true ∧ middle.device = before.device := by
    obtain ⟨acted, act, same⟩ := act_of_next acquired
    subst same
    cases act with
    | acquire formed free perm =>
        refine ⟨?_, rfl⟩
        dsimp only
        split <;> rfl
  have kept : holdsSem final.dispatcher = true ∧
      (∀ thread, .acquireWrite thread ∉ inside ∧ .memWrite thread ∉ inside) ∧
      ((∀ other, .change other ∉ inside) → final.device = before.device) := by
    induction rest with
    | nil => exact ⟨taken.1, fun _ => ⟨List.not_mem_nil, List.not_mem_nil⟩, fun _ => taken.2⟩
    | @snoc past now event after earlier last ih =>
        simp only [List.mem_append, List.mem_singleton, not_or] at unreleased ⊢
        obtain ⟨held, quiet, same⟩ := ih unreleased.1
        have reached := begun.append earlier
        obtain ⟨acted, act, ticked⟩ := act_of_next last
        obtain ⟨alone, unchanged⟩ := (exclusive_of_run reached).device_step act held
        have still := holdsSem_step (served_of_run reached) act held (Ne.symm unreleased.2)
        rw [ticked]
        refine ⟨still, fun thread => ⟨⟨(quiet thread).1, (alone thread).1.symm⟩, (quiet thread).2,
          (alone thread).2.symm⟩, fun calm => ?_⟩
        rw [← same fun other => (calm other).1]
        exact unchanged fun other => Ne.symm (calm other).2
  exact kept.2

section Samples

/-- Two readers whose items form one batch, and a writer that waits. -/
def queuesTwo : List (MemoryEvent (Fin 3) (List UInt8)) :=
  [.callRead 0 ⟨7, 0, 1⟩, .enqueue 0, .callRead 1 ⟨7, 2, 1⟩, .enqueue 1, .callWrite 2 ⟨7, 0, [9]⟩,
    .testStop, .testEmpty,
    .formBatch [⟨(⟨7, 2, 1⟩ : ReadRequest).key, 1⟩, ⟨(⟨7, 0, 1⟩ : ReadRequest).key, 0⟩]]

def readsBatch : List (MemoryEvent (Fin 3) (List UInt8)) :=
  [.prepare, .execute, .fill, .setValue, .fill, .setValue, .finish]

theorem batch_undisturbed_readsBatch :
    ∃ before middle final : MemoryState (Fin 3) (List UInt8) (List UInt8),
      Run (Steps (next flatMemory)) (start [5, 6, 7]) queuesTwo before ∧
        Steps (next flatMemory) before (.acquire [0, 1]) middle ∧
        Run (Steps (next flatMemory)) middle readsBatch final ∧
        before.threads 2 = .writing 4 ⟨7, 0, [9]⟩ ∧
        (∀ thread, .acquireWrite thread ∉ readsBatch ∧ .memWrite thread ∉ readsBatch) ∧
        ((∀ other, .change other ∉ readsBatch) → final.device = before.device) := by
  have executed : (execute (next flatMemory) (start [5, 6, 7]) queuesTwo).map (fun before =>
      (before.threads 2, (next flatMemory before (.acquire [0, 1])).map fun middle =>
        (execute (next flatMemory) middle readsBatch).isSome)) =
          some (.writing 4 ⟨7, 0, [9]⟩, some true) := by
    rfl
  obtain ⟨before, ran, observed⟩ := Option.map_eq_some_iff.mp executed
  obtain ⟨writing, acquires⟩ := Prod.mk.inj observed
  obtain ⟨middle, acquired, ends⟩ := Option.map_eq_some_iff.mp acquires
  obtain ⟨final, rest⟩ := Option.isSome_iff_exists.mp ends
  have run := run_of_execute ran
  have later := run_of_execute rest
  exact ⟨before, middle, final, run, acquired, later, writing,
    batch_undisturbed run acquired later (by simp [readsBatch])⟩

end Samples

end CeServer.Memory
