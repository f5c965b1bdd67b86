import CeServer.Sampling

/-!
`Memory::read` through the backlog together with `Memory::write`: both are
operations on the device that take effect at one instant of their call.
-/

namespace CeServer.Memory

open Transition Timeline

variable {Thread Device Scatter : Type} {dma : Dma Device Scatter}
  {before after acted : MemoryState Thread Device Scatter} {event : MemoryEvent Thread Device}

def writeOperation (dma : Dma Device Scatter) (entry : ReturnedWrite Thread) :
    Operation Device where
  start := entry.start
  finish := entry.finish
  effect before after :=
    entry.result = writeResult entry.request (memWrite dma before entry.request).1 ∧
      after = (memWrite dma before entry.request).2

def Begun (dma : Dma Device Scatter) (state : MemoryState Thread Device Scatter) :
    ThreadState → Prop
  | .writing start _ | .acquired start _ => start < state.past.length
  | .written start request effect success => start < effect ∧ effect < state.past.length ∧
      ∃ device, (timeline state)[effect]? = some device ∧
        success = (memWrite dma device request).1 ∧
        (timeline state)[effect + 1]? = some (memWrite dma device request).2
  | _ => True

theorem Begun.mono {value : ThreadState} (begun : Begun dma before value)
    (history : timeline before <+: timeline after)
    (clock : before.past.length ≤ after.past.length) : Begun dma after value := by
  cases value with
  | writing start request | acquired start request => exact Nat.lt_of_lt_of_le begun clock
  | written start request effect success =>
      obtain ⟨called, past, device, old, result, new⟩ := begun
      exact ⟨called, Nat.lt_of_lt_of_le past clock, device, getElem?_of_prefix history old, result,
        getElem?_of_prefix history new⟩
  | _ => trivial

/-- The instant a thread's write has taken effect at, while it has not returned. -/
def effect? : ThreadState → Option Nat
  | .written _ _ effect _ => some effect
  | _ => none

structure Effects (dma : Dma Device Scatter) (state : MemoryState Thread Device Scatter) :
    Prop where
  begun : ∀ thread, Begun dma state (state.threads thread)
  returned : ∀ entry ∈ state.returnedWrites, entry.finish < state.past.length ∧
    TakesEffect (timeline state) (writeOperation dma entry) entry.effect
  once : (state.returnedWrites.map ReturnedWrite.effect).Nodup
  apart : ∀ thread effect, effect? (state.threads thread) = some effect →
    effect ∉ state.returnedWrites.map ReturnedWrite.effect ∧
      ∀ other, effect? (state.threads other) = some effect → other = thread

theorem effects_start (device : Device) :
    Effects dma (start device : MemoryState Thread Device Scatter) where
  begun := fun _ => trivial
  returned := nofun
  once := List.nodup_nil
  apart := nofun

theorem Effects.lt_of_effect (effects : Effects dma before) {thread : Thread} {effect : Nat}
    (taken : effect? (before.threads thread) = some effect) : effect < before.past.length := by
  have begun := effects.begun thread
  cases value : before.threads thread with
  | written start request instant success =>
      rw [value] at taken begun
      obtain rfl := Option.some.inj taken
      exact begun.2.1
  | _ =>
      rw [value] at taken
      simp [effect?] at taken

theorem Effects.lt_of_returned (effects : Effects dma before) {effect : Nat}
    (member : effect ∈ before.returnedWrites.map ReturnedWrite.effect) :
    effect < before.past.length := by
  obtain ⟨entry, inLog, rfl⟩ := List.mem_map.mp member
  obtain ⟨finished, taken⟩ := effects.returned entry inLog
  have bound : entry.effect < entry.finish := taken.returned
  omega

theorem Effects.of_same (effects : Effects dma before)
    (begun : ∀ thread, Begun dma { acted with past := before.past ++ [before.device] }
      (acted.threads thread))
    (effect : ∀ thread, effect? (acted.threads thread) = effect? (before.threads thread))
    (returned : acted.returnedWrites = before.returnedWrites) :
    Effects dma { acted with past := before.past ++ [before.device] } where
  begun := begun
  returned := by
    intro entry member
    rw [returned] at member
    obtain ⟨finished, taken⟩ := effects.returned entry member
    exact ⟨Nat.lt_trans finished clock_step, taken.mono history_step⟩
  once := by
    dsimp only
    rw [returned]
    exact effects.once
  apart := by
    intro thread instant taken
    dsimp only at taken ⊢
    rw [effect] at taken
    rw [returned]
    obtain ⟨notReturned, unique⟩ := effects.apart thread instant taken
    refine ⟨notReturned, fun other same => unique other ?_⟩
    rw [← effect]
    exact same

theorem Effects.thread [DecidableEq Thread] (effects : Effects dma before) {thread : Thread}
    {value : ThreadState} (threads : acted.threads = Function.update before.threads thread value)
    (fact : Begun dma { acted with past := before.past ++ [before.device] } value)
    (effect : effect? value = effect? (before.threads thread))
    (returned : acted.returnedWrites = before.returnedWrites) :
    Effects dma { acted with past := before.past ++ [before.device] } := by
  refine effects.of_same (fun other => ?_) (fun other => ?_) returned
  · rw [threads]
    by_cases same : other = thread
    · rw [same, Function.update_self]
      exact fact
    · rw [Function.update_of_ne same]
      exact (effects.begun other).mono history_step (Nat.le_of_lt clock_step)
  · rw [threads]
    by_cases same : other = thread
    · rw [same, Function.update_self, effect]
    · rw [Function.update_of_ne same]

theorem Effects.dispatch (effects : Effects dma before) (threads : acted.threads = before.threads)
    (returned : acted.returnedWrites = before.returnedWrites) :
    Effects dma { acted with past := before.past ++ [before.device] } := by
  refine effects.of_same (fun thread => ?_) (fun thread => ?_) returned
  · rw [threads]
    exact (effects.begun thread).mono history_step (Nat.le_of_lt clock_step)
  · rw [threads]

/-- The instant of a write is later than every instant before it. -/
theorem Effects.memWrite [DecidableEq Thread] (effects : Effects dma before) {thread : Thread}
    {first : Nat} {request : WriteRequest}
    (acquired : before.threads thread = .acquired first request) :
    Effects dma { before with
      device := (memWrite dma before.device request).2
      threads := Function.update before.threads thread
        (.written first request before.past.length (memWrite dma before.device request).1)
      past := before.past ++ [before.device] } where
  begun := by
    intro other
    by_cases same : other = thread
    · subst same
      have called := effects.begun other
      rw [acquired] at called
      dsimp only
      rw [Function.update_self]
      refine ⟨called, clock_step, before.device, ?_, rfl, ?_⟩
      · exact getElem?_of_prefix (history_of_past rfl) (timeline_getElem?_now before)
      · simp [timeline]
    · dsimp only
      rw [Function.update_of_ne same]
      exact (effects.begun other).mono (history_of_past rfl) (Nat.le_of_lt clock_step)
  returned := by
    intro entry member
    obtain ⟨finished, taken⟩ := effects.returned entry member
    exact ⟨Nat.lt_trans finished clock_step, taken.mono (history_of_past rfl)⟩
  once := effects.once
  apart := by
    intro other effect taken
    dsimp only at taken ⊢
    by_cases same : other = thread
    · rw [same, Function.update_self] at taken
      obtain rfl := Option.some.inj taken
      refine ⟨fun member => Nat.lt_irrefl _ (effects.lt_of_returned member), ?_⟩
      intro another now
      by_cases here : another = thread
      · rw [here, same]
      · rw [Function.update_of_ne here] at now
        exact absurd (effects.lt_of_effect now) (Nat.lt_irrefl _)
    · rw [Function.update_of_ne same] at taken
      obtain ⟨notReturned, unique⟩ := effects.apart other effect taken
      refine ⟨notReturned, fun another now => ?_⟩
      by_cases here : another = thread
      · rw [here, Function.update_self] at now
        obtain rfl := Option.some.inj now
        exact absurd (effects.lt_of_effect taken) (Nat.lt_irrefl _)
      · rw [Function.update_of_ne here] at now
        exact unique another now

theorem Effects.returnWrite [DecidableEq Thread] (effects : Effects dma before) {thread : Thread}
    {first : Nat} {request : WriteRequest} {effect : Nat} {success : Bool}
    (written : before.threads thread = .written first request effect success) :
    Effects dma { before with
      semFree := true
      threads := Function.update before.threads thread .idle
      returnedWrites := { thread, request, start := first, effect, finish := before.past.length
                          result := writeResult request success } :: before.returnedWrites
      past := before.past ++ [before.device] } where
  begun := by
    intro other
    by_cases same : other = thread
    · dsimp only
      rw [same, Function.update_self]
      trivial
    · dsimp only
      rw [Function.update_of_ne same]
      exact (effects.begun other).mono history_step (Nat.le_of_lt clock_step)
  returned := by
    intro entry member
    rcases List.mem_cons.mp member with new | earlier
    · have begun := effects.begun thread
      rw [written] at begun
      obtain ⟨called, past, device, old, result, now⟩ := begun
      have taken : TakesEffect (timeline before) (writeOperation dma entry) entry.effect := by
        rw [new]
        exact ⟨called, past, device, _, old, now, by rw [result], rfl⟩
      refine ⟨?_, taken.mono history_step⟩
      rw [new]
      exact clock_step
    · obtain ⟨finished, taken⟩ := effects.returned entry earlier
      exact ⟨Nat.lt_trans finished clock_step, taken.mono history_step⟩
  once := by
    have own : effect? (before.threads thread) = some effect := by rw [written]; rfl
    exact List.nodup_cons.mpr ⟨(effects.apart thread effect own).1, effects.once⟩
  apart := by
    intro other instant taken
    dsimp only at taken ⊢
    by_cases same : other = thread
    · rw [same, Function.update_self] at taken
      simp [effect?] at taken
    · rw [Function.update_of_ne same] at taken
      obtain ⟨notReturned, unique⟩ := effects.apart other instant taken
      constructor
      · intro member
        rcases List.mem_cons.mp member with here | earlier
        · have own : effect? (before.threads thread) = some instant := by
            rw [written, here]
            rfl
          exact same (unique thread own).symm
        · exact notReturned earlier
      · intro another now
        by_cases here : another = thread
        · rw [here, Function.update_self] at now
          simp [effect?] at now
        · rw [Function.update_of_ne here] at now
          exact unique another now

theorem Effects.step [DecidableEq Thread] (effects : Effects dma before)
    (act : Act dma before event acted) :
    Effects dma { acted with past := before.past ++ [before.device] } := by
  cases act with
  | memWrite acquired => exact effects.memWrite acquired
  | returnWrite written => exact effects.returnWrite written
  | callWrite request idle =>
      exact effects.thread rfl clock_step (by rw [idle]; rfl) rfl
  | @acquireWrite thread first request writing free =>
      have called := effects.begun thread
      rw [writing] at called
      exact effects.thread rfl (Nat.lt_trans called clock_step) (by rw [writing]; rfl) rfl
  | callRead _ same | join same | create same | refuse same | reuse same | retrieveTwice same
    | retrieve same | wake same | copy same | returnRead same =>
      exact effects.thread rfl trivial (by rw [same]; rfl) rfl
  | _ => exact effects.dispatch rfl rfl

/-- A device write at this instant is the effect of one call of the thread. -/
def Accounted (state : MemoryState Thread Device Scatter) (thread : Thread) (instant : Nat) :
    Prop :=
  effect? (state.threads thread) = some instant ∨
    ∃ entry ∈ state.returnedWrites, entry.thread = thread ∧ entry.effect = instant

theorem Accounted.of_same {thread : Thread} {instant : Nat}
    (accounted : Accounted before thread instant)
    (effect : effect? (after.threads thread) = effect? (before.threads thread))
    (returned : after.returnedWrites = before.returnedWrites) :
    Accounted after thread instant := by
  unfold Accounted
  rw [effect, returned]
  exact accounted

theorem effect?_update [DecidableEq Thread] {threads : Thread → ThreadState} {thread : Thread}
    {value : ThreadState} (same : effect? value = effect? (threads thread)) (other : Thread) :
    effect? (Function.update threads thread value other) = effect? (threads other) := by
  by_cases here : other = thread
  · rw [here, Function.update_self, same]
  · rw [Function.update_of_ne here]

theorem Accounted.step [DecidableEq Thread] {thread : Thread} {instant : Nat}
    (accounted : Accounted before thread instant) (act : Act dma before event after) :
    Accounted after thread instant := by
  cases act with
  | @memWrite writer first request acquired =>
      by_cases same : thread = writer
      · rcases accounted with pending | returned
        · rw [same, acquired] at pending
          simp [effect?] at pending
        · exact Or.inr returned
      · exact accounted.of_same (congrArg effect? (Function.update_of_ne same _ _)) rfl
  | @returnWrite writer first request effect success written =>
      rcases accounted with pending | ⟨entry, member, known⟩
      · by_cases same : thread = writer
        · rw [same, written] at pending
          exact Or.inr ⟨_, List.mem_cons_self, same.symm, Option.some.inj pending⟩
        · left
          rw [← pending]
          exact congrArg effect? (Function.update_of_ne same _ _)
      · exact Or.inr ⟨entry, List.mem_cons_of_mem _ member, known⟩
  | callWrite _ same | acquireWrite same | callRead _ same | join same | create same
    | refuse same | reuse same | retrieveTwice same | retrieve same | wake same | copy same
    | returnRead same =>
      exact accounted.of_same (effect?_update (by rw [same]; rfl) thread) rfl
  | _ => exact accounted.of_same rfl rfl

theorem device_step [DecidableEq Thread] (act : Act dma before event after) :
    after.device = before.device ∨
      (∃ thread, event = .memWrite thread ∧ Accounted after thread before.past.length) ∨
      ∃ device, event = .change device := by
  cases act with
  | @memWrite thread first request acquired =>
      right; left
      refine ⟨thread, rfl, Or.inl ?_⟩
      dsimp only
      rw [Function.update_self]
      rfl
  | change device => exact Or.inr (Or.inr ⟨device, rfl⟩)
  | _ => exact Or.inl rfl

def Attributed (events : List (MemoryEvent Thread Device))
    (state : MemoryState Thread Device Scatter) : Prop :=
  ∀ instant event, events[instant]? = some event →
    (timeline state)[instant]? = (timeline state)[instant + 1]? ∨
      (∃ thread, event = .memWrite thread ∧ Accounted state thread instant) ∨
      ∃ device, event = .change device

theorem attributed_of_run [DecidableEq Thread] {device : Device}
    {events : List (MemoryEvent Thread Device)} {final : MemoryState Thread Device Scatter}
    (run : Run (Steps (next dma)) (start device) events final) :
    final.past.length = events.length ∧ Attributed events final := by
  induction run with
  | nil => exact ⟨rfl, nofun⟩
  | @snoc past before event after earlier last ih =>
      obtain ⟨clock, attributed⟩ := ih
      obtain ⟨acted, act, same⟩ := act_of_next last
      subst same
      refine ⟨by simp [clock], fun instant other occurs => ?_⟩
      have tick : timeline { acted with past := before.past ++ [before.device] } =
          timeline before ++ [acted.device] := rfl
      have sized : (timeline before).length = past.length + 1 := by
        simp [timeline, clock]
      by_cases old : instant < past.length
      · rw [List.getElem?_append_left old] at occurs
        rw [tick, List.getElem?_append_left (by omega), List.getElem?_append_left (by omega)]
        rcases attributed instant other occurs with kept | ⟨thread, writes, accounted⟩ | changed
        · exact Or.inl kept
        · exact Or.inr (Or.inl ⟨thread, writes, (accounted.step act).of_same rfl rfl⟩)
        · exact Or.inr (Or.inr changed)
      · have bound : instant < (past ++ [event]).length := (List.getElem?_eq_some_iff.mp occurs).1
        have now : instant = past.length := by
          simp at bound
          omega
        subst now
        rw [List.getElem?_append_right (Nat.le_refl _), Nat.sub_self] at occurs
        obtain rfl := Option.some.inj occurs
        rcases device_step act with kept | ⟨thread, writes, accounted⟩ | changed
        · left
          have current := timeline_getElem?_now before
          rw [clock] at current
          rw [tick, List.getElem?_append_left (by omega), current,
            List.getElem?_append_right (by omega), sized, Nat.sub_self, kept]
          rfl
        · rw [clock] at accounted
          exact Or.inr (Or.inl ⟨thread, writes, accounted.of_same rfl rfl⟩)
        · exact Or.inr (Or.inr changed)

structure Linearizable (dma : Dma Device Scatter) (events : List (MemoryEvent Thread Device))
    (state : MemoryState Thread Device Scatter) : Prop where
  reads : ∀ entry ∈ state.returnedReads, ∃ instant,
    TakesEffect (timeline state) (readOperation dma entry) instant ∧
      ∀ write ∈ state.returnedWrites, write.finish ≤ entry.start → write.effect < instant
  writes : ∀ entry ∈ state.returnedWrites,
    TakesEffect (timeline state) (writeOperation dma entry) entry.effect
  once : (state.returnedWrites.map ReturnedWrite.effect).Nodup
  attributed : Attributed events state

structure Linear (dma : Dma Device Scatter) (state : MemoryState Thread Device Scatter) :
    Prop where
  handed : HandedOver state
  sampling : Sampling dma state
  effects : Effects dma state

theorem linear_of_run [DecidableEq Thread] (scatters : ScattersRead dma) {device : Device}
    {events : List (MemoryEvent Thread Device)} {final : MemoryState Thread Device Scatter}
    (run : Run (Restrict (Steps (next dma)) (ReleasedAfterCopy dma)) (start device) events final) :
    Linear dma final := by
  have initially : Linear dma (start device : MemoryState Thread Device Scatter) :=
    ⟨handedOver_start device, sampling_start device, effects_start device⟩
  refine run.invariant initially fun before event after linear taken => ?_
  obtain ⟨acted, act, same⟩ := act_of_next taken.2
  subst same
  exact ⟨(linear.handed.step taken.1 act).tick _, linear.sampling.step linear.handed scatters act,
    linear.effects.step act⟩

/-- Reads and writes are linearizable in every run in which each sequential
buffer is released after it has been copied: a read returns what the device held
at one instant of its call, a write takes effect at one instant of its call, and
nothing else but the target itself changes the device. -/
theorem memory_linearizable [DecidableEq Thread] (scatters : ScattersRead dma) {device : Device}
    {events : List (MemoryEvent Thread Device)} {final : MemoryState Thread Device Scatter}
    (run : Run (Restrict (Steps (next dma)) (ReleasedAfterCopy dma)) (start device) events final) :
    Linearizable dma events final := by
  have linear := linear_of_run scatters run
  have writes (entry : ReturnedWrite Thread) (member : entry ∈ final.returnedWrites) :=
    (linear.effects.returned entry member).2
  constructor
  · intro entry member
    obtain ⟨instant, taken⟩ := linear.sampling.returned entry member
    refine ⟨instant, taken, fun write returned order => ?_⟩
    exact (writes write returned).precedes taken order
  · exact writes
  · exact linear.effects.once
  · exact (attributed_of_run run.unrestrict).2

theorem scattersRead_flatMemory : ScattersRead flatMemory := by
  intro device pid ranges range member own
  have unused (handle : List UInt8) : scatterPrepareAll flatMemory handle ranges = handle := by
    unfold scatterPrepareAll
    clear member
    induction ranges with
    | nil => rfl
    | cons first rest ih => exact ih
  rw [unused]
  rfl

def writeThenRead : List (MemoryEvent Bool (List UInt8)) :=
  [.callWrite true ⟨7, 1, [9]⟩, .acquireWrite true, .memWrite true, .returnWrite true,
    .callRead false ⟨7, 1, 2⟩, .enqueue false, .testStop, .testEmpty,
    .formBatch [⟨(⟨7, 1, 2⟩ : ReadRequest).key, 0⟩], .acquire [0], .fill, .setValue,
    .lockItem false, .wake false, .copy false, .memFree [], .finish, .release, .returnRead false]

theorem memory_linearizable_writeThenRead : ∃ final,
    Run (Restrict (Steps (next flatMemory)) (ReleasedAfterCopy flatMemory)) (start [1, 2, 3, 4])
        writeThenRead final ∧
      final.returnedReads.map ReturnedRead.bytes = [[9, 3]] ∧
      Linearizable flatMemory writeThenRead final := by
  have executed : (execute (restricted (next flatMemory) (ReleasedAfterCopy flatMemory))
      (start [1, 2, 3, 4]) writeThenRead).map
        (fun final => final.returnedReads.map ReturnedRead.bytes) = some [[9, 3]] := by
    rfl
  obtain ⟨final, ran, bytes⟩ := Option.map_eq_some_iff.mp executed
  have run := (run_of_execute ran).mono fun _ _ _ => restrict_of_restricted
  exact ⟨final, run, bytes, memory_linearizable scattersRead_flatMemory run⟩

/-- A read whose buffer is released early returns bytes the device never held. -/
theorem releasedEarly_not_linearizable : ScattersRead flatMemory ∧
    ¬∀ (events : List (MemoryEvent Unit (List UInt8)))
      (final : MemoryState Unit (List UInt8) (List UInt8)),
      Run (Steps (next flatMemory)) (start [1, 2, 3, 4]) events final →
        Linearizable flatMemory events final := by
  refine ⟨scattersRead_flatMemory, fun linearizable => ?_⟩
  have executed : (execute (next flatMemory) (start [1, 2, 3, 4])
      (readTwoBytesReleasedEarly ++ [.copy (), .returnRead ()])).map
        (fun final => (final.returnedReads, timeline final)) =
          some ([⟨(), ⟨7, 1, 2⟩, 0, 0, 12, 2, [9, 9]⟩], List.replicate 14 [1, 2, 3, 4]) := by
    rfl
  obtain ⟨final, ran, observed⟩ := Option.map_eq_some_iff.mp executed
  obtain ⟨returned, held⟩ := Prod.mk.inj observed
  obtain ⟨instant, taken, _⟩ := (linearizable _ final (run_of_execute ran)).reads _
    (by rw [returned]; exact List.mem_cons_self)
  obtain ⟨before, after, seen, _, result⟩ := taken.effect
  rw [held] at seen
  have same : before = [1, 2, 3, 4] :=
    List.eq_of_mem_replicate (List.mem_of_getElem? seen)
  rw [same] at result
  have different : ((2 : UInt64), ([9, 9] : List UInt8)) ≠
      directRead flatMemory [1, 2, 3, 4] ⟨7, 1, 2⟩ := by
    decide
  exact different result

end CeServer.Memory
