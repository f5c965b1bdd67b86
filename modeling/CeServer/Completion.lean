import CeServer.Progress

/-!
The server can always finish by itself: from every state its own steps empty the
backlog and answer every item, unless an item is too large to be taken.
-/

namespace CeServer.Memory

open Transition

variable {Thread Device Scatter : Type} {dma : Dma Device Scatter}
  {before after acted : MemoryState Thread Device Scatter} {event : MemoryEvent Thread Device}

/-- The steps of the dispatcher, and of a writer that has acquired the device. -/
def isService : MemoryEvent Thread Device → Bool
  | .memWrite _ | .returnWrite _ | .testStop | .testEmpty | .waitTest | .formBatch _ | .acquire _
  | .prepare | .execute | .fill | .setValue | .memFree _ | .finish | .release => true
  | _ => false

/-- A server that has not been stopped, with nothing too large in its backlog. -/
structure Ready (state : MemoryState Thread Device Scatter) : Prop where
  served : Served state
  alert : Alert state
  running : state.bStop = false
  unlocked : state.mtxAbandoned = false
  batchable : Batchable state

def rank : Dispatcher Scatter → Nat
  | .waitTest | .blocked | .dispatched => 4
  | .test => 3
  | .entered => 2
  | .pacing => 1
  | .formed _ batch => 3 * batch.length + 8
  | .preparing _ batch => 3 * batch.length + 7
  | .prepared _ batch => 3 * batch.length + 6
  | .reading _ todo => 3 * todo.length + 5
  | .filled _ _ _ _ todo => 3 * todo.length + 7
  | .freeing _ _ _ todo => 3 * todo.length + 6
  | .stopped => 0

/-- An item costs more in the backlog than in a batch. -/
def remaining (state : MemoryState Thread Device Scatter) : Nat :=
  20 * state.backlog.entries.length + rank state.dispatcher

def Finished (state : MemoryState Thread Device Scatter) : Prop :=
  state.backlog.entries = [] ∧ state.dispatcher.todo = []

section Steps

variable [DecidableEq Thread]

theorem steps_of_step (stepped : step dma before event = some acted) :
    Steps (next dma) before event { acted with past := before.past ++ [before.device] } := by
  simp [Steps, next, stepped]

theorem Ready.next (ready : Ready before) (taken : Steps (next dma) before event after)
    (service : isService event = true) : Ready after := by
  obtain ⟨acted, act, same⟩ := act_of_next taken
  subst same
  have quiet : ∀ thread, event ≠ .enqueue thread := by
    rintro thread rfl
    simp [isService] at service
  have batchable : Batchable acted := batchable_step ready.batchable act quiet
  refine ⟨(ready.served.step act).tick _, (ready.alert.step ready.served act).tick _, ?_, ?_,
    batchable⟩
  · cases act with
    | setStop => simp [isService] at service
    | _ => exact ready.running
  · cases act with
    | refuse => simp [isService] at service
    | _ => exact ready.unlocked

theorem Ready.run (ready : Ready before) {events : List (MemoryEvent Thread Device)}
    (run : Run (Steps (Memory.next dma)) before events after)
    (service : ∀ event ∈ events, isService event = true) : Ready after := by
  induction run with
  | nil => exact ready
  | snoc earlier last ih =>
      have middle := ih fun event member => service event (List.mem_append_left _ member)
      exact middle.next last (service _ (by simp))

def Advances (dma : Dma Device Scatter) (before : MemoryState Thread Device Scatter) : Prop :=
  ∃ events after, Run (Steps (next dma)) before events after ∧
    (∀ event ∈ events, isService event = true) ∧ Ready after ∧ remaining after < remaining before

theorem Ready.advance (ready : Ready before) (stepped : step dma before event = some acted)
    (service : isService event = true)
    (less : 20 * acted.backlog.entries.length + rank acted.dispatcher < remaining before) :
    Advances dma before := by
  have taken := steps_of_step stepped
  refine ⟨[event], _, Run.single taken, ?_, ready.next taken service, less⟩
  intro other member
  rw [List.mem_singleton.mp member]
  exact service

theorem exists_run_semFree (dma : Dma Device Scatter) (ready : Ready before)
    (taken : before.semFree = false)
    (idle : holdsSem before.dispatcher = false) :
    ∃ events middle, Run (Steps (next dma)) before events middle ∧
      (∀ event ∈ events, isService event = true) ∧ middle.semFree = true ∧
      middle.dispatcher = before.dispatcher ∧ middle.backlog = before.backlog := by
  have returns (state : MemoryState Thread Device Scatter) (thread : Thread) (first : Nat)
      (request : WriteRequest) (effect : Nat) (success : Bool)
      (written : state.threads thread = .written first request effect success) :
      ∃ final, Steps (next dma) state (.returnWrite thread) final ∧ final.semFree = true ∧
        final.dispatcher = state.dispatcher ∧ final.backlog = state.backlog := by
    have stepped : ∃ acted, step dma state (.returnWrite thread) = some acted ∧
        acted.semFree = true ∧ acted.dispatcher = state.dispatcher ∧
        acted.backlog = state.backlog := by
      simp [step, writeStep, written]
    obtain ⟨acted, stepped, facts⟩ := stepped
    exact ⟨_, steps_of_step stepped, facts⟩
  rcases ready.alert.semaphore taken with here | ⟨thread, holds⟩
  · rw [idle] at here
    simp at here
  · cases value : before.threads thread with
    | written first request effect success =>
        obtain ⟨final, last, facts⟩ := returns before thread first request effect success value
        exact ⟨_, final, Run.single last, by simp [isService], facts⟩
    | acquired first request =>
        have stepped : ∃ acted, step dma before (.memWrite thread) = some acted ∧
            acted.threads thread = .written first request before.past.length
              (memWrite dma before.device request).1 ∧
            acted.dispatcher = before.dispatcher ∧ acted.backlog = before.backlog := by
          simp [step, writeStep, value]
        obtain ⟨acted, stepped, written, dispatcher, backlog⟩ := stepped
        obtain ⟨final, last, free, sameDispatcher, sameBacklog⟩ :=
          returns { acted with past := before.past ++ [before.device] } thread _ _ _ _ written
        refine ⟨_, final, (Run.single (steps_of_step stepped)).snoc last, ?_, free, ?_, ?_⟩
        · simp [isService]
        · rw [sameDispatcher]
          exact dispatcher
        · rw [sameBacklog]
          exact backlog
    | _ =>
        rw [value] at holds
        simp [holdsSemaphore] at holds

theorem Ready.advance_formed (ready : Ready before) {pid : Int32} {batch : List ItemId}
    (formed : before.dispatcher = .formed pid batch) : Advances dma before := by
  have acquires (state : MemoryState Thread Device Scatter) (own : Ready state)
      (free : state.semFree = true) (same : state.dispatcher = .formed pid batch)
      (backlog : state.backlog = before.backlog) :
      ∃ acted, step dma state (.acquire batch) = some acted ∧
        20 * acted.backlog.entries.length + rank acted.dispatcher < remaining before := by
    refine ⟨_, by simp [step, dispatchStep, same, free]; rfl, ?_⟩
    simp only [remaining, backlog, formed]
    split <;> simp [rank]
  by_cases free : before.semFree = true
  · obtain ⟨acted, stepped, less⟩ := acquires before ready free formed rfl
    exact ready.advance stepped rfl less
  · have taken : before.semFree = false := by simpa using free
    obtain ⟨events, middle, run, service, freed, dispatcher, backlog⟩ :=
      exists_run_semFree dma ready taken (by rw [formed]; rfl)
    have own := ready.run run service
    obtain ⟨acted, stepped, less⟩ := acquires middle own freed (dispatcher.trans formed) backlog
    have last := steps_of_step stepped
    refine ⟨events ++ [.acquire batch], _, run.snoc last, ?_, own.next last rfl, less⟩
    intro event member
    rcases List.mem_append.mp member with earlier | final
    · exact service event earlier
    · rw [List.mem_singleton.mp final]
      rfl

theorem Ready.advance_pacing (ready : Ready before) (pacing : before.dispatcher = .pacing) :
    Advances dma before := by
  have waiting := ready.alert.pacing pacing
  cases entries : before.backlog.entries with
  | nil => exact absurd entries waiting
  | cons first rest =>
      have order : (first :: rest).Perm before.backlog.entries := by rw [entries]
      have taken : dispatchBuffer before.items (first :: rest) ≠ [] :=
        dispatchBuffer_ne_nil ready.batchable order waiting
      have shrunk := length_eraseBatch (nodup_keys_dispatchBuffer before.items order)
        fun entry => find_of_mem_dispatchBuffer order
      have positive := List.length_pos_iff.mpr taken
      have stepped : ∃ acted, step dma before (.formBatch (first :: rest)) = some acted ∧
          acted.backlog = eraseBatch (dispatchBuffer before.items (first :: rest)) before.backlog ∧
          acted.dispatcher = .formed (before.items first.2).pid
            ((dispatchBuffer before.items (first :: rest)).map Sigma.snd) := by
        simp [step, dispatchStep, pacing, ready.unlocked, order]
      obtain ⟨acted, stepped, backlog, formed⟩ := stepped
      refine ready.advance stepped rfl ?_
      rw [backlog, formed]
      simp only [remaining, pacing, rank, List.length_map]
      omega

theorem Ready.advances (ready : Ready before) (unfinished : ¬Finished before) :
    Advances dma before := by
  have waiting (idle : before.dispatcher.todo = []) : before.backlog.entries ≠ [] :=
    fun empty => unfinished ⟨empty, idle⟩
  cases value : before.dispatcher with
  | test =>
      have stepped : step dma before .testStop = some { before with dispatcher := .entered } := by
        simp [step, dispatchStep, value, ready.running]
      refine ready.advance stepped rfl ?_
      simp [remaining, value, rank]
  | entered =>
      have nonempty : before.backlog.entries.isEmpty = false := by
        simpa using waiting (by rw [value]; rfl)
      have stepped : step dma before .testEmpty = some { before with dispatcher := .pacing } := by
        simp [step, dispatchStep, value, ready.unlocked, nonempty]
      refine ready.advance stepped rfl ?_
      simp [remaining, value, rank]
  | waitTest =>
      have nonempty : before.backlog.entries.isEmpty = false := by
        simpa using waiting (by rw [value]; rfl)
      have stepped : step dma before .waitTest = some { before with dispatcher := .test } := by
        simp [step, dispatchStep, value, ready.unlocked, nonempty]
      refine ready.advance stepped rfl ?_
      simp [remaining, value, rank]
  | blocked => exact absurd (ready.alert.blocked value) (waiting (by rw [value]; rfl))
  | stopped =>
      have halted := ready.alert.stopped value
      rw [ready.running] at halted
      simp at halted
  | pacing => exact ready.advance_pacing value
  | formed pid batch => exact ready.advance_formed value
  | preparing pid batch =>
      have stepped : ∃ handle, step dma before .prepare =
          some { before with dispatcher := .prepared handle batch } := by
        simp [step, dispatchStep, value]
      obtain ⟨handle, stepped⟩ := stepped
      refine ready.advance stepped rfl ?_
      simp [remaining, value, rank]
  | prepared handle batch =>
      have stepped : ∃ acted, step dma before .execute = some acted ∧
          acted.backlog = before.backlog ∧ ∃ path, acted.dispatcher = .reading path batch := by
        simp [step, dispatchStep, value]
      obtain ⟨acted, stepped, backlog, path, reading⟩ := stepped
      refine ready.advance stepped rfl ?_
      simp [remaining, value, rank, backlog, reading]
  | reading path todo =>
      cases todo with
      | nil =>
          have stepped : step dma before .finish =
              some { before with dispatcher := .dispatched } := by
            simp [step, dispatchStep, value]
          refine ready.advance stepped rfl ?_
          simp [remaining, value, rank]
      | cons item todo =>
          have stepped : ∃ acted, step dma before .fill = some acted ∧
              acted.backlog = before.backlog ∧ ∃ read buffer,
                acted.dispatcher = .filled path item read buffer todo := by
            simp [step, dispatchStep, value]
          obtain ⟨acted, stepped, backlog, read, buffer, filled⟩ := stepped
          refine ready.advance stepped rfl ?_
          simp [remaining, value, rank, backlog, filled]
          omega
  | filled path item read buffer todo =>
      have unset : (before.items item).promise.value = none :=
        (ready.served.queue.working item (by rw [value]; exact List.mem_cons_self)).2.2.2
      have stepped : ∃ acted, step dma before .setValue = some acted ∧
          acted.backlog = before.backlog ∧ acted.dispatcher = afterSet item buffer todo path := by
        simp [step, dispatchStep, value, Promise.setValue_of_unset unset]
      obtain ⟨acted, stepped, backlog, set⟩ := stepped
      refine ready.advance stepped rfl ?_
      rw [set, backlog]
      cases path <;> simp [remaining, value, rank, afterSet]
  | freeing pid item buffer todo =>
      have stepped : ∃ acted, step dma before (.memFree []) = some acted ∧
          acted.backlog = before.backlog ∧
          acted.dispatcher = .reading (.sequential pid) todo := by
        simp [step, dispatchStep, value]
      obtain ⟨acted, stepped, backlog, reading⟩ := stepped
      refine ready.advance stepped rfl ?_
      simp [remaining, value, rank, backlog, reading]
  | dispatched =>
      have stepped : step dma before .release =
          some { before with semFree := true, dispatcher := .test } := by
        simp [step, dispatchStep, value]
      refine ready.advance stepped rfl ?_
      simp [remaining, value, rank]

/-- By itself the server comes to a state in which every item is answered. -/
theorem Ready.completes (dma : Dma Device Scatter) (ready : Ready before) : ∃ events after,
    Run (Steps (Memory.next dma)) before events after ∧
      (∀ event ∈ events, isService event = true) ∧ Ready after ∧ Finished after :=
  exists_run_of_decreases
    (fun _ still unfinished => still.advances unfinished) before ready

end Steps

theorem Ready.answered (ready : Ready before) (finished : Finished before) {item : ItemId}
    (below : item < before.created) : (before.items item).promise.value ≠ none := by
  cases ready.served.queue.stage item below with
  | queued _ _ _ found =>
      have member := AList.mem_lookup_iff.mp found
      rw [finished.1] at member
      simp at member
  | batched _ _ _ working =>
      rw [finished.2] at working
      simp at working
  | answered _ _ set => exact set

structure Attended (state : MemoryState Thread Device Scatter) : Prop where
  served : Served state
  alert : Alert state

theorem attended_start (device : Device) :
    Attended (start device : MemoryState Thread Device Scatter) :=
  ⟨served_start device, alert_start device⟩

theorem Attended.step [DecidableEq Thread] (attended : Attended before)
    (act : Act dma before event after) : Attended after :=
  ⟨attended.served.step act, attended.alert.step attended.served act⟩

theorem Attended.tick {state : MemoryState Thread Device Scatter} (attended : Attended state)
    (past : List Device) : Attended { state with past } :=
  ⟨attended.served.tick past, attended.alert.tick past⟩

theorem attended_of_run [DecidableEq Thread] {device : Device}
    {events : List (MemoryEvent Thread Device)} {final : MemoryState Thread Device Scatter}
    (run : Run (Steps (next dma)) (start device) events final) : Attended final :=
  run_invariant (unrestricted run) (attended_start device) (fun _ _ _ held _ act => held.step act)
    fun _ past held => held.tick past

structure Progresses [DecidableEq Thread] (dma : Dma Device Scatter)
    (state : MemoryState Thread Device Scatter) : Prop where
  /-- A pass takes something, in whatever order it meets the items. -/
  takes : ∀ order : List BacklogEntry, order.Perm state.backlog.entries →
    dispatchBuffer state.items order ≠ [] ∧
      (eraseBatch (dispatchBuffer state.items order) state.backlog).entries.length <
        state.backlog.entries.length
  /-- Without new reads, as many passes as there are items empty it. -/
  drains : ∀ events final, Run (Steps (next dma)) state events final →
    (∀ event ∈ events, ∀ thread, event ≠ .enqueue thread) →
    state.backlog.entries.length ≤ passes events → final.backlog.entries = []
  awake : state.dispatcher ≠ .blocked
  /-- A running server can answer every accepted read by its own steps. -/
  completes : state.bStop = false → state.mtxAbandoned = false → ∃ events final,
    Run (Steps (next dma)) state events final ∧ (∀ event ∈ events, isService event = true) ∧
      ∀ item < final.created, (final.items item).promise.value ≠ none

/-- The loop makes progress exactly when no queued item is as large as the byte
limit of a dispatch. -/
theorem dispatchLoop_progresses_iff [DecidableEq Thread] {device : Device}
    {state : MemoryState Thread Device Scatter}
    (reached : Reachable (Steps (next dma)) (start device) state)
    (waiting : state.backlog.entries ≠ []) :
    Progresses dma state ↔
      ∀ entry ∈ state.backlog.entries, (state.items entry.2).size < MAX_BYTES_PER_DISPATCH := by
  obtain ⟨past, run⟩ := reached
  obtain ⟨served, alert⟩ := attended_of_run run
  constructor
  · intro progresses
    exact batchable_of_takes fun order perm => (progresses.takes order perm).1
  · intro batchable
    refine ⟨fun order perm => ?_, fun events final run quiet enough => ?_, fun asleep => ?_,
      fun running unlocked => ?_⟩
    · have taken := dispatchBuffer_ne_nil batchable perm waiting
      have shrunk := length_eraseBatch (nodup_keys_dispatchBuffer state.items perm)
        fun entry => find_of_mem_dispatchBuffer perm
      have positive := List.length_pos_iff.mpr taken
      refine ⟨taken, ?_⟩
      omega
    · have bounded := (drains_of_batchable run quiet batchable).2
      have none : final.backlog.entries.length = 0 := by omega
      exact List.length_eq_zero_iff.mp none
    · exact waiting (alert.blocked asleep)
    · have ready : Ready state := ⟨served, alert, running, unlocked, batchable⟩
      obtain ⟨events, final, run, service, still, finished⟩ := ready.completes dma
      exact ⟨events, final, run, service, fun item below => still.answered finished below⟩

def queueRead (size : UInt64) : List (MemoryEvent Unit (List UInt8)) :=
  [.callRead () ⟨7, 0, size⟩, .enqueue ()]

theorem dispatchLoop_progresses_iff_queueRead : ∃ state,
    Run (Steps (next flatMemory)) (start [1, 2, 3, 4]) (queueRead 2) state ∧
      Progresses flatMemory state := by
  have executed : (execute (next flatMemory) (start [1, 2, 3, 4]) (queueRead 2)).map
      (fun state => state.backlog.entries.map fun entry => (state.items entry.2).size) =
        some [2] := by
    rfl
  obtain ⟨state, ran, sizes⟩ := Option.map_eq_some_iff.mp executed
  have run := run_of_execute ran
  refine ⟨state, run, (dispatchLoop_progresses_iff run.reachable ?_).mpr fun entry member => ?_⟩
  · intro empty
    rw [empty] at sizes
    simp at sizes
  · have size : (state.items entry.2).size ∈ [(2 : UInt64)] := by
      rw [← sizes]
      exact List.mem_map_of_mem member
    rw [List.mem_singleton.mp size]
    decide

theorem largeRead_not_progresses :
    ¬∀ (events : List (MemoryEvent Unit (List UInt8)))
      (state : MemoryState Unit (List UInt8) (List UInt8)),
      Run (Steps (next flatMemory)) (start [1, 2, 3, 4]) events state →
        state.backlog.entries ≠ [] → Progresses flatMemory state := by
  intro progresses
  have executed : (execute (next flatMemory) (start [1, 2, 3, 4]) (queueRead 1000000000)).map
      (fun state => (state.backlog.entries.length,
        dispatchBuffer state.items state.backlog.entries)) = some (1, []) := by
    rfl
  obtain ⟨state, ran, observed⟩ := Option.map_eq_some_iff.mp executed
  obtain ⟨one, nothing⟩ := Prod.mk.inj observed
  have waiting : state.backlog.entries ≠ [] := by
    intro empty
    rw [empty] at one
    simp at one
  have takes := (progresses _ state (run_of_execute ran) waiting).takes
  exact (takes _ (List.Perm.refl _)).1 nothing

end CeServer.Memory
