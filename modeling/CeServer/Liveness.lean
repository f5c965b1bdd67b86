import Mathlib.Algebra.BigOperators.Group.Finset.Basic
import Mathlib.Data.Fintype.Basic
import CeServer.Completion
import CeServer.Library.Schedules

/-!
Every call of `Memory` returns: in any schedule that goes on while a step is
possible, readers, writers and the dispatcher neither block each other nor go
round for ever.
-/

namespace CeServer.Memory

open Transition

variable {Thread Device Scatter : Type} {dma : Dma Device Scatter}
  {before after acted : MemoryState Thread Device Scatter} {event : MemoryEvent Thread Device}

section Holders

/-- The item whose mutex a thread has locked. -/
def holdsItem : ThreadState → Option ItemId
  | .reading _ _ item .waiting | .reading _ _ item (.copying _ _) => some item
  | _ => none

/-- A locked mutex is held by a reader that waits for the answer or copies it. -/
def Held (state : MemoryState Thread Device Scatter) : Prop :=
  ∀ item thread, (state.items item).mtx = some thread → holdsItem (state.threads thread) = some item

theorem held_start (device : Device) : Held (start device : MemoryState Thread Device Scatter) :=
  nofun

theorem Held.of_same (held : Held before)
    (mtx : ∀ item, (after.items item).mtx = (before.items item).mtx)
    (threads : ∀ thread, holdsItem (after.threads thread) = holdsItem (before.threads thread)) :
    Held after := by
  intro item thread locked
  rw [threads]
  rw [mtx] at locked
  exact held item thread locked

variable [DecidableEq Thread]

theorem holdsItem_update {threads : Thread → ThreadState} {thread : Thread} {value : ThreadState}
    (same : holdsItem value = holdsItem (threads thread)) (other : Thread) :
    holdsItem (Function.update threads thread value other) = holdsItem (threads other) := by
  by_cases here : other = thread
  · rw [here, Function.update_self, same]
  · rw [Function.update_of_ne here]

theorem Held.step (held : Held before) (act : Act dma before event after) : Held after := by
  cases act with
  | @create thread first request calling missing =>
      intro item other locked
      by_cases new : item = before.created
      · simp [new] at locked
      · rw [holdsItem_update (by rw [calling]; rfl)]
        simp only [Function.update_of_ne new] at locked
        exact held item other locked
  | @retrieve thread first request item locking unlocked =>
      intro other holder locked
      by_cases same : other = item
      · subst same
        simp only [Function.update_self, Option.some.injEq] at locked
        subst locked
        simp [holdsItem]
      · simp only [Function.update_of_ne same] at locked
        have holds := held other holder locked
        have apart : holder ≠ thread := by
          rintro rfl
          rw [locking] at holds
          cases holds
        dsimp only
        rw [Function.update_of_ne apart]
        exact holds
  | @copy thread first request item read buffer copying =>
      intro other holder locked
      by_cases same : other = item
      · subst same
        simp at locked
      · simp only [Function.update_of_ne same] at locked
        have holds := held other holder locked
        have apart : holder ≠ thread := by
          rintro rfl
          rw [copying] at holds
          exact same (Option.some.inj holds).symm
        dsimp only
        rw [Function.update_of_ne apart]
        exact holds
  | @setValue path item read buffer todo filled unset =>
      refine held.of_same (fun other => ?_) fun _ => rfl
      by_cases same : other = item
      · subst same
        simp
      · simp [Function.update_of_ne same]
  | callRead _ was | join was | refuse was | reuse was | retrieveTwice was | wake was
    | returnRead was | callWrite _ was | acquireWrite was | memWrite was | returnWrite was =>
      exact held.of_same (fun _ => rfl) (holdsItem_update (by rw [was]; rfl))
  | _ => exact held.of_same (fun _ => rfl) fun _ => rfl

end Holders

def InCall : ThreadState → Prop
  | .idle | .threw => False
  | _ => True

/-- New calls, exceptions and the stop come from outside; the target changes and
the wait of the dispatcher ends for no reason whenever they like. -/
def isOutside : MemoryEvent Thread Device → Bool
  | .callRead .. | .callWrite .. | .refuse _ | .setStop | .notifyStop => true
  | _ => false

/-- The steps that bring a call nearer to its end. A dispatcher that finds nothing
to do goes back to its wait. -/
def progresses (state : MemoryState Thread Device Scatter) : MemoryEvent Thread Device → Bool
  | .wakeSpuriously | .change _ => false
  | .waitTest => !state.backlog.entries.isEmpty
  | event => !isOutside event

/-- The steps a thread's call has left, with what its item will cost. -/
def effort : ThreadState → Nat
  | .idle | .threw => 0
  | .calling .. => 30
  | .reading _ _ _ .locking => 4
  | .reading _ _ _ .waiting => 3
  | .reading _ _ _ (.copying ..) => 2
  | .reading _ _ _ (.returning _) => 1
  | .writing .. => 3
  | .acquired .. => 2
  | .written .. => 1

def due (empty : Bool) : Dispatcher Scatter → Nat
  | .waitTest | .blocked => if empty then 0 else 4
  | .test => if empty then 2 else 3
  | .entered => if empty then 1 else 2
  | dispatcher => rank dispatcher

theorem due_le (first second : Bool) (dispatcher : Dispatcher Scatter) :
    due first dispatcher ≤ due second dispatcher + 4 := by
  cases dispatcher <;> cases first <;> cases second <;> simp [due]

theorem due_notified (empty : Bool) (dispatcher : Dispatcher Scatter) :
    due empty dispatcher.notified = due empty dispatcher := by
  cases dispatcher <;> rfl

section Load

variable [Fintype Thread]

/-- What is left to do, for the dispatcher and for all calls. -/
def load (state : MemoryState Thread Device Scatter) : Nat :=
  20 * state.backlog.entries.length + due state.backlog.entries.isEmpty state.dispatcher +
    ∑ thread, effort (state.threads thread)

variable [DecidableEq Thread]

omit [DecidableEq Thread] in
/-- Sums that differ in one thread. -/
theorem sum_of_others {first second : Thread → Nat} (thread : Thread)
    (same : ∀ other, other ≠ thread → second other = first other) :
    ∑ other, second other + first thread = ∑ other, first other + second thread := by
  classical
  have split (values : Thread → Nat) : ∑ other, values other =
      values thread + ∑ other ∈ Finset.univ.erase thread, values other :=
    (Finset.add_sum_erase _ values (Finset.mem_univ thread)).symm
  have others : ∑ other ∈ Finset.univ.erase thread, second other =
      ∑ other ∈ Finset.univ.erase thread, first other :=
    Finset.sum_congr rfl fun other member => same other (Finset.ne_of_mem_erase member)
  rw [split first, split second, others]
  omega

theorem effort_update {threads : Thread → ThreadState} {thread : Thread} {old : ThreadState}
    (was : threads thread = old) (value : ThreadState) :
    ∑ other, effort (Function.update threads thread value other) + effort old =
      ∑ other, effort (threads other) + effort value := by
  have moved : ∑ other, effort (Function.update threads thread value other) +
      effort (threads thread) =
        ∑ other, effort (threads other) + effort (Function.update threads thread value thread) :=
    sum_of_others thread fun other apart => congrArg effort (Function.update_of_ne apart _ _)
  rwa [Function.update_self, was] at moved

/-- A step of one thread that leaves the dispatcher and the backlog alone. -/
theorem load_thread {thread : Thread} {old value : ThreadState} (was : before.threads thread = old)
    (threads : after.threads = Function.update before.threads thread value)
    (backlog : after.backlog = before.backlog) (dispatcher : after.dispatcher = before.dispatcher)
    (less : effort value < effort old) : load after < load before := by
  have moved := effort_update was value
  simp only [load, backlog, dispatcher, threads]
  omega

end Load

/-- A server that runs, with no request too large and no thread lost to an exception. -/
structure Live (state : MemoryState Thread Device Scatter) : Prop where
  ready : Ready state
  held : Held state
  small : ∀ thread start request, state.threads thread = .calling start request →
    request.size < MAX_BYTES_PER_DISPATCH
  calm : ∀ thread, state.threads thread ≠ .threw

section Live

variable [DecidableEq Thread]

theorem mem_insert_missing {backlog : Backlog} {key : BacklogKey} {item : ItemId}
    (missing : backlog.find key = none) {entry : BacklogEntry}
    (member : entry ∈ (backlog.insert key item).entries) :
    entry = ⟨key, item⟩ ∨ entry ∈ backlog.entries := by
  rw [AList.entries_insert_of_notMem (AList.lookup_eq_none.mp missing)] at member
  exact List.mem_cons.mp member

theorem Live.batchable (live : Live before) (act : Act dma before event after) :
    Batchable after := by
  by_cases quiet : ∀ thread, event ≠ .enqueue thread
  · exact batchable_step live.ready.batchable act quiet
  · simp only [ne_eq, not_forall, not_not] at quiet
    obtain ⟨thread, rfl⟩ := quiet
    cases act with
    | join => exact live.ready.batchable
    | @create _ first request calling missing =>
        intro entry member
        rcases mem_insert_missing missing member with rfl | old
        · simpa using live.small thread first request calling
        · have found : before.backlog.find entry.1 = some entry.2 := AList.mem_lookup_iff.mpr old
          have below := (live.ready.served.queue.entry entry.1 entry.2 found).1
          simpa [Function.update_of_ne below.ne] using live.ready.batchable entry old

/-- No step of the server's own starts a call or throws. -/
theorem calls_step (served : Served before) (act : Act dma before event after)
    (inside : isOutside event = false) (thread : Thread) :
    (∀ first request, after.threads thread = .calling first request →
      before.threads thread = .calling first request) ∧
      (after.threads thread = .threw → before.threads thread = .threw) := by
  have moved {acting : Thread} {value : ThreadState}
      (threads : after.threads = Function.update before.threads acting value)
      (goes : (∀ first request, value ≠ .calling first request) ∧ value ≠ .threw) :
      (∀ first request, after.threads thread = .calling first request →
        before.threads thread = .calling first request) ∧
        (after.threads thread = .threw → before.threads thread = .threw) := by
    rw [threads]
    by_cases same : thread = acting
    · rw [same, Function.update_self]
      exact ⟨fun first request is => absurd is (goes.1 first request), fun is => absurd is goes.2⟩
    · rw [Function.update_of_ne same]
      exact ⟨fun _ _ => id, id⟩
  cases act with
  | callRead | callWrite | refuse | setStop | notifyStop => cases inside
  | retrieveTwice locking unlocked unread retrieved =>
      have thrown : Act dma before _ _ := .retrieveTwice locking unlocked unread retrieved
      cases (served.step thrown).unthrown
  | join | create | reuse | retrieve | wake | copy | returnRead | acquireWrite | memWrite
    | returnWrite => exact moved rfl ⟨by simp, by simp⟩
  | _ => exact ⟨fun _ _ => id, id⟩

theorem Live.step (live : Live before) (taken : Steps (next dma) before event after)
    (inside : isOutside event = false) : Live after := by
  obtain ⟨acted, act, same⟩ := act_of_next taken
  subst same
  have kept := calls_step live.ready.served act inside
  have batchable : Batchable acted := live.batchable act
  have held : Held acted := live.held.step act
  refine ⟨⟨(live.ready.served.step act).tick _,
    (live.ready.alert.step live.ready.served act).tick _, ?_, ?_, batchable⟩, held,
    fun thread first request calling =>
      live.small thread first request ((kept thread).1 first request calling),
    fun thread threw => live.calm thread ((kept thread).2 threw)⟩
  · cases act with
    | setStop => cases inside
    | _ => exact live.ready.running
  · cases act with
    | refuse => cases inside
    | _ => exact live.ready.unlocked

section Decrease

variable [Fintype Thread]

omit [DecidableEq Thread] in
theorem load_dispatcher {dispatcher : Dispatcher Scatter} (was : before.dispatcher = dispatcher)
    (backlog : after.backlog = before.backlog) (threads : after.threads = before.threads)
    (less : due before.backlog.entries.isEmpty after.dispatcher <
      due before.backlog.entries.isEmpty dispatcher) : load after < load before := by
  simp only [load, backlog, threads, was]
  omega

theorem load_create {thread : Thread} {first : Nat} {request : ReadRequest}
    (calling : before.threads thread = .calling first request)
    (missing : before.backlog.find request.key = none) {created : Nat}
    {items : ItemId → BacklogItem Thread} :
    load { before with
      backlog := before.backlog.insert request.key created
      items
      created := created + 1
      dispatcher := before.dispatcher.notified
      threads := Function.update before.threads thread (.reading first request created .locking) :
        MemoryState Thread Device Scatter } < load before := by
  have moved := effort_update calling (.reading first request created .locking)
  have longer : (before.backlog.insert request.key created).entries.length =
      before.backlog.entries.length + 1 := by
    rw [AList.entries_insert_of_notMem (AList.lookup_eq_none.mp missing), List.length_cons]
  have more := due_le (before.backlog.insert request.key created).entries.isEmpty
    before.backlog.entries.isEmpty before.dispatcher
  have called : effort (.calling first request) = 30 := rfl
  have queued : effort (.reading first request created .locking) = 4 := rfl
  simp only [load, longer, due_notified]
  omega

omit [DecidableEq Thread] in
theorem Live.load_formBatch (live : Live before) {first : BacklogEntry} {rest : List BacklogEntry}
    (pacing : before.dispatcher = .pacing) (order : (first :: rest).Perm before.backlog.entries)
    {batches : ItemId → Nat} : load { before with
      backlog := eraseBatch (dispatchBuffer before.items (first :: rest)) before.backlog
      batches
      dispatcher := .formed (before.items first.2).pid
        ((dispatchBuffer before.items (first :: rest)).map Sigma.snd) :
          MemoryState Thread Device Scatter } < load before := by
  have waiting := live.ready.alert.pacing pacing
  have taken := dispatchBuffer_ne_nil live.ready.batchable order waiting
  have shrunk := length_eraseBatch (nodup_keys_dispatchBuffer before.items order)
    fun entry => find_of_mem_dispatchBuffer order
  have positive := List.length_pos_iff.mpr taken
  simp only [load, pacing, due, rank, List.length_map]
  omega

theorem Live.load_step (live : Live before) (act : Act dma before event after)
    (progress : progresses before event = true) : load after < load before := by
  cases act with
  | callRead | callWrite | refuse | wakeSpuriously | change | setStop | notifyStop => cases progress
  | create calling missing => exact load_create calling missing
  | formBatch pacing order => exact live.load_formBatch pacing order
  | join was | reuse was | retrieveTwice was | retrieve was | wake was | copy was
    | returnRead was | acquireWrite was | memWrite was | returnWrite was =>
      exact load_thread was rfl rfl rfl (by simp [effort])
  | testStop was =>
      refine load_dispatcher was rfl rfl ?_
      cases empty : before.backlog.entries.isEmpty <;> simp [live.ready.running, due]
  | testEmpty was =>
      refine load_dispatcher was rfl rfl ?_
      cases empty : before.backlog.entries.isEmpty <;> simp [due, rank]
  | waitTest was =>
      have waiting : before.backlog.entries.isEmpty = false := by simpa [progresses] using progress
      refine load_dispatcher was rfl rfl ?_
      simp [waiting, due]
  | acquire was free perm =>
      refine load_dispatcher was rfl rfl ?_
      dsimp only
      split <;> simp [due, rank, perm.length_eq]
  | prepare was | execute was | finish was =>
      refine load_dispatcher was rfl rfl ?_
      simp [due, rank]
  | fill was =>
      refine load_dispatcher was rfl rfl ?_
      simp only [due, rank, List.length_cons]
      omega
  | setTwice filled set =>
      cases (live.ready.served.step (.setTwice filled set : Act dma _ _ _)).unthrown
  | @setValue path _ _ _ _ was unset =>
      refine load_dispatcher was rfl rfl ?_
      cases path <;> simp [afterSet, due, rank]
  | memFree _ was =>
      refine load_dispatcher was rfl rfl ?_
      simp [due, rank]
  | release was =>
      refine load_dispatcher was rfl rfl ?_
      cases empty : before.backlog.entries.isEmpty <;> simp [due, rank]

/-- The other steps the server takes leave the load as it is. -/
theorem Live.load_rest (live : Live before) (act : Act dma before event after)
    (inside : isOutside event = false) (rests : progresses before event = false) :
    load after = load before := by
  cases act with
  | wakeSpuriously was =>
      have empty := live.ready.alert.blocked was
      simp [load, was, empty, due]
  | change => rfl
  | waitTest was =>
      have empty : before.backlog.entries = [] := by simpa [progresses] using rests
      simp [load, was, empty, live.ready.running, due]
  | _ => simp [progresses, isOutside] at rests inside

end Decrease

/-- A step that brings a call nearer to its end is possible. -/
def Possible (dma : Dma Device Scatter) (state : MemoryState Thread Device Scatter) : Prop :=
  ∃ event, progresses state event = true ∧ ∃ after, Steps (next dma) state event after

theorem possible_of_step (stepped : step dma before event = some acted)
    (progress : progresses before event = true) : Possible dma before :=
  ⟨event, progress, _, steps_of_step stepped⟩

theorem Live.possible_of_unfinished (live : Live before) (unfinished : ¬Finished before) :
    Possible dma before := by
  have advances : Advances dma before := live.ready.advances unfinished
  obtain ⟨events, after, run, service, -, less⟩ := advances
  cases events with
  | nil =>
      rw [run.eq_of_nil] at less
      exact absurd less (Nat.lt_irrefl _)
  | cons event later =>
      obtain ⟨middle, taken, -⟩ := run.uncons
      refine ⟨event, ?_, middle, taken⟩
      have serves := service event List.mem_cons_self
      cases event with
      | waitTest =>
          obtain ⟨acted, act, -⟩ := act_of_next taken
          cases act with
          | waitTest waits =>
              have waiting : before.backlog.entries ≠ [] := fun empty =>
                unfinished ⟨empty, by rw [waits]; rfl⟩
              simpa [progresses] using waiting
      | wakeSpuriously | change | callRead | callWrite | refuse | setStop | notifyStop =>
          cases serves
      | _ => rfl

theorem Live.possible_of_holder (live : Live before) (finished : Finished before) {thread : Thread}
    {item : ItemId} (holds : holdsItem (before.threads thread) = some item) :
    Possible dma before := by
  cases value : before.threads thread with
  | reading first request own phase =>
      cases phase with
      | waiting =>
          have below := (live.ready.served.readers.reader thread _ _ _ _ value).1
          obtain ⟨⟨read, buffer⟩, set⟩ :=
            Option.ne_none_iff_exists'.mp (live.ready.answered finished below)
          have stepped : ∃ acted, Memory.step dma before (.wake thread) = some acted := by
            simp [Memory.step, readStep, value, set]
          exact possible_of_step stepped.choose_spec rfl
      | copying read buffer =>
          have stepped : ∃ acted, Memory.step dma before (.copy thread) = some acted := by
            simp [Memory.step, readStep, value]
          exact possible_of_step stepped.choose_spec rfl
      | locking | returning =>
          rw [value] at holds
          cases holds
  | _ =>
      rw [value] at holds
      cases holds

theorem Live.possible_of_locking (live : Live before) (finished : Finished before) {thread : Thread}
    {first : Nat} {request : ReadRequest} {item : ItemId}
    (locking : before.threads thread = .reading first request item .locking) :
    Possible dma before := by
  cases mtx : (before.items item).mtx with
  | some holder => exact live.possible_of_holder finished (live.held item holder mtx)
  | none =>
      have stepped : ∃ acted, Memory.step dma before (.lockItem thread) = some acted := by
        simp only [Memory.step, readStep, locking, mtx]
        split
        · exact ⟨_, rfl⟩
        · split <;> exact ⟨_, rfl⟩
      exact possible_of_step stepped.choose_spec rfl

theorem possible_of_holdsSemaphore {thread : Thread}
    (holds : holdsSemaphore (before.threads thread) = true) : Possible dma before := by
  cases value : before.threads thread with
  | acquired first request =>
      have stepped : ∃ acted, Memory.step dma before (.memWrite thread) = some acted := by
        simp [Memory.step, writeStep, value]
      exact possible_of_step stepped.choose_spec rfl
  | written first request effect success =>
      have stepped : ∃ acted, Memory.step dma before (.returnWrite thread) = some acted := by
        simp [Memory.step, writeStep, value]
      exact possible_of_step stepped.choose_spec rfl
  | _ =>
      rw [value] at holds
      cases holds

theorem possible_of_holdsSem (finished : Finished before)
    (holds : holdsSem before.dispatcher = true) : Possible dma before := by
  have nothing := finished.2
  cases value : before.dispatcher with
  | preparing pid batch =>
      have stepped : ∃ acted, Memory.step dma before .prepare = some acted := by
        simp [Memory.step, dispatchStep, value]
      exact possible_of_step stepped.choose_spec rfl
  | prepared handle batch =>
      have stepped : ∃ acted, Memory.step dma before .execute = some acted := by
        simp [Memory.step, dispatchStep, value]
      exact possible_of_step stepped.choose_spec rfl
  | reading path todo =>
      rw [value] at nothing
      obtain rfl : todo = [] := nothing
      have stepped : ∃ acted, Memory.step dma before .finish = some acted := by
        simp [Memory.step, dispatchStep, value]
      exact possible_of_step stepped.choose_spec rfl
  | filled path item read buffer todo =>
      rw [value] at nothing
      cases nothing
  | freeing pid item buffer todo =>
      have stepped : ∃ acted, Memory.step dma before (.memFree []) = some acted := by
        simp [Memory.step, dispatchStep, value]
      exact possible_of_step stepped.choose_spec rfl
  | dispatched =>
      have stepped : ∃ acted, Memory.step dma before .release = some acted := by
        simp [Memory.step, dispatchStep, value]
      exact possible_of_step stepped.choose_spec rfl
  | _ =>
      rw [value] at holds
      cases holds

theorem Live.possible_of_calling (live : Live before) {thread : Thread} {first : Nat}
    {request : ReadRequest} (calling : before.threads thread = .calling first request) :
    Possible dma before := by
  have fits : ¬request.size ≥ 0x8000000000000000 := by
    have small := live.small thread first request calling
    rw [ge_iff_le, UInt64.not_le]
    exact UInt64.lt_trans small (by decide)
  have stepped : ∃ acted, Memory.step dma before (.enqueue thread) = some acted := by
    simp only [Memory.step, readStep, calling, live.ready.unlocked]
    split
    · exact ⟨_, rfl⟩
    · rw [if_neg fits]
      exact ⟨_, rfl⟩
  exact possible_of_step stepped.choose_spec rfl

/-- As long as a thread is in a call, some call can go on. -/
theorem Live.possible (live : Live before) {thread : Thread}
    (inCall : InCall (before.threads thread)) : Possible dma before := by
  by_cases finished : Finished before
  · cases value : before.threads thread with
    | idle | threw =>
        rw [value] at inCall
        exact inCall.elim
    | calling first request => exact live.possible_of_calling value
    | reading first request item phase =>
        cases phase with
        | locking => exact live.possible_of_locking finished value
        | waiting | copying => exact live.possible_of_holder finished (by rw [value]; rfl)
        | returning read =>
            have stepped : ∃ acted, Memory.step dma before (.returnRead thread) = some acted := by
              simp [Memory.step, readStep, value]
            exact possible_of_step stepped.choose_spec rfl
    | writing first request =>
        by_cases free : before.semFree = true
        · have stepped : ∃ acted, Memory.step dma before (.acquireWrite thread) = some acted := by
            simp [Memory.step, writeStep, value, free]
          exact possible_of_step stepped.choose_spec rfl
        · rcases live.ready.alert.semaphore (Bool.eq_false_iff.mpr free) with here | ⟨other, there⟩
          · exact possible_of_holdsSem finished here
          · exact possible_of_holdsSemaphore there
    | acquired | written => exact possible_of_holdsSemaphore (by rw [value]; rfl)
  · exact live.possible_of_unfinished finished

end Live

/-- A server that has not been stopped, none of whose calls has thrown. -/
theorem live_of_run [DecidableEq Thread] {device : Device}
    {events : List (MemoryEvent Thread Device)} {final : MemoryState Thread Device Scatter}
    (run : Run (Steps (next dma)) (start device) events final) (running : final.bStop = false)
    (calm : ∀ thread, final.threads thread ≠ .threw) (unlocked : final.mtxAbandoned = false)
    (batchable : Batchable final) (small : ∀ thread start request,
      final.threads thread = .calling start request → request.size < MAX_BYTES_PER_DISPATCH) :
    Live final := by
  obtain ⟨served, alert⟩ := attended_of_run run
  have held : Held final := run.invariant (held_start device) fun _ _ _ held taken => by
    obtain ⟨acted, act, same⟩ := act_of_next taken
    subst same
    have kept : Held acted := held.step act
    exact kept
  exact ⟨⟨served, alert, running, unlocked, batchable⟩, held, small, calm⟩

/-- Every call returns: without new calls, in any schedule that does not rest while
a step of a call or of the dispatcher is possible, all threads come to be idle.
Spurious wake-ups and changes of the target may go on for ever. -/
theorem calls_return [Finite Thread] [DecidableEq Thread] {device : Device}
    {events : List (MemoryEvent Thread Device)} {states : Nat → MemoryState Thread Device Scatter}
    {schedule : Nat → MemoryEvent Thread Device}
    (run : Run (Steps (next dma)) (start device) events (states 0))
    (running : (states 0).bStop = false) (unlocked : (states 0).mtxAbandoned = false)
    (calm : ∀ thread, (states 0).threads thread ≠ .threw) (batchable : Batchable (states 0))
    (small : ∀ thread start request, (states 0).threads thread = .calling start request →
      request.size < MAX_BYTES_PER_DISPATCH)
    (follows : ∀ n, Steps (next dma) (states n) (schedule n) (states (n + 1)))
    (inside : ∀ n, isOutside (schedule n) = false)
    (untiring : ∀ n, Possible dma (states n) →
      ∃ later, n ≤ later ∧ progresses (states later) (schedule later) = true) :
    ∃ n, ∀ later, n ≤ later → ∀ thread, (states later).threads thread = .idle := by
  have := Fintype.ofFinite Thread
  have live (n : Nat) : Live (states n) := by
    induction n with
    | zero => exact live_of_run run running calm unlocked batchable small
    | succ n ih => exact ih.step (follows n) (inside n)
  obtain ⟨n, quiet⟩ := eventually_quiet Nat.lt_wfRel.wf
    (fun n => progresses (states n) (schedule n) = true) (fun n => load (states n))
    (fun n progress => by
      obtain ⟨acted, act, same⟩ := act_of_next (follows n)
      have less : load acted < load (states n) := (live n).load_step act progress
      rw [same]
      exact less)
    (fun n rests => by
      obtain ⟨acted, act, same⟩ := act_of_next (follows n)
      have kept : load acted = load (states n) :=
        (live n).load_rest act (inside n) (Bool.eq_false_iff.mpr rests)
      rw [same]
      exact kept)
  refine ⟨n, fun later order thread => ?_⟩
  by_contra busy
  have inCall : InCall ((states later).threads thread) := by
    cases value : (states later).threads thread with
    | idle => exact absurd value busy
    | threw => exact absurd value ((live later).calm thread)
    | _ => trivial
  obtain ⟨last, after, progress⟩ := untiring later ((live later).possible inCall)
  exact quiet last (order.trans after) progress

/-- Nothing is left to do, and the dispatcher waits. -/
structure AtRest (state : MemoryState Thread Device Scatter) : Prop where
  waits : state.dispatcher = .waitTest
  idle : ∀ thread, state.threads thread = .idle
  empty : state.backlog.entries = []

theorem AtRest.not_possible [DecidableEq Thread] (rest : AtRest before) : ¬Possible dma before := by
  rintro ⟨event, progress, after, taken⟩
  obtain ⟨acted, act, -⟩ := act_of_next taken
  cases act with
  | callRead | callWrite | refuse | wakeSpuriously | change | setStop | notifyStop => cases progress
  | waitTest => simp [progresses, rest.empty] at progress
  | join was | create was | reuse was | retrieveTwice was | retrieve was | wake was | copy was
    | returnRead was | acquireWrite was | memWrite was | returnWrite was =>
      rw [rest.idle] at was
      cases was
  | testStop was | testEmpty was | formBatch was | acquire was | prepare was | execute was
    | fill was | setTwice was | setValue was | memFree _ was | finish was | release was =>
      rw [rest.waits] at was
      cases was

theorem AtRest.change [DecidableEq Thread] (rest : AtRest before) (device : Device) :
    ∃ after, next dma before (.change device) = some after ∧ AtRest after := by
  have changed : AtRest { before with device, past := before.past ++ [before.device] } :=
    ⟨rest.waits, rest.idle, rest.empty⟩
  exact ⟨_, rfl, changed⟩

section Samples

inductive Caller
  | early
  | late
  | writer
  deriving DecidableEq

instance : Fintype Caller := ⟨{.early, .late, .writer}, fun thread => by cases thread <;> simp⟩

/-- A read is queued, another one and a write begin. -/
def callsThree : List (MemoryEvent (Caller) (List UInt8)) :=
  [.callRead .early ⟨7, 1, 2⟩, .enqueue .early, .callRead .late ⟨7, 0, 1⟩,
    .callWrite .writer ⟨7, 0, [9]⟩]

/-- The dispatcher answers the first read, goes to sleep, wakes for no reason, and
answers the second after the write. -/
def answersThree : List (MemoryEvent (Caller) (List UInt8)) :=
  [.testStop, .testEmpty, .formBatch [⟨(⟨7, 1, 2⟩ : ReadRequest).key, 0⟩], .acquire [0], .fill,
    .setValue, .lockItem .early, .wake .early, .copy .early, .memFree [], .finish, .release,
    .returnRead .early, .testStop, .testEmpty, .waitTest, .wakeSpuriously, .waitTest,
    .acquireWrite .writer, .memWrite .writer, .returnWrite .writer, .enqueue .late, .waitTest,
    .testStop, .testEmpty, .formBatch [⟨(⟨7, 0, 1⟩ : ReadRequest).key, 1⟩], .acquire [1], .fill,
    .setValue, .lockItem .late, .wake .late, .copy .late, .memFree [], .finish, .release,
    .returnRead .late, .testStop, .testEmpty]

def answering : Nat → MemoryEvent (Caller) (List UInt8) := prolonged answersThree (.change [9, 5])

def answeringStates : Nat → MemoryState (Caller) (List UInt8) (List UInt8) :=
  statesFrom (next flatMemory)
    ((execute (next flatMemory) (start [1, 2, 3]) callsThree).getD (start [1, 2, 3])) answering

theorem calls_return_answersThree :
    (answeringStates 0).backlog.entries.length = 1 ∧ answering 16 = .wakeSpuriously ∧
      (answeringStates 38).returnedReads.map ReturnedRead.bytes = [[9], [2, 3]] ∧
      (∀ n, Steps (next flatMemory) (answeringStates n) (answering n) (answeringStates (n + 1))) ∧
      ∃ n, ∀ later, n ≤ later → ∀ thread, (answeringStates later).threads thread = .idle := by
  have run : Run (Steps (next flatMemory)) (start [1, 2, 3]) callsThree (answeringStates 0) :=
    run_of_execute rfl
  have executed : (execute (next flatMemory) (answeringStates 0) answersThree).map (fun final =>
      (final.dispatcher, final.threads .early, final.threads .late, final.threads .writer,
        final.backlog.entries, final.returnedReads.map ReturnedRead.bytes)) =
          some (.waitTest, .idle, .idle, .idle, [], [[9], [2, 3]]) := by
    rfl
  obtain ⟨final, ends, observed⟩ := Option.map_eq_some_iff.mp executed
  simp only [Prod.mk.injEq] at observed
  obtain ⟨waits, first, second, third, empty, answers⟩ := observed
  have ended : AtRest final := ⟨waits, fun thread => match thread with
    | .early => first
    | .late => second
    | .writer => third, empty⟩
  have changes (state : MemoryState (Caller) (List UInt8) (List UInt8)) (rest : AtRest state) :
      ∃ after, next flatMemory state (.change [9, 5]) = some after ∧ AtRest after :=
    rest.change [9, 5]
  have follows := steps_statesFrom AtRest ends ended changes
  have inside (n : Nat) : isOutside (answering n) = false := by
    have all : answersThree.all (fun event => !isOutside event) = true := by
      rfl
    refine prolonged_of_all (fun event => isOutside event = false) (fun event member => ?_) rfl n
    simpa using List.all_eq_true.mp all event member
  have finished (state : MemoryState (Caller) (List UInt8) (List UInt8)) (rest : AtRest state) :
      ¬Possible flatMemory state := rest.not_possible
  have length : answersThree.length ≤ 37 + 1 := by
    decide
  have untiring (n : Nat) (possible : Possible flatMemory (answeringStates n)) :
      ∃ later, n ≤ later ∧ progresses (answeringStates later) (answering later) = true :=
    untiring_statesFrom AtRest
      (fun later => progresses (answeringStates later) (answering later) = true)
      ends ended changes finished length rfl n possible
  have begun (thread : Caller) : (answeringStates 0).threads thread = match thread with
      | .early => .reading 0 ⟨7, 1, 2⟩ 0 .locking
      | .late => .calling 2 ⟨7, 0, 1⟩
      | .writer => .writing 3 ⟨7, 0, [9]⟩ := match thread with
    | .early => rfl
    | .late => rfl
    | .writer => rfl
  have calm (thread : Caller) : (answeringStates 0).threads thread ≠ .threw := by
    rw [begun]
    split <;> simp
  have small (thread : Caller) (first : Nat) (request : ReadRequest)
      (calling : (answeringStates 0).threads thread = .calling first request) :
      request.size < MAX_BYTES_PER_DISPATCH := by
    rw [begun] at calling
    split at calling
    · cases calling
    · obtain ⟨-, rfl⟩ := ThreadState.calling.inj calling
      decide
    · cases calling
  have batchable : Batchable (answeringStates 0) := by
    have queued : (answeringStates 0).backlog.entries.all (fun entry =>
        ((answeringStates 0).items entry.2).size < MAX_BYTES_PER_DISPATCH) = true := by
      rfl
    intro entry member
    simpa using List.all_eq_true.mp queued entry member
  have last : answeringStates 38 = final := statesFrom_of_execute ends
  exact ⟨rfl, rfl, last ▸ answers, follows,
    calls_return run rfl rfl calm batchable small follows inside untiring⟩

end Samples

end CeServer.Memory
