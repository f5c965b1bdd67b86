import CeServer.Library.Transition
import CeServer.Memory

/-!
What each step of the backlog can do, with its guard: the inversion of
`Memory.step` that every invariant is proved from.
-/

namespace CeServer.Memory

open Transition

variable {Thread Device Scatter : Type} [DecidableEq Thread] {dma : Dma Device Scatter}

inductive Act (dma : Dma Device Scatter) (before : MemoryState Thread Device Scatter) :
    MemoryEvent Thread Device → MemoryState Thread Device Scatter → Prop
  | callRead {thread : Thread} (request : ReadRequest) (idle : before.threads thread = .idle) :
      Act dma before (.callRead thread request) { before with
        threads := Function.update before.threads thread (.calling before.past.length request) }
  | join {thread : Thread} {start : Nat} {request : ReadRequest} {item : ItemId}
      (calling : before.threads thread = .calling start request)
      (found : before.backlog.find request.key = some item) :
      Act dma before (.enqueue thread) { before with
        threads := Function.update before.threads thread (.reading start request item .locking) }
  | create {thread : Thread} {start : Nat} {request : ReadRequest}
      (calling : before.threads thread = .calling start request)
      (missing : before.backlog.find request.key = none) :
      Act dma before (.enqueue thread) { before with
        backlog := before.backlog.insert request.key before.created
        items := Function.update before.items before.created { request with }
        created := before.created + 1
        dispatcher := before.dispatcher.notified
        threads := Function.update before.threads thread
          (.reading start request before.created .locking) }
  | refuse {thread : Thread} {start : Nat} {request : ReadRequest}
      (calling : before.threads thread = .calling start request) :
      Act dma before (.refuse thread) { before with
        mtxAbandoned := true
        threads := Function.update before.threads thread .threw }
  | reuse {thread : Thread} {start : Nat} {request : ReadRequest} {item : ItemId}
      (locking : before.threads thread = .reading start request item .locking)
      (unlocked : (before.items item).mtx = none)
      (promiseRead : (before.items item).promiseRead = true) :
      Act dma before (.lockItem thread) { before with
        threads := Function.update before.threads thread
          (.reading start request item (.returning (before.items item).read)) }
  | retrieveTwice {thread : Thread} {start : Nat} {request : ReadRequest} {item : ItemId}
      (locking : before.threads thread = .reading start request item .locking)
      (unlocked : (before.items item).mtx = none)
      (unread : (before.items item).promiseRead = false)
      (retrieved : (before.items item).promise.futureRetrieved = true) :
      Act dma before (.lockItem thread) { before with
        thrown := true
        threads := Function.update before.threads thread .threw }
  | retrieve {thread : Thread} {start : Nat} {request : ReadRequest} {item : ItemId}
      (locking : before.threads thread = .reading start request item .locking)
      (unlocked : (before.items item).mtx = none)
      (unread : (before.items item).promiseRead = false)
      (fresh : (before.items item).promise.futureRetrieved = false) :
      Act dma before (.lockItem thread) { before with
        items := Function.update before.items item { before.items item with
          mtx := some thread
          promise := { (before.items item).promise with futureRetrieved := true } }
        futures := Function.update before.futures item (before.futures item + 1)
        threads := Function.update before.threads thread (.reading start request item .waiting) }
  | wake {thread : Thread} {start : Nat} {request : ReadRequest} {item : ItemId} {read : UInt64}
      {buffer : BufferId} (waiting : before.threads thread = .reading start request item .waiting)
      (set : (before.items item).promise.value = some (read, buffer)) :
      Act dma before (.wake thread) { before with
        threads := Function.update before.threads thread
          (.reading start request item (.copying read buffer)) }
  | copy {thread : Thread} {start : Nat} {request : ReadRequest} {item : ItemId} {read : UInt64}
      {buffer : BufferId}
      (copying : before.threads thread = .reading start request item (.copying read buffer)) :
      Act dma before (.copy thread) { before with
        items := Function.update before.items item { before.items item with
          read
          data := resize (before.items item).size.toNat (before.buffers buffer).bytes
          promiseRead := true
          mtx := none }
        threads := Function.update before.threads thread
          (.reading start request item (.returning read)) }
  | returnRead {thread : Thread} {start : Nat} {request : ReadRequest} {item : ItemId}
      {read : UInt64}
      (returning : before.threads thread = .reading start request item (.returning read)) :
      Act dma before (.returnRead thread) { before with
        threads := Function.update before.threads thread .idle
        returnedReads := { thread, request, item, start, finish := before.past.length
                           count := read, bytes := (before.items item).data.take read.toNat } ::
          before.returnedReads }
  | callWrite {thread : Thread} (request : WriteRequest) (idle : before.threads thread = .idle) :
      Act dma before (.callWrite thread request) { before with
        threads := Function.update before.threads thread (.writing before.past.length request) }
  | acquireWrite {thread : Thread} {start : Nat} {request : WriteRequest}
      (writing : before.threads thread = .writing start request) (free : before.semFree = true) :
      Act dma before (.acquireWrite thread) { before with
        semFree := false
        threads := Function.update before.threads thread (.acquired start request) }
  | memWrite {thread : Thread} {start : Nat} {request : WriteRequest}
      (acquired : before.threads thread = .acquired start request) :
      Act dma before (.memWrite thread) { before with
        device := (memWrite dma before.device request).2
        threads := Function.update before.threads thread
          (.written start request before.past.length (memWrite dma before.device request).1) }
  | returnWrite {thread : Thread} {start : Nat} {request : WriteRequest} {effect : Nat}
      {success : Bool} (written : before.threads thread = .written start request effect success) :
      Act dma before (.returnWrite thread) { before with
        semFree := true
        threads := Function.update before.threads thread .idle
        returnedWrites := { thread, request, start, effect, finish := before.past.length
                            result := writeResult request success } :: before.returnedWrites }
  | testStop (test : before.dispatcher = .test) :
      Act dma before .testStop { before with
        dispatcher := if before.bStop then .stopped else .entered }
  | testEmpty (entered : before.dispatcher = .entered) :
      Act dma before .testEmpty { before with
        dispatcher := if before.backlog.entries.isEmpty then .waitTest else .pacing }
  | waitTest (waits : before.dispatcher = .waitTest) :
      Act dma before .waitTest { before with
        dispatcher := if before.bStop || !before.backlog.entries.isEmpty then .test else .blocked }
  | wakeSpuriously (blocked : before.dispatcher = .blocked) :
      Act dma before .wakeSpuriously { before with dispatcher := .waitTest }
  | formBatch {first : BacklogEntry} {rest : List BacklogEntry}
      (pacing : before.dispatcher = .pacing)
      (order : (first :: rest).Perm before.backlog.entries) :
      Act dma before (.formBatch (first :: rest)) { before with
        backlog := eraseBatch (dispatchBuffer before.items (first :: rest)) before.backlog
        batches := fun item => before.batches item +
          ((dispatchBuffer before.items (first :: rest)).map Sigma.snd).count item
        dispatcher := .formed (before.items first.2).pid
          ((dispatchBuffer before.items (first :: rest)).map Sigma.snd) }
  | acquire {pid : Int32} {batch order : List ItemId}
      (formed : before.dispatcher = .formed pid batch) (free : before.semFree = true)
      (perm : order.Perm batch) :
      Act dma before (.acquire order) { before with
        semFree := false
        dispatcher := if batch.length ≤ SCATTER_READ_THRESHOLD
          then .reading (.sequential pid) order else .preparing pid order }
  | prepare {pid : Int32} {batch : List ItemId}
      (preparing : before.dispatcher = .preparing pid batch) :
      Act dma before .prepare { before with
        dispatcher := .prepared (scatterPrepareAll dma (dma.scatterInitialize pid)
          (batch.map fun item => (before.items item).toReadRequest)) batch }
  | execute {handle : Scatter} {batch : List ItemId}
      (prepared : before.dispatcher = .prepared handle batch) :
      Act dma before .execute { before with
        instants := fun item => if item ∈ batch then some before.past.length
          else before.instants item
        dispatcher := .reading (.scatter (dma.scatterExecute before.device handle)) batch }
  | fill {path : DispatchPath Scatter} {item : ItemId} {todo : List ItemId} {result : ReadResult}
      (reading : before.dispatcher = .reading path (item :: todo))
      (read : result = readPath dma before.device (before.items item).toReadRequest path) :
      Act dma before .fill { before with
        buffers := Function.update before.buffers before.nextBuffer
          { bytes := promiseBuffer (before.items item).toReadRequest result, allocated := true }
        owners := Function.update before.owners before.nextBuffer item
        fillings := Function.update before.fillings before.nextBuffer
          (promiseBuffer (before.items item).toReadRequest result)
        instants := fillInstants before.instants item before.past.length path
        nextBuffer := before.nextBuffer + 1
        dispatcher := .filled path item result.read.toUInt64 before.nextBuffer todo }
  | setTwice {path : DispatchPath Scatter} {item : ItemId} {read : UInt64} {buffer : BufferId}
      {todo : List ItemId} (filled : before.dispatcher = .filled path item read buffer todo)
      (set : (before.items item).promise.value ≠ none) :
      Act dma before .setValue { before with thrown := true, dispatcher := .test }
  | setValue {path : DispatchPath Scatter} {item : ItemId} {read : UInt64} {buffer : BufferId}
      {todo : List ItemId} (filled : before.dispatcher = .filled path item read buffer todo)
      (unset : (before.items item).promise.value = none) :
      Act dma before .setValue { before with
        items := Function.update before.items item { before.items item with
          promise := { (before.items item).promise with value := some (read, buffer) } }
        settings := Function.update before.settings item (before.settings item + 1)
        dispatcher := afterSet item buffer todo path }
  | memFree {pid : Int32} {item : ItemId} {buffer : BufferId} {todo : List ItemId}
      (remains : List UInt8) (freeing : before.dispatcher = .freeing pid item buffer todo) :
      Act dma before (.memFree remains) { before with
        buffers := if dma.memFreeReleases
          then Function.update before.buffers buffer { bytes := remains, allocated := false }
          else before.buffers
        dispatcher := .reading (.sequential pid) todo }
  | finish {path : DispatchPath Scatter} (reading : before.dispatcher = .reading path []) :
      Act dma before .finish { before with dispatcher := .dispatched }
  | release (dispatched : before.dispatcher = .dispatched) :
      Act dma before .release { before with semFree := true, dispatcher := .test }
  | change (device : Device) : Act dma before (.change device) { before with device }
  | setStop : Act dma before .setStop { before with bStop := true }
  | notifyStop :
      Act dma before .notifyStop { before with dispatcher := before.dispatcher.notified }

theorem act_of_readStep {before after : MemoryState Thread Device Scatter}
    {event : MemoryEvent Thread Device} (taken : readStep before event = some after) :
    Act dma before event after := by
  cases event <;> simp only [readStep, reduceCtorEq] at taken
  case callRead thread request =>
    split at taken
    · rename_i idle
      obtain rfl := Option.some.inj taken
      exact .callRead request idle
    · simp at taken
  case enqueue thread =>
    split at taken
    · rename_i start request calling abandoned
      split at taken
      · rename_i item found
        obtain rfl := Option.some.inj taken
        exact .join calling found
      · rename_i missing
        split at taken
        · simp at taken
        · obtain rfl := Option.some.inj taken
          exact .create calling missing
    · simp at taken
  case refuse thread =>
    split at taken
    · rename_i start request calling abandoned
      split at taken
      · simp at taken
      · obtain rfl := Option.some.inj taken
        exact .refuse calling
    · simp at taken
  case lockItem thread =>
    split at taken
    · rename_i start request item locking
      split at taken
      · simp at taken
      · rename_i unlocked
        split at taken
        · rename_i promiseRead
          obtain rfl := Option.some.inj taken
          exact .reuse locking unlocked promiseRead
        · rename_i unread
          have unread : (before.items item).promiseRead = false := by simpa using unread
          split at taken
          · rename_i twice
            obtain rfl := Option.some.inj taken
            exact .retrieveTwice locking unlocked unread (Promise.getFuture_eq_none.mp twice)
          · rename_i promise got
            obtain ⟨fresh, rfl⟩ := Promise.getFuture_eq_some got
            obtain rfl := Option.some.inj taken
            exact .retrieve locking unlocked unread fresh
    · simp at taken
  case wake thread =>
    split at taken
    · rename_i start request item waiting
      split at taken
      · simp at taken
      · rename_i read buffer set
        obtain rfl := Option.some.inj taken
        exact .wake waiting set
    · simp at taken
  case copy thread =>
    split at taken
    · rename_i start request item read buffer copying
      obtain rfl := Option.some.inj taken
      exact .copy copying
    · simp at taken
  case returnRead thread =>
    split at taken
    · rename_i start request item read returning
      obtain rfl := Option.some.inj taken
      exact .returnRead returning
    · simp at taken

theorem act_of_writeStep {before after : MemoryState Thread Device Scatter}
    {event : MemoryEvent Thread Device} (taken : writeStep dma before event = some after) :
    Act dma before event after := by
  cases event <;> simp only [writeStep, reduceCtorEq] at taken
  case callWrite thread request =>
    split at taken
    · rename_i idle
      obtain rfl := Option.some.inj taken
      exact .callWrite request idle
    · simp at taken
  case acquireWrite thread =>
    split at taken
    · rename_i start request writing free
      obtain rfl := Option.some.inj taken
      exact .acquireWrite writing free
    · simp at taken
  case memWrite thread =>
    split at taken
    · rename_i start request acquired
      obtain rfl := Option.some.inj taken
      exact .memWrite acquired
    · simp at taken
  case returnWrite thread =>
    split at taken
    · rename_i start request effect success written
      obtain rfl := Option.some.inj taken
      exact .returnWrite written
    · simp at taken

theorem act_of_dispatchStep {before after : MemoryState Thread Device Scatter}
    {event : MemoryEvent Thread Device} (taken : dispatchStep dma before event = some after) :
    Act dma before event after := by
  cases event <;> simp only [dispatchStep, reduceCtorEq] at taken
  case testStop =>
    split at taken
    · rename_i test
      obtain rfl := Option.some.inj taken
      exact .testStop test
    · simp at taken
  case testEmpty =>
    split at taken
    · rename_i entered free
      obtain rfl := Option.some.inj taken
      exact .testEmpty entered
    · simp at taken
  case waitTest =>
    split at taken
    · rename_i waits free
      obtain rfl := Option.some.inj taken
      exact .waitTest waits
    · simp at taken
  case wakeSpuriously =>
    split at taken
    · rename_i blocked
      obtain rfl := Option.some.inj taken
      exact .wakeSpuriously blocked
    · simp at taken
  case formBatch order =>
    split at taken
    · rename_i first rest pacing free
      split at taken
      · rename_i perm
        obtain rfl := Option.some.inj taken
        exact .formBatch pacing perm
      · simp at taken
    · simp at taken
  case acquire order =>
    split at taken
    · rename_i pid batch formed free
      split at taken
      · rename_i perm
        obtain rfl := Option.some.inj taken
        exact .acquire formed free perm
      · simp at taken
    · simp at taken
  case prepare =>
    split at taken
    · rename_i pid batch preparing
      obtain rfl := Option.some.inj taken
      exact .prepare preparing
    · simp at taken
  case execute =>
    split at taken
    · rename_i handle batch prepared
      obtain rfl := Option.some.inj taken
      exact .execute prepared
    · simp at taken
  case fill =>
    split at taken
    · rename_i path item todo reading
      obtain rfl := Option.some.inj taken
      exact .fill reading rfl
    · simp at taken
  case setValue =>
    split at taken
    · rename_i path item read buffer todo filled
      split at taken
      · rename_i twice
        obtain rfl := Option.some.inj taken
        exact .setTwice filled (Promise.setValue_eq_none.mp twice)
      · rename_i promise set
        obtain ⟨unset, rfl⟩ := Promise.setValue_eq_some set
        obtain rfl := Option.some.inj taken
        exact .setValue filled unset
    · simp at taken
  case memFree remains =>
    split at taken
    · rename_i pid item buffer todo freeing
      obtain rfl := Option.some.inj taken
      exact .memFree remains freeing
    · simp at taken
  case finish =>
    split at taken
    · rename_i path reading
      obtain rfl := Option.some.inj taken
      exact .finish reading
    · simp at taken
  case release =>
    split at taken
    · rename_i dispatched
      obtain rfl := Option.some.inj taken
      exact .release dispatched
    · simp at taken

theorem act_of_step {before after : MemoryState Thread Device Scatter}
    {event : MemoryEvent Thread Device} (taken : step dma before event = some after) :
    Act dma before event after := by
  unfold step at taken
  split at taken
  case h_8 | h_9 | h_10 | h_11 => exact act_of_writeStep taken
  case h_12 device =>
    obtain rfl := Option.some.inj taken
    exact .change device
  case h_13 =>
    obtain rfl := Option.some.inj taken
    exact .setStop
  case h_14 =>
    obtain rfl := Option.some.inj taken
    exact .notifyStop
  case h_15 => exact act_of_dispatchStep taken
  all_goals exact act_of_readStep taken

theorem act_of_next {before after : MemoryState Thread Device Scatter}
    {event : MemoryEvent Thread Device} (taken : Steps (next dma) before event after) :
    ∃ acted, Act dma before event acted ∧
      after = { acted with past := before.past ++ [before.device] } := by
  obtain ⟨acted, stepped, same⟩ := Option.map_eq_some_iff.mp taken
  exact ⟨acted, act_of_step stepped, same.symm⟩

/-- The invariant rule for what does not speak of the device's history. -/
theorem run_invariant
    {allowed : MemoryState Thread Device Scatter → MemoryEvent Thread Device → Prop}
    {holds : MemoryState Thread Device Scatter → Prop}
    {start final : MemoryState Thread Device Scatter} {events : List (MemoryEvent Thread Device)}
    (run : Run (Restrict (Steps (next dma)) allowed) start events final) (initially : holds start)
    (acts : ∀ before event after, holds before → allowed before event →
      Act dma before event after → holds after)
    (ticks : ∀ state past, holds state → holds { state with past }) : holds final := by
  refine run.invariant initially fun before event after held taken => ?_
  obtain ⟨acted, act, same⟩ := act_of_next taken.2
  rw [same]
  exact ticks _ _ (acts before event acted held taken.1 act)

theorem unrestricted {start final : MemoryState Thread Device Scatter}
    {events : List (MemoryEvent Thread Device)} (run : Run (Steps (next dma)) start events final) :
    Run (Restrict (Steps (next dma)) fun _ _ => True) start events final :=
  run.mono fun _ _ _ taken => ⟨trivial, taken⟩

end CeServer.Memory
