import CeServer.Library.Timeline
import CeServer.BufferLifetime

/-!
The instant at which the device is read for an item: after the calls of all its
readers, and its answer is what the device held then.
-/

namespace CeServer.Memory

open Transition Timeline

variable {Thread Device Scatter : Type} {dma : Dma Device Scatter}
  {before after : MemoryState Thread Device Scatter} {event : MemoryEvent Thread Device}

def timeline (state : MemoryState Thread Device Scatter) : List Device :=
  state.past ++ [state.device]

def deviceRead (dma : Dma Device Scatter) (device : Device) (request : ReadRequest) : ReadResult :=
  dma.memReadEx device request.pid request.address request.size.toUInt32

def directRead (dma : Dma Device Scatter) (device : Device) (request : ReadRequest) :
    UInt64 × List UInt8 :=
  let result := deviceRead dma device request
  (result.read.toUInt64,
    (promiseBuffer request result).take result.read.toUInt64.toNat)

/-- The contract of a scatter handle: once a list of ranges of a process is
prepared and executed, reading one of them gives what a read of the device gave
at the execution. -/
def ScattersRead (dma : Dma Device Scatter) : Prop :=
  ∀ device pid (ranges : List ReadRequest), ∀ range ∈ ranges, range.pid = pid →
    dma.scatterRead (dma.scatterExecute device
      (scatterPrepareAll dma (dma.scatterInitialize pid) ranges)) range.address
        range.size.toUInt32 = deviceRead dma device range

/-- The answer of an item is the one of the device at the item's instant. -/
def Sampled (dma : Dma Device Scatter) (state : MemoryState Thread Device Scatter) (item : ItemId)
    (read : UInt64) (bytes : List UInt8) : Prop :=
  ∃ instant device, state.instants item = some instant ∧
    (timeline state)[instant]? = some device ∧
    read = (deviceRead dma device (state.items item).toReadRequest).read.toUInt64 ∧
    bytes = promiseBuffer (state.items item).toReadRequest
      (deviceRead dma device (state.items item).toReadRequest)

/-- The items left of a batch: not read yet on the sequential path, read by the
execution of the handle on the other one. -/
def PathReady (dma : Dma Device Scatter) (state : MemoryState Thread Device Scatter) :
    DispatchPath Scatter → List ItemId → Prop
  | .sequential pid, todo => ∀ item ∈ todo,
      (state.items item).pid = pid ∧ state.instants item = none
  | .scatter handle, todo => ∀ item ∈ todo, ∃ instant device,
      state.instants item = some instant ∧ (timeline state)[instant]? = some device ∧
      dma.scatterRead handle (state.items item).address (state.items item).size.toUInt32 =
        deviceRead dma device (state.items item).toReadRequest

def Working (dma : Dma Device Scatter) (state : MemoryState Thread Device Scatter) :
    Dispatcher Scatter → Prop
  | .formed pid batch | .preparing pid batch => PathReady dma state (.sequential pid) batch
  | .prepared handle batch => ∃ pid,
      handle = scatterPrepareAll dma (dma.scatterInitialize pid)
        (batch.map fun item => (state.items item).toReadRequest) ∧
      PathReady dma state (.sequential pid) batch
  | .reading path todo => PathReady dma state path todo
  | .filled path item read buffer todo =>
      Sampled dma state item read (state.fillings buffer) ∧ PathReady dma state path todo
  | .freeing pid _ _ todo => PathReady dma state (.sequential pid) todo
  | _ => True

def readOperation (dma : Dma Device Scatter) (entry : ReturnedRead Thread) :
    Operation Device where
  start := entry.start
  finish := entry.finish
  effect before _ := (entry.count, entry.bytes) = directRead dma before entry.request

def Timed (state : MemoryState Thread Device Scatter) : ThreadState → Prop
  | .calling start _ => start < state.past.length
  | .reading start _ item _ => start < state.past.length ∧
      ∀ instant, state.instants item = some instant → start < instant
  | _ => True

structure Sampling (dma : Dma Device Scatter) (state : MemoryState Thread Device Scatter) :
    Prop where
  timed : ∀ thread, Timed state (state.threads thread)
  bounded : ∀ item instant, state.instants item = some instant → instant < state.past.length
  queued : ∀ item, state.batches item = 0 → state.instants item = none
  working : Working dma state state.dispatcher
  promised : ∀ item read buffer, (state.items item).promise.value = some (read, buffer) →
    Sampled dma state item read (state.fillings buffer)
  copied : ∀ item, (state.items item).promiseRead = true →
    Sampled dma state item (state.items item).read (state.items item).data
  returned : ∀ entry ∈ state.returnedReads, ∃ instant,
    TakesEffect (timeline state) (readOperation dma entry) instant

theorem sampling_start (device : Device) :
    Sampling dma (start device : MemoryState Thread Device Scatter) where
  timed := fun _ => trivial
  bounded := nofun
  queued := fun _ _ => rfl
  working := trivial
  promised := nofun
  copied := nofun
  returned := nofun

structure SameSample (before after : MemoryState Thread Device Scatter) (item : ItemId) :
    Prop where
  history : timeline before <+: timeline after
  request : (after.items item).toReadRequest = (before.items item).toReadRequest
  instant : after.instants item = before.instants item

theorem Sampled.mono {item : ItemId} {read : UInt64} {bytes : List UInt8}
    (sampled : Sampled dma before item read bytes) (same : SameSample before after item) :
    Sampled dma after item read bytes := by
  obtain ⟨instant, device, found, seen, count, contents⟩ := sampled
  refine ⟨instant, device, ?_, getElem?_of_prefix same.history seen, ?_, ?_⟩
  · rw [same.instant, found]
  · rw [same.request, count]
  · rw [same.request, contents]

theorem PathReady.mono {path : DispatchPath Scatter} {todo : List ItemId}
    (ready : PathReady dma before path todo) (same : ∀ item ∈ todo, SameSample before after item) :
    PathReady dma after path todo := by
  cases path with
  | sequential pid =>
      intro item member
      obtain ⟨own, fresh⟩ := ready item member
      rw [(same item member).request, (same item member).instant]
      exact ⟨own, fresh⟩
  | scatter handle =>
      intro item member
      obtain ⟨instant, device, found, seen, result⟩ := ready item member
      refine ⟨instant, device, ?_, getElem?_of_prefix (same item member).history seen, ?_⟩
      · rw [(same item member).instant, found]
      · rw [(same item member).request, result]

theorem Working.mono {dispatcher : Dispatcher Scatter} (working : Working dma before dispatcher)
    (same : ∀ item ∈ dispatcher.todo, SameSample before after item)
    (fillings : after.fillings = before.fillings) : Working dma after dispatcher := by
  cases dispatcher with
  | formed pid batch | preparing pid batch | freeing pid _ _ batch =>
      have ready : PathReady dma before (.sequential pid) batch := working
      exact ready.mono same
  | prepared handle batch =>
      obtain ⟨pid, prepared, ready⟩ := working
      refine ⟨pid, ?_, ready.mono same⟩
      rw [prepared]
      congr 1
      exact List.map_congr_left fun item member => (same item member).request.symm
  | reading path todo =>
      have ready : PathReady dma before path todo := working
      exact ready.mono same
  | filled path item read buffer todo =>
      refine ⟨?_, working.2.mono fun other member => same other (List.mem_cons_of_mem _ member)⟩
      rw [fillings]
      exact working.1.mono (same item List.mem_cons_self)
  | _ => trivial

theorem Working.notified {dispatcher : Dispatcher Scatter}
    (working : Working dma before dispatcher) : Working dma before dispatcher.notified := by
  cases dispatcher with
  | blocked => trivial
  | _ => exact working

theorem Timed.mono {value : ThreadState} (timed : Timed before value)
    (clock : before.past.length ≤ after.past.length) (instants : after.instants = before.instants) :
    Timed after value := by
  cases value with
  | calling start request => exact Nat.lt_of_lt_of_le timed clock
  | reading start request item phase =>
      refine ⟨Nat.lt_of_lt_of_le timed.1 clock, ?_⟩
      rw [instants]
      exact timed.2
  | _ => trivial

/-- What has to be shown of a step: every answer given after it was sampled
before it, unless the step is the sample. -/
theorem Sampling.of_step (sampling : Sampling dma before)
    (history : timeline before <+: timeline after)
    (same : ∀ item, before.instants item ≠ none → SameSample before after item)
    (timed : ∀ thread, Timed after (after.threads thread))
    (bounded : ∀ item instant, after.instants item = some instant → instant < after.past.length)
    (queued : ∀ item, after.batches item = 0 → after.instants item = none)
    (working : Working dma after after.dispatcher)
    (promised : ∀ item read buffer, (after.items item).promise.value = some (read, buffer) →
      Sampled dma before item read (after.fillings buffer))
    (copied : ∀ item, (after.items item).promiseRead = true →
      Sampled dma before item (after.items item).read (after.items item).data)
    (returned : ∀ entry ∈ after.returnedReads, entry ∈ before.returnedReads ∨
      ∃ instant, TakesEffect (timeline after) (readOperation dma entry) instant) :
    Sampling dma after where
  timed := timed
  bounded := bounded
  queued := queued
  working := working
  promised := by
    intro item read buffer value
    have sampled := promised item read buffer value
    obtain ⟨instant, _, found, _⟩ := id sampled
    exact sampled.mono (same item (by rw [found]; simp))
  copied := by
    intro item promiseRead
    have sampled := copied item promiseRead
    obtain ⟨instant, _, found, _⟩ := id sampled
    exact sampled.mono (same item (by rw [found]; simp))
  returned := by
    intro entry member
    rcases returned entry member with earlier | new
    · obtain ⟨instant, taken⟩ := sampling.returned entry earlier
      exact ⟨instant, taken.mono history⟩
    · exact new

def answer (item : BacklogItem Thread) :
    ReadRequest × Option (UInt64 × BufferId) × Bool × UInt64 × List UInt8 :=
  (item.toReadRequest, item.promise.value, item.promiseRead, item.read, item.data)

theorem Sampling.of_quiet (sampling : Sampling dma before)
    (history : timeline before <+: timeline after)
    (clock : before.past.length ≤ after.past.length)
    (instants : after.instants = before.instants) (fillings : after.fillings = before.fillings)
    (items : ∀ item, answer (after.items item) = answer (before.items item))
    (batches : ∀ item, after.batches item = 0 → before.batches item = 0)
    (timed : ∀ thread, Timed after (after.threads thread))
    (working : Working dma before after.dispatcher)
    (returned : ∀ entry ∈ after.returnedReads, entry ∈ before.returnedReads ∨
      ∃ instant, TakesEffect (timeline after) (readOperation dma entry) instant) :
    Sampling dma after := by
  have same (item : ItemId) : SameSample before after item :=
    ⟨history, congrArg Prod.fst (items item), by rw [instants]⟩
  have value (item : ItemId) :
      (after.items item).promise.value = (before.items item).promise.value :=
    congrArg (fun parts => parts.2.1) (items item)
  refine sampling.of_step history (fun item _ => same item) timed ?_ ?_
    (working.mono (fun item _ => same item) fillings) ?_ ?_ returned
  · intro item instant found
    rw [instants] at found
    exact Nat.lt_of_lt_of_le (sampling.bounded item instant found) clock
  · intro item zero
    rw [instants]
    exact sampling.queued item (batches item zero)
  · intro item read buffer set
    rw [fillings]
    exact sampling.promised item read buffer ((value item).symm.trans set)
  · intro item promiseRead
    have whole := items item
    simp only [answer, Prod.mk.injEq] at whole
    obtain ⟨_, _, flag, count, contents⟩ := whole
    rw [count, contents]
    exact sampling.copied item (flag.symm.trans promiseRead)

theorem timeline_getElem?_now (state : MemoryState Thread Device Scatter) :
    (timeline state)[state.past.length]? = some state.device := by
  simp [timeline]

@[simp] theorem resize_promiseBuffer (request : ReadRequest) (result : ReadResult) :
    resize request.size.toNat (promiseBuffer request result) = promiseBuffer request result := by
  have sized : (promiseBuffer request result).length = request.size.toNat := resize_length _ _
  rw [resize, ← sized, List.take_left]

section Step

variable {acted : MemoryState Thread Device Scatter}

theorem history_of_past (past : after.past = before.past ++ [before.device]) :
    timeline before <+: timeline after := by
  refine ⟨[after.device], ?_⟩
  rw [timeline, timeline, past]

theorem history_step : timeline before <+:
    timeline { acted with past := before.past ++ [before.device] } :=
  history_of_past rfl

theorem clock_step : before.past.length < (before.past ++ [before.device]).length := by
  simp

theorem Sampling.timed_update [DecidableEq Thread] (sampling : Sampling dma before)
    {thread : Thread} {value : ThreadState} (clock : before.past.length ≤ after.past.length)
    (instants : after.instants = before.instants) (fact : Timed after value) (other : Thread) :
    Timed after (Function.update before.threads thread value other) := by
  by_cases same : other = thread
  · rw [same, Function.update_self]
    exact fact
  · rw [Function.update_of_ne same]
    exact (sampling.timed other).mono clock instants

theorem Sampling.unsampled_of_find (sampling : Sampling dma before) (queue : Queue before)
    {key : BacklogKey} {item : ItemId} (found : before.backlog.find key = some item) :
    before.instants item = none :=
  sampling.queued item (queue.entry key item found).2.2

theorem Sampling.create [DecidableEq Thread] (sampling : Sampling dma before)
    (queue : Queue before) {thread : Thread} {first : Nat} {request : ReadRequest}
    (calling : before.threads thread = .calling first request) :
    Sampling dma { before with
      backlog := before.backlog.insert request.key before.created
      items := Function.update before.items before.created { request with }
      created := before.created + 1
      dispatcher := before.dispatcher.notified
      threads := Function.update before.threads thread
        (.reading first request before.created .locking)
      past := before.past ++ [before.device] } := by
  have fresh : before.instants before.created = none :=
    sampling.queued _ (queue.unborn _ (Nat.le_refl _)).1
  have called : first < before.past.length := by
    have timed := sampling.timed thread
    rwa [calling] at timed
  have same (item : ItemId) (old : item ≠ before.created) :
      SameSample before { before with
        backlog := before.backlog.insert request.key before.created
        items := Function.update before.items before.created { request with }
        created := before.created + 1
        dispatcher := before.dispatcher.notified
        threads := Function.update before.threads thread
          (.reading first request before.created .locking)
        past := before.past ++ [before.device] } item := by
    refine ⟨history_step, ?_, rfl⟩
    simp only [Function.update_of_ne old]
  refine sampling.of_step history_step (fun item sampled => same item ?_) ?_ ?_ sampling.queued
    ?_ ?_ ?_ fun entry member => Or.inl member
  · intro new
    rw [new, fresh] at sampled
    exact sampled rfl
  · refine sampling.timed_update (Nat.le_of_lt clock_step) rfl ⟨?_, ?_⟩
    · exact Nat.lt_trans called clock_step
    · intro instant sampled
      rw [fresh] at sampled
      simp at sampled
  · intro item instant sampled
    exact Nat.lt_trans (sampling.bounded item instant sampled) clock_step
  · refine sampling.working.notified.mono (fun item member => same item ?_) rfl
    rw [Dispatcher.todo_notified] at member
    exact Nat.ne_of_lt (queue.working item member).1
  · intro item read buffer value
    by_cases new : item = before.created
    · subst new
      simp at value
    · simp only [Function.update_of_ne new] at value
      exact sampling.promised item read buffer value
  · intro item promiseRead
    by_cases new : item = before.created
    · subst new
      simp at promiseRead
    · simp only [Function.update_of_ne new] at promiseRead ⊢
      exact sampling.copied item promiseRead

/-- The reader copies what was sampled, since the buffer is still intact. -/
theorem Sampling.copy [DecidableEq Thread] (sampling : Sampling dma before)
    (handed : HandedOver before) {thread : Thread} {first : Nat} {request : ReadRequest}
    {item : ItemId} {read : UInt64} {buffer : BufferId}
    (copying : before.threads thread = .reading first request item (.copying read buffer)) :
    Sampling dma { before with
      items := Function.update before.items item { before.items item with
        read
        data := resize (before.items item).size.toNat (before.buffers buffer).bytes
        promiseRead := true
        mtx := none }
      threads := Function.update before.threads thread
        (.reading first request item (.returning read))
      past := before.past ++ [before.device] } := by
  obtain ⟨_, _, _, _, value⟩ := handed.served.readers.reader thread _ _ _ _ copying
  have intact := (copiesIntact_of_buffers handed.buffers handed.served.readers
    thread _ _ _ _ _ copying).2
  have timed : Timed before (.reading first request item (.copying read buffer)) := by
    rw [← copying]
    exact sampling.timed thread
  have asks (other : ItemId) := view_update (fun item => (item.toReadRequest, item.promise.value))
    (show (fun item : BacklogItem Thread => (item.toReadRequest, item.promise.value))
      { before.items item with
        read
        data := resize (before.items item).size.toNat (before.buffers buffer).bytes
        promiseRead := true
        mtx := none } = _ from rfl) other
  refine sampling.of_step history_step (fun other _ => ?_) ?_ ?_ sampling.queued ?_ ?_ ?_
    fun entry member => Or.inl member
  · exact ⟨history_step, congrArg Prod.fst (asks other), rfl⟩
  · refine sampling.timed_update (Nat.le_of_lt clock_step) rfl ⟨?_, timed.2⟩
    exact Nat.lt_trans timed.1 clock_step
  · intro other instant found
    exact Nat.lt_trans (sampling.bounded other instant found) clock_step
  · refine sampling.working.mono (fun other _ => ?_) rfl
    exact ⟨history_step, congrArg Prod.fst (asks other), rfl⟩
  · intro other count pointer set
    exact sampling.promised other count pointer ((congrArg Prod.snd (asks other)).symm.trans set)
  · intro other promiseRead
    by_cases here : other = item
    · subst here
      have sampled := sampling.promised other read buffer value
      obtain ⟨instant, device, found, seen, count, contents⟩ := id sampled
      simp only [Function.update_self]
      rw [intact, contents, resize_promiseBuffer, ← contents]
      exact sampled
    · simp only [Function.update_of_ne here] at promiseRead ⊢
      exact sampling.copied other promiseRead

theorem Sampling.setValue (sampling : Sampling dma before) {path : DispatchPath Scatter}
    {item : ItemId} {read : UInt64} {buffer : BufferId} {todo : List ItemId}
    (filled : before.dispatcher = .filled path item read buffer todo) (settings : ItemId → Nat) :
    Sampling dma { before with
      items := Function.update before.items item { before.items item with
        promise := { (before.items item).promise with value := some (read, buffer) } }
      settings := settings
      dispatcher := afterSet item buffer todo path
      past := before.past ++ [before.device] } := by
  have working : Working dma before (.filled path item read buffer todo) := by
    rw [← filled]
    exact sampling.working
  have copied (other : ItemId) := view_update
    (fun item => (item.toReadRequest, item.promiseRead, item.read, item.data))
    (show (fun item : BacklogItem Thread =>
        (item.toReadRequest, item.promiseRead, item.read, item.data))
      { before.items item with
        promise := { (before.items item).promise with value := some (read, buffer) } } = _
      from rfl) other
  have same (other : ItemId) : SameSample before { before with
      items := Function.update before.items item { before.items item with
        promise := { (before.items item).promise with value := some (read, buffer) } }
      settings := settings
      dispatcher := afterSet item buffer todo path
      past := before.past ++ [before.device] } other :=
    ⟨history_step, congrArg Prod.fst (copied other), rfl⟩
  refine sampling.of_step history_step (fun other _ => same other) ?_ ?_ sampling.queued ?_ ?_ ?_
    fun entry member => Or.inl member
  · exact fun thread => (sampling.timed thread).mono (Nat.le_of_lt clock_step) rfl
  · intro other instant found
    exact Nat.lt_trans (sampling.bounded other instant found) clock_step
  · cases path with
    | sequential pid => exact working.2.mono fun other _ => same other
    | scatter handle => exact working.2.mono fun other _ => same other
  · intro other count pointer set
    by_cases here : other = item
    · subst here
      simp only [Function.update_self, Option.some.injEq, Prod.mk.injEq] at set
      rw [← set.1, ← set.2]
      exact working.1
    · simp only [Function.update_of_ne here] at set
      exact sampling.promised other count pointer set
  · intro other promiseRead
    have whole := copied other
    simp only [Prod.mk.injEq] at whole
    obtain ⟨_, flag, count, contents⟩ := whole
    dsimp only at promiseRead ⊢
    rw [count, contents]
    exact sampling.copied other (flag.symm.trans promiseRead)

theorem Sampling.execute (sampling : Sampling dma before) (queue : Queue before)
    (scatters : ScattersRead dma) {handle : Scatter} {batch : List ItemId}
    (prepared : before.dispatcher = .prepared handle batch) :
    Sampling dma { before with
      instants := fun item => if item ∈ batch then some before.past.length
        else before.instants item
      dispatcher := .reading (.scatter (dma.scatterExecute before.device handle)) batch
      past := before.past ++ [before.device] } := by
  have working : Working dma before (.prepared handle batch) := by
    rw [← prepared]
    exact sampling.working
  obtain ⟨pid, ranges, ready⟩ := working
  refine sampling.of_step history_step (fun item sampled => ?_) (fun thread => ?_) ?_ ?_ ?_
    sampling.promised sampling.copied fun entry member => Or.inl member
  · have notIn : item ∉ batch := fun member => sampled (ready item member).2
    refine ⟨history_step, rfl, ?_⟩
    simp only [if_neg notIn]
  · have timed := sampling.timed thread
    cases value : before.threads thread with
    | calling start request =>
        rw [value] at timed
        exact Nat.lt_trans timed clock_step
    | reading start request item phase =>
        rw [value] at timed
        refine ⟨Nat.lt_trans timed.1 clock_step, ?_⟩
        intro instant found
        dsimp only at found
        split at found
        · rw [← Option.some.inj found]
          exact timed.1
        · exact timed.2 instant found
    | _ => trivial
  · intro item instant found
    dsimp only at found
    split at found
    · rw [← Option.some.inj found]
      exact clock_step
    · exact Nat.lt_trans (sampling.bounded item instant found) clock_step
  · intro item zero
    have notIn : item ∉ batch := by
      intro member
      have one := (queue.working item (by rw [prepared]; exact member)).2.1
      have none : before.batches item = 0 := zero
      omega
    simp only [if_neg notIn]
    exact sampling.queued item zero
  · intro item member
    refine ⟨before.past.length, before.device, ?_, ?_, ?_⟩
    · simp only [if_pos member]
    · exact getElem?_of_prefix history_step (timeline_getElem?_now before)
    · rw [ranges]
      exact scatters before.device pid _ _ (List.mem_map_of_mem member) (ready item member).1

/-- A sequential read samples its item now, a scattered one has been sampled. -/
theorem Sampling.fill (sampling : Sampling dma before) (handed : HandedOver before)
    {path : DispatchPath Scatter} {item : ItemId} {todo : List ItemId} {result : ReadResult}
    (reading : before.dispatcher = .reading path (item :: todo))
    (read : result = readPath dma before.device (before.items item).toReadRequest path) :
    Sampling dma { before with
      buffers := Function.update before.buffers before.nextBuffer
        { bytes := promiseBuffer (before.items item).toReadRequest result, allocated := true }
      owners := Function.update before.owners before.nextBuffer item
      fillings := Function.update before.fillings before.nextBuffer
        (promiseBuffer (before.items item).toReadRequest result)
      instants := fillInstants before.instants item before.past.length path
      nextBuffer := before.nextBuffer + 1
      dispatcher := .filled path item result.read.toUInt64 before.nextBuffer todo
      past := before.past ++ [before.device] } := by
  have ready : PathReady dma before path (item :: todo) := by
    have working := sampling.working
    rwa [reading] at working
  have whole : before.dispatcher.todo = item :: todo := by rw [reading]; rfl
  have single : before.batches item = 1 :=
    (handed.served.queue.working item (by rw [whole]; exact List.mem_cons_self)).2.1
  have notIn : item ∉ todo := (List.nodup_cons.mp (whole ▸ handed.served.queue.nodup)).1
  have promised (other : ItemId) (count : UInt64) (pointer : BufferId)
      (set : (before.items other).promise.value = some (count, pointer)) :
      Sampled dma before other count (Function.update before.fillings before.nextBuffer
        (promiseBuffer (before.items item).toReadRequest result) pointer) := by
    have old : pointer ≠ before.nextBuffer :=
      Nat.ne_of_lt (handed.buffers.promised other count pointer set).1
    rw [Function.update_of_ne old]
    exact sampling.promised other count pointer set
  cases path with
  | scatter handle =>
      refine sampling.of_step history_step (fun other _ => ⟨history_step, rfl, rfl⟩)
        (fun thread => (sampling.timed thread).mono (Nat.le_of_lt clock_step) rfl) ?_
        sampling.queued ⟨?_, ?_⟩ promised sampling.copied fun entry member => Or.inl member
      · intro other instant found
        exact Nat.lt_trans (sampling.bounded other instant found) clock_step
      · obtain ⟨instant, device, found, seen, result⟩ := ready item List.mem_cons_self
        refine ⟨instant, device, found, getElem?_of_prefix history_step seen, ?_, ?_⟩
        · rw [read, ← result]
          rfl
        · simp only [Function.update_self]
          rw [read, ← result]
          rfl
      · have rest : PathReady dma before (.scatter handle) todo :=
          fun other member => ready other (List.mem_cons_of_mem _ member)
        exact rest.mono fun other _ => ⟨history_step, rfl, rfl⟩
  | sequential pid =>
      obtain ⟨own, fresh⟩ := ready item List.mem_cons_self
      refine sampling.of_step history_step (fun other sampled => ⟨history_step, rfl, ?_⟩)
        (fun thread => ?_) ?_ ?_ ⟨?_, ?_⟩ promised sampling.copied fun entry member => Or.inl member
      · refine Function.update_of_ne (fun same => ?_) _ _
        rw [same, fresh] at sampled
        exact sampled rfl
      · have timed := sampling.timed thread
        cases value : before.threads thread with
        | calling start request =>
            rw [value] at timed
            exact Nat.lt_trans timed clock_step
        | reading start request other phase =>
            rw [value] at timed
            refine ⟨Nat.lt_trans timed.1 clock_step, fun instant found => ?_⟩
            by_cases same : other = item
            · simp only [fillInstants, same, Function.update_self, Option.some.injEq] at found
              rw [← found]
              exact timed.1
            · simp only [fillInstants, Function.update_of_ne same] at found
              exact timed.2 instant found
        | _ => trivial
      · intro other instant found
        by_cases same : other = item
        · simp only [fillInstants, same, Function.update_self, Option.some.injEq] at found
          rw [← found]
          exact clock_step
        · simp only [fillInstants, Function.update_of_ne same] at found
          exact Nat.lt_trans (sampling.bounded other instant found) clock_step
      · intro other zero
        have none : before.batches other = 0 := zero
        have apart : other ≠ item := by
          intro same
          rw [same] at none
          omega
        simp only [fillInstants, Function.update_of_ne apart]
        exact sampling.queued other none
      · refine ⟨before.past.length, before.device, ?_, ?_, ?_, ?_⟩
        · simp only [fillInstants, Function.update_self]
        · exact getElem?_of_prefix history_step (timeline_getElem?_now before)
        · rw [read, ← own]
          rfl
        · simp only [Function.update_self]
          rw [read, ← own]
          rfl
      · intro other member
        have apart : other ≠ item := fun same => notIn (same ▸ member)
        obtain ⟨sameProcess, unsampled⟩ := ready other (List.mem_cons_of_mem _ member)
        refine ⟨sameProcess, ?_⟩
        simp only [fillInstants, Function.update_of_ne apart]
        exact unsampled

theorem Sampling.dispatch (sampling : Sampling dma before) (working : Working dma before
      acted.dispatcher)
    (instants : acted.instants = before.instants) (fillings : acted.fillings = before.fillings)
    (items : acted.items = before.items) (threads : acted.threads = before.threads)
    (batches : ∀ item, acted.batches item = 0 → before.batches item = 0)
    (returned : acted.returnedReads = before.returnedReads) :
    Sampling dma { acted with past := before.past ++ [before.device] } := by
  refine sampling.of_quiet history_step (Nat.le_of_lt clock_step) instants fillings
    (fun item => ?_) batches (fun thread => ?_) working fun entry member => ?_
  · dsimp only
    rw [items]
  · dsimp only
    rw [threads]
    exact (sampling.timed thread).mono (Nat.le_of_lt clock_step) instants
  · left
    rw [← returned]
    exact member

theorem Sampling.formBatch (sampling : Sampling dma before) (queue : Queue before)
    {first : BacklogEntry} {rest : List BacklogEntry}
    (order : (first :: rest).Perm before.backlog.entries) :
    PathReady dma before (.sequential (before.items first.2).pid)
      ((dispatchBuffer before.items (first :: rest)).map Sigma.snd) := by
  intro item member
  obtain ⟨entry, inBatch, rfl⟩ := List.mem_map.mp member
  have found := find_of_mem_dispatchBuffer order inBatch
  exact ⟨dispatchBuffer_pid inBatch, sampling.unsampled_of_find queue found⟩

theorem Sampling.thread [DecidableEq Thread] (sampling : Sampling dma before) {thread : Thread}
    {value : ThreadState} (threads : acted.threads = Function.update before.threads thread value)
    (fact : Timed { acted with past := before.past ++ [before.device] } value)
    (instants : acted.instants = before.instants) (fillings : acted.fillings = before.fillings)
    (items : ∀ item, answer (acted.items item) = answer (before.items item))
    (batches : acted.batches = before.batches) (dispatcher : acted.dispatcher = before.dispatcher)
    (returned : ∀ entry ∈ acted.returnedReads, entry ∈ before.returnedReads ∨ ∃ instant,
      TakesEffect (timeline { acted with past := before.past ++ [before.device] })
        (readOperation dma entry) instant) :
    Sampling dma { acted with past := before.past ++ [before.device] } := by
  refine sampling.of_quiet history_step (Nat.le_of_lt clock_step) instants fillings items
    (fun item zero => ?_) (fun other => ?_) ?_ returned
  · rw [← batches]
    exact zero
  · have moved : Timed { acted with past := before.past ++ [before.device] }
        (Function.update before.threads thread value other) := by
      refine sampling.timed_update ?_ ?_ fact other
      · exact Nat.le_of_lt clock_step
      · exact instants
    rw [← threads] at moved
    exact moved
  · dsimp only
    rw [dispatcher]
    exact sampling.working

/-- What a reader returns was sampled between its call and its return. -/
theorem Sampling.takesEffect (sampling : Sampling dma before) (readers : Readers before)
    {thread : Thread} {first : Nat} {request : ReadRequest} {item : ItemId} {read : UInt64}
    (returning : before.threads thread = .reading first request item (.returning read)) :
    ∃ instant, TakesEffect (timeline before) (readOperation dma
      { thread, request, item, start := first, finish := before.past.length
        count := read, bytes := (before.items item).data.take read.toNat }) instant := by
  obtain ⟨_, asks, promiseRead, count⟩ := readers.reader thread _ _ _ _ returning
  have timed : Timed before (.reading first request item (.returning read)) := by
    rw [← returning]
    exact sampling.timed thread
  obtain ⟨instant, device, found, seen, result, contents⟩ := sampling.copied item promiseRead
  have bound := sampling.bounded item instant found
  have later : instant + 1 < (timeline before).length := by
    simp only [timeline, List.length_append, List.length_singleton]
    omega
  refine ⟨instant, timed.2 instant found, bound, device, (timeline before)[instant + 1], seen,
    List.getElem?_eq_getElem later, ?_⟩
  change (read, (before.items item).data.take read.toNat) = directRead dma device request
  rw [← count, contents, result, asks]
  rfl

theorem Sampling.step [DecidableEq Thread] (sampling : Sampling dma before)
    (handed : HandedOver before) (scatters : ScattersRead dma) (act : Act dma before event acted) :
    Sampling dma { acted with past := before.past ++ [before.device] } := by
  have stays {thread : Thread} {value : ThreadState} (was : before.threads thread = value) :
      Timed before value := by
    rw [← was]
    exact sampling.timed thread
  have dispatching {dispatcher : Dispatcher Scatter} (was : before.dispatcher = dispatcher) :
      Working dma before dispatcher := by
    rw [← was]
    exact sampling.working
  cases act with
  | callRead request idle =>
      exact sampling.thread rfl clock_step rfl rfl (fun _ => rfl) rfl rfl
        fun entry member => Or.inl member
  | join calling found =>
      refine sampling.thread rfl ⟨?_, fun instant sampled => ?_⟩ rfl rfl (fun _ => rfl) rfl rfl
        fun entry member => Or.inl member
      · exact Nat.lt_trans (stays calling) clock_step
      · have fresh := sampling.unsampled_of_find handed.served.queue found
        dsimp only at sampled
        rw [fresh] at sampled
        simp at sampled
  | create calling missing => exact sampling.create handed.served.queue calling
  | reuse locking unlocked promiseRead =>
      exact sampling.thread rfl ((stays locking).mono (Nat.le_of_lt clock_step) rfl) rfl rfl
        (fun _ => rfl) rfl rfl fun entry member => Or.inl member
  | retrieve locking unlocked unread fresh =>
      exact sampling.thread rfl ((stays locking).mono (Nat.le_of_lt clock_step) rfl) rfl rfl
        (view_update answer rfl) rfl rfl fun entry member => Or.inl member
  | wake waiting set =>
      exact sampling.thread rfl ((stays waiting).mono (Nat.le_of_lt clock_step) rfl) rfl rfl
        (fun _ => rfl) rfl rfl fun entry member => Or.inl member
  | copy copying => exact sampling.copy handed copying
  | returnRead returning =>
      refine sampling.thread rfl trivial rfl rfl (fun _ => rfl) rfl rfl fun entry member => ?_
      rcases List.mem_cons.mp member with new | earlier
      · right
        obtain ⟨instant, taken⟩ := sampling.takesEffect handed.served.readers returning
        rw [new]
        exact ⟨instant, taken.mono history_step⟩
      · exact Or.inl earlier
  | refuse | retrieveTwice | callWrite | acquireWrite | memWrite | returnWrite =>
      exact sampling.thread rfl trivial rfl rfl (fun _ => rfl) rfl rfl
        fun entry member => Or.inl member
  | formBatch pacing order =>
      refine sampling.dispatch ?_ rfl rfl rfl rfl (fun item zero => ?_) rfl
      · exact sampling.formBatch handed.served.queue order
      · exact (Nat.add_eq_zero_iff.mp zero).1
  | @acquire pid batch order formed free perm =>
      have ready : PathReady dma before (.sequential pid) order :=
        fun item member => dispatching formed item (perm.mem_iff.mp member)
      refine sampling.dispatch ?_ rfl rfl rfl rfl (fun _ => id) rfl
      dsimp only
      split <;> exact ready
  | prepare preparing =>
      exact sampling.dispatch ⟨_, rfl, dispatching preparing⟩ rfl rfl rfl rfl (fun _ => id) rfl
  | execute prepared => exact sampling.execute handed.served.queue scatters prepared
  | fill reading read => exact sampling.fill handed reading read
  | setValue filled unset => exact sampling.setValue filled _
  | @memFree pid item buffer todo remains freeing =>
      have ready : PathReady dma before (.sequential pid) todo := dispatching freeing
      exact sampling.dispatch ready rfl rfl rfl rfl (fun _ => id) rfl
  | testStop | testEmpty | waitTest =>
      refine sampling.dispatch ?_ rfl rfl rfl rfl (fun _ => id) rfl
      dsimp only
      split <;> trivial
  | notifyStop =>
      exact sampling.dispatch sampling.working.notified rfl rfl rfl rfl (fun _ => id) rfl
  | wakeSpuriously | setTwice | finish | release =>
      exact sampling.dispatch trivial rfl rfl rfl rfl (fun _ => id) rfl
  | change | setStop =>
      exact sampling.dispatch sampling.working rfl rfl rfl rfl (fun _ => id) rfl

end Step

end CeServer.Memory
