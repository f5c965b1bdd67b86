import Mathlib.Data.List.AList
import Mathlib.Logic.Function.Basic
import CeServer.Library.Decimal
import CeServer.Library.Promise
import CeServer.Snapshots

/-!
`Memory::read`, `Memory::write` and the dispatch loop: any number of threads
share the backlog, one dispatcher serves it from the DMA device.
-/

namespace CeServer

structure ReadRequest where
  pid : Int32
  address : UInt64
  size : UInt64
  deriving DecidableEq

structure WriteRequest where
  pid : Int32
  address : UInt64
  bytes : List UInt8
  deriving DecidableEq

abbrev BacklogKey := List Char

def ReadRequest.key (request : ReadRequest) : BacklogKey :=
  Decimal.join ':' [request.pid.toInt, request.address.toNat, request.size.toNat]

theorem ReadRequest.key_injective {first second : ReadRequest} (same : first.key = second.key) :
    first = second := by
  have noDigit : ':'.isDigit = false := by decide
  have parts := Decimal.join_injective noDigit (by decide) (by simp) same
  simp only [List.cons.injEq, Int.natCast_inj, and_true] at parts
  obtain ⟨pid, address, size⟩ := parts
  cases first
  cases second
  simp only [ReadRequest.mk.injEq]
  exact ⟨Int32.toInt_inj.mp pid, UInt64.toNat_inj.mp address, UInt64.toNat_inj.mp size⟩

/-- What a device read leaves: the count and the bytes at the front of the
buffer. Whether it succeeded only decides a log line. -/
structure ReadResult where
  read : UInt32
  bytes : List UInt8
  deriving DecidableEq

/-- The calls on the DMA library. A device is what the calls depend on: the
memory of every process and whatever lets a call fail. -/
structure Dma (Device Scatter : Type) where
  memReadEx : Device → Int32 → UInt64 → UInt32 → ReadResult
  memWrite : Device → Int32 → UInt64 → List UInt8 → Bool × Device
  scatterInitialize : Int32 → Scatter
  scatterPrepare : Scatter → UInt64 → UInt32 → Scatter
  scatterExecute : Device → Scatter → Scatter
  scatterRead : Scatter → UInt64 → UInt32 → ReadResult
  /-- Does `VMMDLL_MemFree` release the memory it is given? -/
  memFreeReleases : Bool

abbrev ItemId := Nat
abbrev BufferId := Nat

/-- `mtx` is held by a thread; the array `data` points to is indeterminate
until the first `get` has filled it. -/
structure BacklogItem (Thread : Type) extends ReadRequest where
  promiseRead : Bool := false
  read : UInt64 := 0
  data : List UInt8 := []
  mtx : Option Thread := none
  promise : Promise (UInt64 × BufferId) := {}

abbrev Backlog := AList fun _ : BacklogKey => ItemId
abbrev BacklogEntry := Sigma fun _ : BacklogKey => ItemId

def Backlog.find (backlog : Backlog) (key : BacklogKey) : Option ItemId := backlog.lookup key

structure Buffer where
  bytes : List UInt8 := []
  allocated : Bool := false
  deriving DecidableEq

inductive GetPhase
  | locking
  | waiting
  | copying (read : UInt64) (buffer : BufferId)
  | returning (read : UInt64)
  deriving DecidableEq

/-- `start` is the step at which the call was made. -/
inductive ThreadState
  | idle
  | calling (start : Nat) (request : ReadRequest)
  | reading (start : Nat) (request : ReadRequest) (item : ItemId) (phase : GetPhase)
  | writing (start : Nat) (request : WriteRequest)
  | acquired (start : Nat) (request : WriteRequest)
  | written (start : Nat) (request : WriteRequest) (effect : Nat) (success : Bool)
  | threw
  deriving DecidableEq

inductive DispatchPath (Scatter : Type)
  | sequential (pid : Int32)
  | scatter (handle : Scatter)

inductive Dispatcher (Scatter : Type)
  | test
  | entered
  | waitTest
  | blocked
  | pacing
  | formed (pid : Int32) (batch : List ItemId)
  | preparing (pid : Int32) (batch : List ItemId)
  | prepared (handle : Scatter) (batch : List ItemId)
  | reading (path : DispatchPath Scatter) (todo : List ItemId)
  | filled (path : DispatchPath Scatter) (item : ItemId) (read : UInt64) (buffer : BufferId)
      (todo : List ItemId)
  | freeing (pid : Int32) (item : ItemId) (buffer : BufferId) (todo : List ItemId)
  | dispatched
  | stopped

namespace Dispatcher

variable {Scatter : Type}

def todo : Dispatcher Scatter → List ItemId
  | formed _ batch | preparing _ batch | prepared _ batch => batch
  | reading _ todo | freeing _ _ _ todo => todo
  | filled _ item _ _ todo => item :: todo
  | _ => []

def notified : Dispatcher Scatter → Dispatcher Scatter
  | blocked => waitTest
  | dispatcher => dispatcher

@[simp] theorem todo_notified (dispatcher : Dispatcher Scatter) :
    dispatcher.notified.todo = dispatcher.todo := by
  cases dispatcher <;> rfl

theorem notified_eq_filled {dispatcher : Dispatcher Scatter} {path : DispatchPath Scatter}
    {item : ItemId} {read : UInt64} {buffer : BufferId} {rest : List ItemId} :
    dispatcher.notified = .filled path item read buffer rest ↔
      dispatcher = .filled path item read buffer rest := by
  cases dispatcher <;> simp [notified]

theorem notified_eq_freeing {dispatcher : Dispatcher Scatter} {pid : Int32} {item : ItemId}
    {buffer : BufferId} {rest : List ItemId} :
    dispatcher.notified = .freeing pid item buffer rest ↔
      dispatcher = .freeing pid item buffer rest := by
  cases dispatcher <;> simp [notified]

end Dispatcher

structure ReturnedRead (Thread : Type) where
  thread : Thread
  request : ReadRequest
  item : ItemId
  start : Nat
  finish : Nat
  count : UInt64
  bytes : List UInt8

structure ReturnedWrite (Thread : Type) where
  thread : Thread
  request : WriteRequest
  start : Nat
  effect : Nat
  finish : Nat
  result : UInt64

structure MemoryState (Thread Device Scatter : Type) where
  device : Device
  semFree : Bool := true
  /-- An exception in `read` has left `mtx` locked. -/
  mtxAbandoned : Bool := false
  bStop : Bool := false
  backlog : Backlog := ∅
  items : ItemId → BacklogItem Thread := fun _ => { pid := 0, address := 0, size := 0 }
  created : Nat := 0
  buffers : BufferId → Buffer := fun _ => {}
  nextBuffer : Nat := 0
  dispatcher : Dispatcher Scatter := .test
  threads : Thread → ThreadState := fun _ => .idle
  -- history: no step reads what follows
  thrown : Bool := false
  past : List Device := []
  batches : ItemId → Nat := fun _ => 0
  settings : ItemId → Nat := fun _ => 0
  futures : ItemId → Nat := fun _ => 0
  instants : ItemId → Option Nat := fun _ => none
  owners : BufferId → ItemId := fun _ => 0
  fillings : BufferId → List UInt8 := fun _ => []
  returnedReads : List (ReturnedRead Thread) := []
  returnedWrites : List (ReturnedWrite Thread) := []

inductive MemoryEvent (Thread Device : Type)
  | callRead (thread : Thread) (request : ReadRequest)
  | enqueue (thread : Thread)
  | refuse (thread : Thread)
  | lockItem (thread : Thread)
  | wake (thread : Thread)
  | copy (thread : Thread)
  | returnRead (thread : Thread)
  | callWrite (thread : Thread) (request : WriteRequest)
  | acquireWrite (thread : Thread)
  | memWrite (thread : Thread)
  | returnWrite (thread : Thread)
  | testStop
  | testEmpty
  | waitTest
  | wakeSpuriously
  | formBatch (order : List BacklogEntry)
  | acquire (order : List ItemId)
  | prepare
  | execute
  | fill
  | setValue
  | memFree (remains : List UInt8)
  | finish
  | release
  | change (device : Device)
  | setStop
  | notifyStop

namespace Memory

def MAX_DISPATCH_SIZE : Nat := 256

def MAX_BYTES_PER_DISPATCH : UInt64 := 1000000000

def SCATTER_READ_THRESHOLD : Nat := 1

variable {Thread Device Scatter : Type}

/-- The loop of `dispatchLoop` over the rest of the backlog, with the pid, the
bytes requested so far and the size of the dispatch buffer. -/
def takeBatch (items : ItemId → BacklogItem Thread) (pid : Int32) :
    UInt64 → Nat → List BacklogEntry → List BacklogEntry
  | _, _, [] => []
  | requestedSoFar, taken, entry :: rest =>
      if (items entry.2).pid ≠ pid then takeBatch items pid requestedSoFar taken rest
      else if requestedSoFar + (items entry.2).size ≥ MAX_BYTES_PER_DISPATCH then []
      else entry ::
        if taken + 1 ≥ MAX_DISPATCH_SIZE then []
        else takeBatch items pid (requestedSoFar + (items entry.2).size) (taken + 1) rest

def dispatchBuffer (items : ItemId → BacklogItem Thread) : List BacklogEntry → List BacklogEntry
  | [] => []
  | first :: rest => takeBatch items (items first.2).pid 0 0 (first :: rest)

def eraseBatch (batch : List BacklogEntry) (backlog : Backlog) : Backlog :=
  batch.foldl (fun backlog entry => backlog.erase entry.1) backlog

def scatterPrepareAll (dma : Dma Device Scatter) (handle : Scatter) (ranges : List ReadRequest) :
    Scatter :=
  ranges.foldl (fun handle range => dma.scatterPrepare handle range.address range.size.toUInt32)
    handle

def readPath (dma : Dma Device Scatter) (device : Device) (request : ReadRequest) :
    DispatchPath Scatter → ReadResult
  | .sequential pid => dma.memReadEx device pid request.address request.size.toUInt32
  | .scatter handle => dma.scatterRead handle request.address request.size.toUInt32

def promiseBuffer (request : ReadRequest) (result : ReadResult) : List UInt8 :=
  resize request.size.toNat result.bytes

/-- A sequential read happens when its buffer is filled, a scatter read when the
whole batch is executed. -/
def fillInstants (instants : ItemId → Option Nat) (item : ItemId) (now : Nat) :
    DispatchPath Scatter → ItemId → Option Nat
  | .sequential _ => Function.update instants item (some now)
  | .scatter _ => instants

def afterSet (item : ItemId) (buffer : BufferId) (todo : List ItemId) :
    DispatchPath Scatter → Dispatcher Scatter
  | .sequential pid => .freeing pid item buffer todo
  | .scatter handle => .reading (.scatter handle) todo

/-- `Memory::write` reports a failure as `(size_t) -1`. -/
def writeResult (request : WriteRequest) (success : Bool) : UInt64 :=
  if success then UInt64.ofNat request.bytes.length else -1

def memWrite (dma : Dma Device Scatter) (device : Device) (request : WriteRequest) :
    Bool × Device :=
  let size := (UInt64.ofNat request.bytes.length).toUInt32
  dma.memWrite device request.pid request.address (request.bytes.take size.toNat)

section Steps

variable [DecidableEq Thread]

def readStep (state : MemoryState Thread Device Scatter) :
    MemoryEvent Thread Device → Option (MemoryState Thread Device Scatter)
  | .callRead thread request =>
      match state.threads thread with
      | .idle => some { state with
          threads := Function.update state.threads thread (.calling state.past.length request) }
      | _ => none
  | .enqueue thread =>
      match state.threads thread, state.mtxAbandoned with
      | .calling start request, false =>
          match state.backlog.find request.key with
          | some item => some { state with
              threads := Function.update state.threads thread
                (.reading start request item .locking) }
          | none =>
              -- `new char[size]` throws for more than PTRDIFF_MAX bytes
              if request.size ≥ 0x8000000000000000 then none
              else some { state with
                backlog := state.backlog.insert request.key state.created
                items := Function.update state.items state.created { request with }
                created := state.created + 1
                dispatcher := state.dispatcher.notified
                threads := Function.update state.threads thread
                  (.reading start request state.created .locking) }
      | _, _ => none
  | .refuse thread =>
      match state.threads thread, state.mtxAbandoned with
      | .calling _ request, false =>
          match state.backlog.find request.key with
          | some _ => none
          | none => some { state with
              mtxAbandoned := true
              threads := Function.update state.threads thread .threw }
      | _, _ => none
  | .lockItem thread =>
      match state.threads thread with
      | .reading start request item .locking =>
          match (state.items item).mtx with
          | some _ => none
          | none =>
              if (state.items item).promiseRead then some { state with
                threads := Function.update state.threads thread
                  (.reading start request item (.returning (state.items item).read)) }
              else match (state.items item).promise.getFuture with
                | none => some { state with
                    thrown := true
                    threads := Function.update state.threads thread .threw }
                | some promise => some { state with
                    items := Function.update state.items item
                      { state.items item with mtx := some thread, promise }
                    futures := Function.update state.futures item (state.futures item + 1)
                    threads := Function.update state.threads thread
                      (.reading start request item .waiting) }
      | _ => none
  | .wake thread =>
      match state.threads thread with
      | .reading start request item .waiting =>
          match (state.items item).promise.value with
          | none => none
          | some (read, buffer) => some { state with
              threads := Function.update state.threads thread
                (.reading start request item (.copying read buffer)) }
      | _ => none
  | .copy thread =>
      match state.threads thread with
      | .reading start request item (.copying read buffer) => some { state with
          items := Function.update state.items item { state.items item with
            read
            data := resize (state.items item).size.toNat (state.buffers buffer).bytes
            promiseRead := true
            mtx := none }
          threads := Function.update state.threads thread
            (.reading start request item (.returning read)) }
      | _ => none
  | .returnRead thread =>
      match state.threads thread with
      | .reading start request item (.returning read) => some { state with
          threads := Function.update state.threads thread .idle
          returnedReads := { thread, request, item, start, finish := state.past.length
                             count := read, bytes := (state.items item).data.take read.toNat } ::
            state.returnedReads }
      | _ => none
  | _ => none

def writeStep (dma : Dma Device Scatter) (state : MemoryState Thread Device Scatter) :
    MemoryEvent Thread Device → Option (MemoryState Thread Device Scatter)
  | .callWrite thread request =>
      match state.threads thread with
      | .idle => some { state with
          threads := Function.update state.threads thread (.writing state.past.length request) }
      | _ => none
  | .acquireWrite thread =>
      match state.threads thread, state.semFree with
      | .writing start request, true => some { state with
          semFree := false
          threads := Function.update state.threads thread (.acquired start request) }
      | _, _ => none
  | .memWrite thread =>
      match state.threads thread with
      | .acquired start request => some { state with
          device := (memWrite dma state.device request).2
          threads := Function.update state.threads thread
            (.written start request state.past.length (memWrite dma state.device request).1) }
      | _ => none
  | .returnWrite thread =>
      match state.threads thread with
      | .written start request effect success => some { state with
          semFree := true
          threads := Function.update state.threads thread .idle
          returnedWrites := { thread, request, start, effect, finish := state.past.length
                              result := writeResult request success } :: state.returnedWrites }
      | _ => none
  | _ => none

/-- The steps of `dispatchLoop` and of `dispatch`. The loop waits for the task it
starts, so there is one batch at a time. -/
def dispatchStep (dma : Dma Device Scatter) (state : MemoryState Thread Device Scatter) :
    MemoryEvent Thread Device → Option (MemoryState Thread Device Scatter)
  | .testStop =>
      match state.dispatcher with
      | .test => some { state with dispatcher := if state.bStop then .stopped else .entered }
      | _ => none
  | .testEmpty =>
      match state.dispatcher, state.mtxAbandoned with
      | .entered, false => some { state with
          dispatcher := if state.backlog.entries.isEmpty then .waitTest else .pacing }
      | _, _ => none
  | .waitTest =>
      match state.dispatcher, state.mtxAbandoned with
      | .waitTest, false => some { state with
          dispatcher := if state.bStop || !state.backlog.entries.isEmpty then .test else .blocked }
      | _, _ => none
  | .wakeSpuriously =>
      match state.dispatcher with
      | .blocked => some { state with dispatcher := .waitTest }
      | _ => none
  | .formBatch order =>
      match state.dispatcher, state.mtxAbandoned, order with
      | .pacing, false, first :: rest =>
          if (first :: rest).Perm state.backlog.entries then
            let batch := dispatchBuffer state.items (first :: rest)
            let items := batch.map Sigma.snd
            some { state with
              backlog := eraseBatch batch state.backlog
              batches := fun item => state.batches item + items.count item
              dispatcher := .formed (state.items first.2).pid items }
          else none
      | _, _, _ => none
  | .acquire order =>
      match state.dispatcher, state.semFree with
      | .formed pid batch, true =>
          if order.Perm batch then some { state with
            semFree := false
            dispatcher := if batch.length ≤ SCATTER_READ_THRESHOLD
              then .reading (.sequential pid) order else .preparing pid order }
          else none
      | _, _ => none
  | .prepare =>
      match state.dispatcher with
      | .preparing pid batch => some { state with
          dispatcher := .prepared (scatterPrepareAll dma (dma.scatterInitialize pid)
            (batch.map fun item => (state.items item).toReadRequest)) batch }
      | _ => none
  | .execute =>
      match state.dispatcher with
      | .prepared handle batch => some { state with
          instants := fun item => if item ∈ batch then some state.past.length
            else state.instants item
          dispatcher := .reading (.scatter (dma.scatterExecute state.device handle)) batch }
      | _ => none
  | .fill =>
      match state.dispatcher with
      | .reading path (item :: todo) =>
          let request := (state.items item).toReadRequest
          let result := readPath dma state.device request path
          some { state with
            buffers := Function.update state.buffers state.nextBuffer
              { bytes := promiseBuffer request result, allocated := true }
            owners := Function.update state.owners state.nextBuffer item
            fillings := Function.update state.fillings state.nextBuffer
              (promiseBuffer request result)
            instants := fillInstants state.instants item state.past.length path
            nextBuffer := state.nextBuffer + 1
            dispatcher := .filled path item result.read.toUInt64 state.nextBuffer todo }
      | _ => none
  | .setValue =>
      match state.dispatcher with
      | .filled path item read buffer todo =>
          match (state.items item).promise.setValue (read, buffer) with
          -- the task ends with an exception nobody looks at, the semaphore stays taken
          | none => some { state with thrown := true, dispatcher := .test }
          | some promise => some { state with
              items := Function.update state.items item { state.items item with promise }
              settings := Function.update state.settings item (state.settings item + 1)
              dispatcher := afterSet item buffer todo path }
      | _ => none
  | .memFree remains =>
      match state.dispatcher with
      | .freeing pid _ buffer todo => some { state with
          buffers := if dma.memFreeReleases
            then Function.update state.buffers buffer { bytes := remains, allocated := false }
            else state.buffers
          dispatcher := .reading (.sequential pid) todo }
      | _ => none
  | .finish =>
      match state.dispatcher with
      | .reading _ [] => some { state with dispatcher := .dispatched }
      | _ => none
  | .release =>
      match state.dispatcher with
      | .dispatched => some { state with semFree := true, dispatcher := .test }
      | _ => none
  | _ => none

def step (dma : Dma Device Scatter) (state : MemoryState Thread Device Scatter)
    (event : MemoryEvent Thread Device) : Option (MemoryState Thread Device Scatter) :=
  match event with
  | .callRead .. | .enqueue _ | .refuse _ | .lockItem _ | .wake _ | .copy _ | .returnRead _ =>
      readStep state event
  | .callWrite .. | .acquireWrite _ | .memWrite _ | .returnWrite _ => writeStep dma state event
  -- the device changes by itself whenever the target machine runs
  | .change device => some { state with device }
  | .setStop => some { state with bStop := true }
  | .notifyStop => some { state with dispatcher := state.dispatcher.notified }
  | _ => dispatchStep dma state event

def next (dma : Dma Device Scatter) (state : MemoryState Thread Device Scatter)
    (event : MemoryEvent Thread Device) : Option (MemoryState Thread Device Scatter) :=
  (step dma state event).map fun after => { after with past := state.past ++ [state.device] }

end Steps

def flatMemory : Dma (List UInt8) (List UInt8) where
  memReadEx device _ address size :=
    let bytes := (device.drop address.toNat).take size.toNat
    { read := UInt32.ofNat bytes.length, bytes }
  memWrite device _ address bytes :=
    (true, device.take address.toNat ++ bytes ++ device.drop (address.toNat + bytes.length))
  scatterInitialize _ := []
  scatterPrepare handle _ _ := handle
  scatterExecute device _ := device
  scatterRead handle address size :=
    let bytes := (handle.drop address.toNat).take size.toNat
    { read := UInt32.ofNat bytes.length, bytes }
  memFreeReleases := true

end Memory

end CeServer
