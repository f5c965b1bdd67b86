import CeServer.Memory
import CeServer.TargetWrites
import CeServer.Replies

/-!
WRITEPROCESSMEMORY over `Memory::write` and its device: what is written, what
the client is told and whether the connection stays open.
-/

namespace CeServer

open LittleEndian Interaction

variable {Outside Device Scatter : Type}

/-- The environment with a DMA device that `Memory::write` writes to. -/
def Environment.withDevice (env : Environment Outside) (dma : Dma Device Scatter) :
    Environment (Device × Outside) where
  respond
    | .memoryWrite processID address bytes, (device, outside) =>
        let (success, device) := Memory.memWrite dma device ⟨processID, address, bytes⟩
        (Memory.writeResult ⟨processID, address, bytes⟩ success, (device, outside))
    | op, (device, outside) =>
        let (response, outside) := env.respond op outside
        (response, (device, outside))
  firstEntry outside := env.firstEntry outside.2

def Op.written? : Op → Option WriteRequest
  | .memoryWrite processID address bytes => some ⟨processID, address, bytes⟩
  | _ => none

def written (trace : List (Event Op Op.Response)) : List WriteRequest :=
  trace.filterMap fun event => event.op.written?

theorem written_effects (trace : List (Event Op Op.Response)) :
    written (effects trace) = written trace := by
  simp only [written, effects, List.filterMap_filter]
  congr 1
  funext event
  obtain ⟨op, response⟩ := event
  cases op <;> rfl

/-- One call of `memory->write`, and a reply that tells its outcome. -/
structure ReportsWrite (request : WriteRequest) (success : Bool) (state : ClientState)
    (outcome : Outcome Op Op.Response (World Outside) Bool) : Prop where
  written : written outcome.trace = [request]
  reply : sent outcome.trace =
    Word.toBytes (if success then Int32.ofNat request.bytes.length else 0)
  keeps : outcome.value = some success
  state : outcome.world.state = state

section Results

variable {length : Nat}

theorem toInt32_written : (UInt64.ofNat length).toUInt32.toInt32 = Int32.ofNat length := by
  rw [UInt64.toUInt32_ofNat', UInt32.toInt32_ofNat']

theorem size_of_length (bounded : length < 2 ^ 31) :
    (Int32.ofNat length).toInt64.toUInt64 = UInt64.ofNat length := by
  have fits : (length : Int) ≤ Int32.maxValue.toInt := by
    have value : Int32.maxValue.toInt = 2 ^ 31 - 1 := by decide
    omega
  rw [Int32.toInt64_ofNat' (by exact_mod_cast fits), Int64.toUInt64_ofNat']

end Results

section OpenStreams

variable {env : Environment Outside} {closed : Bool} {Value : Type}

/-- A receive with MSG_WAITALL returns once its bytes are there or the peer has
closed. One of no bytes waits for a byte as well. -/
def Arrived (closed : Bool) (size : Nat) (world : World Outside) : Prop :=
  closed = true ∨ size ≤ world.input.length ∧ world.input ≠ []

instance (size : Nat) (world : World Outside) : Decidable (Arrived closed size world) :=
  inferInstanceAs (Decidable (_ ∨ _ ∧ _))

/-- The peer sends nothing behind the stream and has closed or not; `none` is
also a receive that does not return. -/
def answerOpen (closed : Bool) (env : Environment Outside) :
    (op : Op) → World Outside → Option (op.Response × World Outside)
  | .recv size, world => if Arrived closed size world then answer env (.recv size) world else none
  | op, world => answer env op world

def serveOpen (closed : Bool) (env : Environment Outside) (request : Request)
    (world : World Outside) : Outcome Op Op.Response (World Outside) Bool :=
  (Client.dispatchCommand request.command.code).run (answerOpen closed env)
    { world with input := request.payload ++ world.input }

theorem arrived_of_bytes {size : Nat} {world : World Outside} {bytes rest : List UInt8}
    (front : world.input = bytes ++ rest) (length : bytes.length = size) (some : 0 < size) :
    Arrived closed size world := by
  refine Or.inr ⟨?_, fun empty => ?_⟩
  · rw [front, List.length_append, length]
    exact Nat.le_add_right _ _
  · have none := (List.append_eq_nil_iff.mp (front.symm.trans empty)).1
    rw [← length, none] at some
    exact Nat.lt_irrefl _ some

theorem answerOpen_recv {size : Nat} {world : World Outside} (arrived : Arrived closed size world) :
    answerOpen closed env (.recv size) world = answer env (.recv size) world := by
  rw [answerOpen, if_pos arrived]

theorem open_read (T : Type) [Word T] (rest : T → Handler Value) {world : World Outside}
    (arrived : Arrived closed (Word.width T) world) :
    (read T >>= rest).run (answerOpen closed env) world =
      ((rest (Word.ofBytes (world.input.take (Word.width T)))).run (answerOpen closed env)
        { world with input := world.input.drop (Word.width T) }).after
        [⟨.recv (Word.width T), (LinuxSocketWrapper.recv (Word.width T) world).1⟩] := by
  simp only [read, invoke, Program.call_bind, Program.ret_bind, Program.pure_eq]
  rw [Program.run_call_of_answer (LinuxSocketWrapper.recv (Word.width T) world).1
    (LinuxSocketWrapper.recv (Word.width T) world).2 ((answerOpen_recv arrived).trans rfl)]
  rfl

/-- A typed field that has arrived is read on an open stream as on any other. -/
theorem open_read_complete {T : Type} [Word T] (value : T) (stream : List UInt8)
    (rest : T → Handler Value) (world : World Outside) (some : 0 < Word.width T) :
    (read T >>= rest).run (answerOpen closed env)
        { world with input := Word.toBytes value ++ stream } =
      ((rest value).run (answerOpen closed env) { world with input := stream }).after
        [⟨.recv (Word.width T), (LinuxSocketWrapper.recv (Word.width T)
          { world with input := Word.toBytes value ++ stream }).1⟩] := by
  rw [open_read T rest (arrived_of_bytes rfl (Word.length_toBytes value) some)]
  simp only [take_toBytes, drop_toBytes, Word.ofBytes_toBytes]

theorem open_readBuffer (buffer : List UInt8) (size : Nat) (rest : List UInt8 → Handler Value)
    (world : World Outside) :
    (readBuffer buffer size >>= rest).run (answerOpen closed env) world =
      if Arrived closed size world then
        ((rest (world.input.take size ++ buffer.drop (world.input.take size).length)).run
          (answerOpen closed env) { world with input := world.input.drop size }).after
          [⟨.recv size, (LinuxSocketWrapper.recv size world).1⟩]
      else ⟨world, [], none⟩ := by
  simp only [readBuffer, invoke, Program.call_bind, Program.ret_bind, Program.pure_eq]
  split
  · rename_i arrived
    rw [Program.run_call_of_answer (LinuxSocketWrapper.recv size world).1
      (LinuxSocketWrapper.recv size world).2 ((answerOpen_recv arrived).trans rfl)]
    rfl
  · rename_i waits
    exact Program.run_call_of_throw (by rw [answerOpen, if_neg waits]) _

theorem answerOpen_closed : answerOpen true env = answer env := by
  funext op world
  cases op with
  | recv size => rw [answerOpen, if_pos (show Arrived true size world from Or.inl rfl)]
  | _ => rfl

/-- A payload without bytes is received once another byte or the close follows. -/
def PayloadReceived (closed : Bool) (contents : List UInt8) (world : World Outside) : Prop :=
  contents ≠ [] ∨ world.input ≠ [] ∨ closed = true

theorem arrived_payload_iff {contents : List UInt8} {world : World Outside} :
    Arrived closed contents.length { world with input := contents ++ world.input } ↔
      PayloadReceived closed contents world := by
  unfold Arrived PayloadReceived
  cases contents <;> cases world.input <;> cases closed <;> simp

/-- Behind its payload a handler makes no receive, so it does not matter whether
the stream is closed. -/
theorem open_payload {size : Int} (nonneg : 0 ≤ size) (count : Nat)
    {rest : List UInt8 → Handler Value} (serves : ∀ buffer, (rest buffer).Uses Op.Serves)
    (world : World Outside) :
    let handler : Handler Value := do
      let buffer ← invoke (.newCharArray size)
      let buffer ← readBuffer buffer count
      rest buffer
    (Arrived closed count world →
        handler.run (answerOpen closed env) world = handler.run (answerOpen true env) world) ∧
      (¬Arrived closed count world →
        (handler.run (answerOpen closed env) world).value = none) := by
  let allocated := env.respond (.newCharArray size) world.outside
  let later : World Outside := { world with outside := allocated.2 }
  have made (closed : Bool) : answerOpen closed env (.newCharArray size) world =
      some (resize size.toNat allocated.1, later) := by
    simp only [answerOpen, answer, if_neg (Int.not_lt.mpr nonneg)]
    rfl
  have alike (op : Op) (served : op.Serves) (world : World Outside) :
      answerOpen closed env op world = answerOpen true env op world := by
    cases op with
    | recv size => exact absurd served id
    | _ => rfl
  simp only [invoke, Program.call_bind, Program.ret_bind]
  rw [Program.run_call_of_answer _ _ (made closed), Program.run_call_of_answer _ _ (made true),
    open_readBuffer, open_readBuffer, if_pos (show Arrived true count later from Or.inl rfl)]
  constructor
  · intro arrived
    rw [if_pos (show Arrived closed count later from arrived), (serves _).run_congr alike]
  · intro waits
    rw [if_neg (show ¬Arrived closed count later from waits)]
    rfl

theorem serveOpen_writeProcessMemory (closed : Bool) (env : Environment Outside)
    (handle : CE_HANDLE) (address : UInt64) (contents : Body (2 ^ 31)) (world : World Outside) :
    (PayloadReceived closed contents.val world →
        serveOpen closed env (.writeProcessMemory handle address contents) world =
          serve env (.writeProcessMemory handle address contents) world) ∧
      (¬PayloadReceived closed contents.val world →
        (serveOpen closed env (.writeProcessMemory handle address contents) world).value =
          none) := by
  have length := Int32.toInt_ofNat_of_lt contents.property
  have whole : serve env (.writeProcessMemory handle address contents) world =
      serveOpen true env (.writeProcessMemory handle address contents) world := by
    rw [serve, serveOpen, answerOpen_closed]
  rw [whole]
  simp only [serveOpen, Request.command, Client.dispatchCommand_code, Client.handle,
    Client.handleCommandWriteProcessMemory, Request.payload, List.append_assoc]
  simp only [open_read_complete _ _ _ world (show 0 < Word.width CE_HANDLE by decide),
    open_read_complete _ _ _ world (show 0 < Word.width UInt64 by decide), length,
    Outcome.after_value, Int.toNat_natCast]
  have serves (buffer : List UInt8) := (Client.writeProcessMemory_stays
    (covers_within fun _ => serves_of_madeBy) handle address (Int32.ofNat contents.val.length)
    buffer).uses
  obtain ⟨received, waits⟩ := open_payload (Int.natCast_nonneg contents.val.length)
    contents.val.length serves { world with input := contents.val ++ world.input }
  rw [length]
  constructor
  · intro arrived
    rw [received (arrived_payload_iff.mpr arrived)]
  · intro unreceived
    exact waits fun arrived => unreceived (arrived_payload_iff.mp arrived)

end OpenStreams

section Serving

variable {handle : CE_HANDLE} {world : World (Device × Outside)}

/-- The comparison `written < 0` is one of unsigned numbers and never holds. -/
theorem run_writeProcessMemory (env : Environment Outside) (dma : Dma Device Scatter)
    (address : UInt64) (size : Int32) (bytes : List UInt8)
    (opened : handle ∈ world.state.handlesToProcessIDs) :
    let request : WriteRequest := ⟨world.state.getProcessID handle, address, bytes⟩
    let result := Memory.writeResult request (Memory.memWrite dma world.outside.1 request).1
    let outcome := (Client.writeProcessMemory handle address size bytes).run
      (answer (env.withDevice dma)) world
    written outcome.trace = [request] ∧
      sent outcome.trace = Word.toBytes result.toUInt32.toInt32 ∧
      outcome.value = some (result == size.toInt64.toUInt64) ∧
      outcome.world.state = world.state := by
  intro request result outcome
  let device := (Memory.memWrite dma world.outside.1 request).2
  let later : World (Device × Outside) := { world with outside := (device, world.outside.2) }
  have present : world.state.containsProcessIDHandle handle = true := decide_eq_true opened
  have unsigned : ¬result < 0 := UInt64.not_lt_zero
  have made : answer (env.withDevice dma)
      (.memoryWrite (world.state.getProcessID handle) address bytes) world =
        some (result, later) := rfl
  let reply := Word.toBytes result.toUInt32.toInt32
  let replied := (env.withDevice dma).respond (.send reply) later.outside
  have run : outcome = ⟨{ later with
        output := later.output ++ reply.take replied.1.toNat, outside := replied.2 },
      [⟨.state (.containsProcessIDHandle handle), true⟩,
        ⟨.state (.getProcessID handle), world.state.getProcessID handle⟩,
        ⟨.memoryWrite (world.state.getProcessID handle) address bytes, result⟩,
        ⟨.send reply, replied.1⟩],
      some (result == size.toInt64.toUInt64)⟩ := by
    simp only [outcome, Client.writeProcessMemory, invoke, Program.call_bind, Program.ret_bind]
    rw [Program.run_call_of_answer (world.state.containsProcessIDHandle handle) world rfl, present]
    simp only [Bool.not_true, Bool.false_eq_true, if_false]
    rw [Program.run_call_of_answer (world.state.getProcessID handle) world rfl,
      Program.run_call_of_answer result later made, if_neg unsigned]
    rfl
  rw [run]
  exact ⟨rfl, List.append_nil _, rfl, rfl⟩

theorem serve_writeProcessMemory (env : Environment Outside) (dma : Dma Device Scatter)
    (address : UInt64) (contents : Body (2 ^ 31))
    (opened : handle ∈ world.state.handlesToProcessIDs) :
    let request : WriteRequest := ⟨world.state.getProcessID handle, address, contents.val⟩
    let result := Memory.writeResult request (Memory.memWrite dma world.outside.1 request).1
    let outcome := serve (env.withDevice dma) (.writeProcessMemory handle address contents) world
    written outcome.trace = [request] ∧
      sent outcome.trace = Word.toBytes result.toUInt32.toInt32 ∧
      outcome.value = some (result == UInt64.ofNat contents.val.length) ∧
      outcome.world.state = world.state := by
  intro request result outcome
  let wire : Request := .writeProcessMemory handle address contents
  let length := contents.val.length
  have same : SameEffect outcome (wire.perform.run (answer (env.withDevice dma)) world) :=
    serve_perform (env.withDevice dma) wire nofun world
  let allocated := env.respond (.newCharArray length) world.outside.2
  let ready : World (Device × Outside) := { world with outside := (world.outside.1, allocated.2) }
  have made : answer (env.withDevice dma) (.newCharArray length) world =
      some (resize length allocated.1, ready) := by
    simp only [answer, if_neg (Int.not_lt.mpr (Int.natCast_nonneg length)), Int.toNat_natCast]
    rfl
  have performed : wire.perform.run (answer (env.withDevice dma)) world =
      ((Client.writeProcessMemory handle address (Int32.ofNat length) contents.val).run
        (answer (env.withDevice dma)) ready).after
          [⟨.newCharArray length, resize length allocated.1⟩] := by
    simp only [wire, Request.perform, invoke, Program.call_bind, Program.ret_bind]
    rw [Program.run_call_of_answer _ _ made]
  have stored : handle ∈ ready.state.handlesToProcessIDs := opened
  obtain ⟨calls, reply, value, state⟩ :=
    run_writeProcessMemory env dma address (Int32.ofNat length) contents.val stored
  rw [performed] at same
  refine ⟨?_, same.sent.trans reply, ?_, (congrArg World.state same.world).trans state⟩
  · rw [← written_effects, same.effects, written_effects]
    exact calls
  · rw [same.value, Outcome.after_value, value, size_of_length contents.property]

theorem served_reportsWrite_iff (env : Environment Outside) (dma : Dma Device Scatter)
    (address : UInt64) (contents : Body (2 ^ 31))
    (opened : handle ∈ world.state.handlesToProcessIDs) :
    let request : WriteRequest := ⟨world.state.getProcessID handle, address, contents.val⟩
    let success := (Memory.memWrite dma world.outside.1 request).1
    ReportsWrite request success world.state
        (serve (env.withDevice dma) (.writeProcessMemory handle address contents) world) ↔
      success = true := by
  intro request success
  obtain ⟨calls, reply, value, state⟩ := serve_writeProcessMemory env dma address contents opened
  constructor
  · intro reports
    by_contra failed
    have none : success = false := by simpa using failed
    have result : Memory.writeResult request success = -1 := by
      rw [none, Memory.writeResult, if_neg Bool.false_ne_true]
    have answered := reports.reply
    rw [reply, none, if_neg Bool.false_ne_true] at answered
    have minusOne := (congrArg (fun result => Word.toBytes result.toUInt32.toInt32) result).symm
    exact absurd (minusOne.trans answered) (by decide)
  · intro succeeded
    have result : Memory.writeResult request success = UInt64.ofNat contents.val.length := by
      rw [succeeded, Memory.writeResult, if_pos rfl]
    refine ⟨calls, ?_, ?_, state⟩
    · rw [reply, if_pos succeeded]
      exact congrArg Word.toBytes ((congrArg (·.toUInt32.toInt32) result).trans toInt32_written)
    · rw [value, succeeded]
      exact congrArg some (beq_iff_eq.mpr result)

/-- The command tells what happened exactly when its payload is received and the
device write succeeds. -/
theorem reportsWrite_iff (closed : Bool) (env : Environment Outside) (dma : Dma Device Scatter)
    (address : UInt64) (contents : Body (2 ^ 31))
    (opened : handle ∈ world.state.handlesToProcessIDs) :
    let request : WriteRequest := ⟨world.state.getProcessID handle, address, contents.val⟩
    let success := (Memory.memWrite dma world.outside.1 request).1
    ReportsWrite request success world.state
        (serveOpen closed (env.withDevice dma) (.writeProcessMemory handle address contents)
          world) ↔
      success = true ∧ PayloadReceived closed contents.val world := by
  intro request success
  obtain ⟨received, waits⟩ := serveOpen_writeProcessMemory closed (env.withDevice dma) handle
    address contents world
  by_cases payload : PayloadReceived closed contents.val world
  · rw [received payload, and_iff_left payload]
    exact served_reportsWrite_iff env dma address contents opened
  · refine iff_of_false (fun reports => ?_) fun both => payload both.2
    have returned := reports.keeps
    rw [waits payload] at returned
    cases returned

end Serving

section Samples

/-- A device that fails every write, or none. -/
def writeDevice (success : Bool) : Dma Unit Unit where
  memReadEx _ _ _ size := ⟨size, []⟩
  memWrite device _ _ _ := (success, device)
  scatterInitialize _ := ()
  scatterPrepare scatter _ _ := scatter
  scatterExecute _ scatter := scatter
  scatterRead _ _ size := ⟨size, []⟩
  memFreeReleases := true

def openedProcess : World (Unit × Unit) where
  input := []
  state := (ClientState.generateHandle {}).2.storeOpenProcess 4 1
  outside := ((), ())

theorem mem_openedProcess : (1 : CE_HANDLE) ∈ openedProcess.state.handlesToProcessIDs :=
  Finmap.mem_insert.mpr (Or.inl rfl)

theorem reportsWrite_iff_oneByte :
    ReportsWrite ⟨openedProcess.state.getProcessID 1, 4096, [7]⟩ true openedProcess.state
      (serveOpen false (Environment.healthy.withDevice (writeDevice true))
        (.writeProcessMemory 1 4096 ⟨[7], by decide⟩) openedProcess) :=
  (reportsWrite_iff false Environment.healthy (writeDevice true) 4096 ⟨[7], by decide⟩
    mem_openedProcess).mpr ⟨rfl, Or.inl (by decide)⟩

/-- The reply to a write that failed is -1. -/
theorem failedWrite_notReported :
    ¬∀ (success : Bool) (world : World (Unit × Unit)),
      (1 : CE_HANDLE) ∈ world.state.handlesToProcessIDs →
        ReportsWrite ⟨world.state.getProcessID 1, 4096, [7]⟩ success world.state
          (serveOpen false (Environment.healthy.withDevice (writeDevice success))
            (.writeProcessMemory 1 4096 ⟨[7], by decide⟩) world) := by
  intro reports
  have told := (reports false openedProcess mem_openedProcess).reply
  have received := (serveOpen_writeProcessMemory false
    (Environment.healthy.withDevice (writeDevice false)) 1 4096 ⟨[7], by decide⟩
    openedProcess).1 (Or.inl (by decide))
  rw [received] at told
  obtain ⟨_, reply, _⟩ := serve_writeProcessMemory Environment.healthy (writeDevice false) 4096
    ⟨[7], by decide⟩ mem_openedProcess
  have minusOne : Word.toBytes (-1 : Int32) = Word.toBytes (0 : Int32) := reply.symm.trans told
  exact absurd minusOne (by decide)

end Samples

end CeServer
