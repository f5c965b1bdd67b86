import CeServer.Truncation

/-!
Where the writes to the target come from: as long as every request cut short is
harmless, each one carries the fields of a complete request of the stream.
-/

namespace CeServer

open LittleEndian Interaction

variable {Outside : Type} {env : Environment Outside}

theorem Client.handle_noWrite {command : Command} (other : command ≠ .writeProcessMemory) :
    (handle command).Uses fun op => op.writesMemory = false :=
  (handle_stays (coversAll_within (fun _ made => noWrite_of_madeBy made other) (fun _ => rfl)
    (fun _ _ => rfl) fun _ op polled => by cases op <;> first | rfl | cases polled)).uses

/-- A write made while serving WRITEPROCESSMEMORY: its handle is registered, its
process ID is the one looked up, its bytes are those of the stream if they all came. -/
structure WriteOf (input : List UInt8) (state : ClientState)
    (trace : List (Event Op Op.Response)) (processID : Int32) (address : UInt64)
    (bytes : List UInt8) : Prop where
  nonneg : 0 ≤ (receivedField Int32 12 input).toInt
  registered : receivedField CE_HANDLE 0 input ∈ state.handlesToProcessIDs
  lookedUp : ⟨.state (.getProcessID (receivedField CE_HANDLE 0 input)), processID⟩ ∈ trace
  address : address = receivedField UInt64 4 input
  bytes : (receivedField Int32 12 input).toInt ≤ (input.drop 16).length →
    bytes = (input.drop 16).take (receivedField Int32 12 input).toInt.toNat

def reportWritten (size : Int32) (written : UInt64) : Handler Bool :=
  if written < 0 then do
    send (0 : Int32)
    return false
  else do
    send written.toUInt32.toInt32
    return written == size.toInt64.toUInt64

theorem reportWritten_reports (size : Int32) (written : UInt64) :
    (reportWritten size written).Uses Op.Reports :=
  Program.Stays.uses (Program.stays_ite
    (fun _ => Client.answers_stays (fun _ => trivial) 0 false)
    fun _ => Client.answers_stays (fun _ => trivial) _ _)

theorem writeProcessMemory_write {handle : CE_HANDLE} {address : UInt64} {size : Int32}
    {buffer : List UInt8} {world : World Outside} {processID : Int32} {target : UInt64}
    {bytes : List UInt8} {written : UInt64}
    (made : ⟨.memoryWrite processID target bytes, written⟩ ∈
      ((Client.writeProcessMemory handle address size buffer).run (answer env) world).trace) :
    handle ∈ world.state.handlesToProcessIDs ∧ target = address ∧ bytes = buffer ∧
      ⟨.state (.getProcessID handle), processID⟩ ∈
        ((Client.writeProcessMemory handle address size buffer).run (answer env) world).trace := by
  have traced : ((Client.writeProcessMemory handle address size buffer).run (answer env)
      world).trace = ⟨.state (.containsProcessIDHandle handle),
        world.state.containsProcessIDHandle handle⟩ ::
      if handle ∈ world.state.handlesToProcessIDs then
        let written := env.respond
          (.memoryWrite (world.state.getProcessID handle) address buffer) world.outside
        ⟨.state (.getProcessID handle), world.state.getProcessID handle⟩ ::
          ⟨.memoryWrite (world.state.getProcessID handle) address buffer, written.1⟩ ::
          ((reportWritten size written.1).run (answer env)
            { world with outside := written.2 }).trace
      else [] := by
    simp only [Client.writeProcessMemory, invoke, Program.call_bind, Program.ret_bind]
    rw [Program.run_call_of_answer
      (world.state.containsProcessIDHandle handle) world rfl]
    unfold ClientState.containsProcessIDHandle
    by_cases present : handle ∈ world.state.handlesToProcessIDs
    · simp only [present, decide_true, Bool.not_true, Bool.false_eq_true, if_false, if_true]
      rfl
    · simp [present]
  rw [traced] at made ⊢
  split at made
  · rename_i present
    rw [if_pos present]
    simp only [List.mem_cons, Event.mk.injEq, reduceCtorEq, false_and, false_or] at made ⊢
    rcases made with ⟨same, _⟩ | later
    · simp only [Op.memoryWrite.injEq] at same
      obtain ⟨rfl, rfl, rfl⟩ := same
      exact ⟨present, rfl, rfl, by simp⟩
    · have allowed := (reportWritten_reports _ _).trace _ _ later
      exact absurd allowed id
  · simp at made

theorem handleCommandWriteProcessMemory_write {world : World Outside} {processID : Int32}
    {target : UInt64} {bytes : List UInt8} {written : UInt64}
    (made : ⟨.memoryWrite processID target bytes, written⟩ ∈
      (Client.handleCommandWriteProcessMemory.run (answer env) world).trace) :
    WriteOf world.input world.state
      (Client.handleCommandWriteProcessMemory.run (answer env) world).trace processID target
      bytes := by
  have nonneg : 0 ≤ (receivedField Int32 12 world.input).toInt := by
    by_contra negative
    obtain ⟨past, silent, fields⟩ := run_writeFields env world
    have thrown : answer env (.newCharArray (receivedField Int32 12 world.input).toInt)
        { world with input := world.input.drop 16 } = none := by
      simp only [answer, if_pos (Int.not_le.mp negative)]
    rw [fields, writeBody, invoke, Program.call_bind, Program.run_call_of_throw thrown] at made
    exact absurd (silent _ (by simpa using made)) Bool.noConfusion
  obtain ⟨past, silent, runs⟩ :=
    run_handleCommandWriteProcessMemory env world (Int.eq_natAbs_of_nonneg nonneg)
  rw [runs, Outcome.after_trace] at made ⊢
  have later := (List.mem_append.mp made).resolve_left fun early =>
    absurd (silent _ early) Bool.noConfusion
  obtain ⟨registered, rfl, rfl, lookedUp⟩ := writeProcessMemory_write later
  refine ⟨nonneg, registered, List.mem_append_right _ lookedUp, rfl, fun arrived => ?_⟩
  rw [writeBuffer_of_arrived (by omega)]
  congr 1
  omega

/-- What arrived is a strict beginning of some request's payload. -/
def Cut (command : Command) (received : List UInt8) : Prop :=
  ∃ request : Request, request.command = command ∧ received <+: request.payload ∧
    received.length < request.payload.length

theorem resize_of_le {size : Nat} {bytes : List UInt8} (arrived : size ≤ bytes.length) :
    resize size bytes = bytes.take size := by
  rw [resize, List.take_append_of_le_length arrived]

theorem prefix_resize_append (size : Nat) (bytes : List UInt8) :
    bytes <+: resize size bytes ++ bytes.drop size := by
  rcases Nat.lt_or_ge bytes.length size with short | arrived
  · rw [resize, List.take_append, List.take_of_length_le short.le, List.append_assoc]
    exact List.prefix_append _ _
  · rw [resize_of_le arrived, List.take_append_drop]

theorem writeProcessMemory_complete_or_cut {input : List UInt8}
    (nonneg : 0 ≤ (receivedField Int32 12 input).toInt) :
    Cut .writeProcessMemory input ∨
      ∃ contents : Body (2 ^ 31),
        contents.val = (input.drop 16).take (receivedField Int32 12 input).toInt.toNat ∧
        (receivedField Int32 12 input).toInt ≤ (input.drop 16).length ∧
        input = (Request.writeProcessMemory (receivedField CE_HANDLE 0 input)
          (receivedField UInt64 4 input) contents).payload ++
            (input.drop 16).drop contents.val.length := by
  let size := (receivedField Int32 12 input).toInt.toNat
  have bounded : size < 2 ^ 31 := by
    have := (receivedField Int32 12 input).toInt_lt
    omega
  let contents : Body (2 ^ 31) := ⟨resize size (input.drop 16), by simpa using bounded⟩
  let request := Request.writeProcessMemory (receivedField CE_HANDLE 0 input)
    (receivedField UInt64 4 input) contents
  have declared : Int32.ofNat contents.val.length =
      Word.ofBytes (((input.drop 4).drop 8).take 4) := by
    rw [resize_length, ← Int32.ofInt_eq_ofNat, Int.toNat_of_nonneg nonneg, Int32.ofInt_toInt,
      List.drop_drop]
    rfl
  -- up to the zeros that stand for missing bytes the stream is this request
  have begins : input <+: request.payload ++ (input.drop 16).drop size := by
    simp only [request, Request.payload, List.append_assoc]
    refine prefix_toBytes_append CE_HANDLE (prefix_toBytes_append UInt64 ?_)
    rw [declared]
    refine prefix_toBytes_append Int32 ?_
    change ((input.drop 4).drop 8).drop 4 <+: _
    rw [List.drop_drop, List.drop_drop]
    exact prefix_resize_append size (input.drop 16)
  have length : request.payload.length = 16 + size := by
    simp only [request, Request.payload, List.length_append, Word.length_toBytes]
    rw [resize_length]
    change 4 + (8 + (4 + size)) = 16 + size
    omega
  rcases Nat.lt_or_ge input.length (16 + size) with short | arrived
  · refine Or.inl ⟨request, rfl, ?_, by rw [length]; exact short⟩
    have nothing : (input.drop 16).drop size = [] := by
      rw [List.drop_drop, List.drop_eq_nil_iff]
      omega
    rwa [nothing, List.append_nil] at begins
  · have fits : size ≤ (input.drop 16).length := by
      rw [List.length_drop]
      omega
    refine Or.inr ⟨contents, resize_of_le fits, by omega, ?_⟩
    rw [resize_length]
    refine begins.eq_of_length ?_
    rw [List.length_append, length, List.length_drop, List.length_drop]
    omega

/-- Each write of a trace carries the process ID looked up for the handle and the
address and bytes of a complete request on the stream. -/
def WritesComplete (stream : List UInt8) (trace : List (Event Op Op.Response)) : Prop :=
  ∀ processID address bytes written, ⟨.memoryWrite processID address bytes, written⟩ ∈ trace →
    ∃ (handle : CE_HANDLE) (contents : Body (2 ^ 31)) (before rest : List UInt8),
      contents.val = bytes ∧
      stream = before ++ (Request.writeProcessMemory handle address contents).encode ++ rest ∧
      ⟨.state (.getProcessID handle), processID⟩ ∈ trace

theorem WritesComplete.of_silent {stream : List UInt8} {trace : List (Event Op Op.Response)}
    (silent : ∀ event ∈ trace, event.op.writesMemory = false) : WritesComplete stream trace :=
  fun _ _ _ _ made => absurd (silent _ made) Bool.noConfusion

theorem WritesComplete.append {stream : List UInt8} {first second : List (Event Op Op.Response)}
    (early : WritesComplete stream first) (late : WritesComplete stream second) :
    WritesComplete stream (first ++ second) := by
  intro processID address bytes written made
  rcases List.mem_append.mp made with member | member
  · obtain ⟨handle, contents, before, rest, same, whole, lookedUp⟩ := early _ _ _ _ member
    exact ⟨handle, contents, before, rest, same, whole, List.mem_append_left _ lookedUp⟩
  · obtain ⟨handle, contents, before, rest, same, whole, lookedUp⟩ := late _ _ _ _ member
    exact ⟨handle, contents, before, rest, same, whole, List.mem_append_right _ lookedUp⟩

theorem WritesComplete.of_suffix {stream rest : List UInt8} {trace : List (Event Op Op.Response)}
    (complete : WritesComplete rest trace) (suffix : rest <:+ stream) :
    WritesComplete stream trace := by
  obtain ⟨consumed, rfl⟩ := suffix
  intro processID address bytes written made
  obtain ⟨handle, contents, before, after, same, whole, lookedUp⟩ := complete _ _ _ _ made
  exact ⟨handle, contents, consumed ++ before, after, same, by simp [whole], lookedUp⟩

theorem dispatchCommand_writesComplete {world : World Outside} {code : UInt8}
    (harmless : ∀ command, command.code = code → Cut command world.input →
      CutHarmless world.state world.input command) :
    WritesComplete (code :: world.input)
      ((Client.dispatchCommand code).run (answer env) world).trace := by
  unfold Client.dispatchCommand
  cases found : Command.ofCode code with
  | none => exact WritesComplete.of_silent (by simp)
  | some command =>
      have known := Command.code_of_ofCode found
      by_cases write : command = .writeProcessMemory
      · subst write
        intro processID address bytes written made
        have source := handleCommandWriteProcessMemory_write made
        rcases writeProcessMemory_complete_or_cut source.nonneg with cut | complete
        · exact absurd source.registered (harmless _ known cut)
        · obtain ⟨contents, same, fits, whole⟩ := complete
          refine ⟨receivedField CE_HANDLE 0 world.input, contents, [],
            (world.input.drop 16).drop contents.val.length, ?_, ?_, source.lookedUp⟩
          · rw [same, source.bytes fits]
          · rw [source.address, Request.encode, Request.command, known, List.nil_append,
              List.cons_append, ← whole]
      · exact WritesComplete.of_silent
          ((Client.handle_noWrite write).trace world)

theorem answer_suffix {op : Op} {world later : World Outside} {response : op.Response}
    (answered : answer env op world = some (response, later)) : later.input <:+ world.input := by
  cases op with
  | newCharArray size =>
      simp only [answer] at answered
      split at answered
      · simp at answered
      · simp only [Option.some.injEq, Prod.mk.injEq] at answered
        rw [← answered.2]
  | recv size =>
      simp only [answer, LinuxSocketWrapper.recv, Option.some.injEq, Prod.mk.injEq] at answered
      rw [← answered.2]
      exact List.drop_suffix _ _
  | recvNonBlocking size =>
      simp only [answer, LinuxSocketWrapper.recvNonBlocking, Option.some.injEq] at answered
      split at answered <;> rw [Prod.mk.injEq] at answered <;> rw [← answered.2]
      exact List.drop_suffix _ _
  | readProcessInfo entry | readMemoryRegion entry =>
      simp only [answer, ask] at answered
      split at answered <;> simp only [Option.some.injEq, Prod.mk.injEq] at answered <;>
        rw [← answered.2]
  | _ =>
      simp only [answer, ask, Option.some.injEq, Prod.mk.injEq] at answered
      rw [← answered.2]

theorem run_suffix (env : Environment Outside) {Value : Type} (handler : Handler Value)
    (world : World Outside) :
    (handler.run (answer env) world).world.input <:+ world.input :=
  (Program.uses_all handler).invariant
    (fun _ _ _ _ _ suffix answered => (answer_suffix answered).trans suffix) world
    List.suffix_rfl

open Server

/-- Every command byte the loop takes is followed by a complete request or by
one whose cut is harmless in the state it is then served in. -/
def CutsHarmless (env : Environment Outside) : Nat → World Outside → Prop
  | 0, _ => True
  | turns + 1, world =>
      (∀ command received, world.input = Command.code command :: received → Cut command received →
        CutHarmless world.state received command) ∧
      match (turn.run (answer env) world).value with
      | some .idle | some (.dispatched _ true) =>
          CutsHarmless env turns (turn.run (answer env) world).world
      | _ => True

theorem turn_writesComplete (env : Environment Outside) {world : World Outside}
    (harmless : ∀ command received, world.input = Command.code command :: received →
      Cut command received → CutHarmless world.state received command) :
    WritesComplete world.input (turn.run (answer env) world).trace := by
  have takes (start : World Outside) :
      ∀ event ∈ takesByte start, event.op.writesMemory = false := by
    simp [takesByte, Op.writesMemory]
  cases arrived : world.input with
  | nil =>
      rw [turn_idle arrived]
      exact WritesComplete.of_silent (takes _)
  | cons code received =>
      have dispatched : WritesComplete (code :: received)
          ((Client.dispatchCommand code).run (answer env) { world with input := received }).trace :=
        dispatchCommand_writesComplete fun command same cut =>
          harmless command received (by rw [arrived, same]) cut
      rw [turn_dispatch arrived, Outcome.after_trace]
      refine (WritesComplete.of_silent (takes _)).append ?_
      rw [Program.run_bind]
      cases ((Client.dispatchCommand code).run (answer env)
          { world with input := received }).value with
      | none => exact dispatched
      | some keepSocketOpen =>
          refine dispatched.append (WritesComplete.of_silent fun event member => ?_)
          have closing : (do
              if !keepSocketOpen then
                invoke .close
              return Turn.dispatched code keepSocketOpen : Handler Turn).Uses
                fun op => op.writesMemory = false := by
            cases keepSocketOpen with
            | false => exact ⟨rfl, fun _ => trivial⟩
            | true => exact trivial
          exact closing.trace _ event member

theorem handleClientConnection_writesComplete (turns : Nat) (world : World Outside)
    (harmless : CutsHarmless env turns world) :
    WritesComplete world.input (handleClientConnection env turns world).trace := by
  induction turns generalizing world with
  | zero => exact WritesComplete.of_silent (by simp [handleClientConnection])
  | succ turns ih =>
      have first := turn_writesComplete env harmless.1
      have remaining := harmless.2
      have suffix := run_suffix env turn world
      simp only [handleClientConnection]
      cases ended : (turn.run (answer env) world).value with
      | none => exact first
      | some result =>
          rw [ended] at remaining
          cases result with
          | stopped | failed => exact first
          | idle => exact first.append ((ih _ remaining).of_suffix suffix)
          | dispatched command keepSocketOpen =>
              cases keepSocketOpen with
              | false => exact first
              | true => exact first.append ((ih _ remaining).of_suffix suffix)

/-- A request cut short is without effect exactly when its cut is harmless; where
all of them are, every write to the target is that of a complete request. -/
theorem truncatedRequest_noEffect_iff (env : Environment Outside) :
    (∀ (request : Request) (world : World Outside), world.input <+: request.payload →
      (NoEffect world
          ((Client.dispatchCommand request.command.code).run (answer env) world) ↔
        CutHarmless world.state world.input request.command)) ∧
      ∀ (turns : Nat) (world : World Outside), CutsHarmless env turns world →
        WritesComplete world.input (handleClientConnection env turns world).trace := by
  refine ⟨fun request world cut => ?_, handleClientConnection_writesComplete⟩
  rw [Client.dispatchCommand_code]
  exact handle_noEffect_iff request world cut

theorem truncatedRequest_noEffect_iff_closeHandle :
    NoEffect (⟨[7, 0], [], {}, [], false, ()⟩ : World Unit)
      ((Client.dispatchCommand 7).run (answer .healthy) ⟨[7, 0], [], {}, [], false, ()⟩) :=
  ((truncatedRequest_noEffect_iff .healthy).1 (.closeHandle 7) ⟨[7, 0], [], {}, [], false, ()⟩
    (by decide)).mpr ⟨by decide, by decide, by decide, by decide, by decide⟩

/-- An OPENPROCESS that ends after its command byte still issues a handle. -/
theorem truncatedRequest_effect :
    ¬∀ (request : Request) (world : World Unit), world.input <+: request.payload →
      world.input.length < request.payload.length →
      NoEffect world
        ((Client.dispatchCommand request.command.code).run (answer .healthy) world) := by
  intro unaffected
  have none := unaffected (.openProcess 4) ⟨[], [], {}, [], false, ()⟩ (by decide) (by decide)
  exact absurd (congrArg ClientState.lastHandleID none.state) (by decide)

end CeServer
