import CeServer.Footprint
import CeServer.Requests

/-!
Request framing: every handler consumes exactly the bytes of its own request,
so a stream of encoded requests is served as the list of those requests.
-/

namespace CeServer

open LittleEndian Interaction

variable {Outside : Type} {env : Environment Outside}

open Client in
theorem Request.perform_serves (request : Request) (framed : request.Framed) :
    request.perform.Uses Op.Serves := by
  have covers (command : Command) : Covers (.within Op.Serves) command :=
    covers_within fun _ => serves_of_madeBy
  have sends (bytes : List UInt8) : (Op.send bytes).Serves := trivial
  apply Program.Stays.uses
  cases request with
  | getVersion =>
      exact keepOpen_stays ((sendBytes_stays sends _).bind fun _ => sendBytes_stays sends _)
  | closeConnection | terminateServer => exact trivial
  | openProcess pid => exact keepOpen_stays (openProcess_stays (covers _) pid)
  | createToolhelp32Snapshot flags procId =>
      exact keepOpen_stays (toolHelp32Snapshot_stays (covers _) flags procId)
  | process32First handle | process32Next handle =>
      exact keepOpen_stays (iterateProcessesNext_stays _ (covers _) handle)
  | closeHandle handle => exact keepOpen_stays (closeHandle_stays (covers _) handle)
  | virtualQueryEx handle address | getRegionInfo handle address =>
      exact regionInfo_stays _ (covers _) handle address
  | readProcessMemory handle address size compress =>
      exact readProcessMemory_stays (covers _) handle address size compress
  | writeProcessMemory handle address contents =>
      exact stays_call (Int.natCast_nonneg _) id fun _ _ =>
        writeProcessMemory_stays (covers _) handle address _ _
  | startDebug handle => exact keepOpen_stays (send_stays sends handle)
  | getArchitecture handle => exact absurd rfl framed
  | module32First handle | module32Next handle =>
      exact keepOpen_stays (iterateModulesNext_stays _ (covers _) handle)
  | getSymbolListFromFile symbolPath =>
      exact keepOpen_stays (stays_call (Int.natCast_nonneg _) id fun _ _ => send_stays sends _)
  | virtualQueryExFull handle flags => exact virtualQueryExFull_stays (covers _) handle flags
  | getABI | getOptions => exact keepOpen_stays (send_stays sends _)
  | setConnectionName name =>
      exact keepOpen_stays (stays_call (Int.natCast_nonneg (name.val.length + 1)) id
        fun _ _ => (covers .setConnectionName).call rfl trivial rfl fun _ _ => trivial)
  | createToolhelp32SnapshotEx flags procId =>
      exact keepOpen_stays (toolHelp32SnapshotEx_stays (covers _) flags procId)

theorem answer_serves (env : Environment Outside) (op : Op) (serves : op.Serves)
    (world : World Outside) :
    ∃ response later, answer env op world = some (response, later) ∧
      later.input = world.input ∧ later.closed = world.closed := by
  cases op with
  | recv | recvNonBlocking | close | stopRequested => exact absurd serves id
  | newCharArray size =>
      have nonneg : ¬size < 0 := Int.not_lt.mpr serves
      simp [answer, nonneg]
  | readProcessInfo entry | readMemoryRegion entry =>
      simp only [answer, ask]
      split <;> simp
  | _ => simp [answer, ask]

theorem serves_keeps (env : Environment Outside) {Value : Type} {handler : Handler Value}
    (serves : handler.Uses Op.Serves)
    (world : World Outside) :
    (handler.run (answer env) world).world.input = world.input ∧
      (handler.run (answer env) world).world.closed = world.closed := by
  constructor
  · refine serves.frame (fun op allowed world response later answered => ?_) world
    obtain ⟨_, _, known, kept, _⟩ := answer_serves env op allowed world
    rw [known] at answered
    obtain ⟨rfl, rfl⟩ := Prod.mk.inj (Option.some.inj answered)
    exact kept
  · refine serves.frame (fun op allowed world response later answered => ?_) world
    obtain ⟨_, _, known, _, kept⟩ := answer_serves env op allowed world
    rw [known] at answered
    obtain ⟨rfl, rfl⟩ := Prod.mk.inj (Option.some.inj answered)
    exact kept

theorem serves_returns (env : Environment Outside) {Value : Type} {handler : Handler Value}
    (serves : handler.Uses Op.Serves)
    (world : World Outside) : ∃ value, (handler.run (answer env) world).value = some value := by
  refine serves.returns (fun op allowed world => ?_) world
  obtain ⟨_, _, known, _⟩ := answer_serves env op allowed world
  rw [known]
  rfl

/-- An allocation of a valid length answers alike whatever is left of the stream. -/
theorem run_newCharArray {Value : Type} {size : Int} (nonneg : 0 ≤ size)
    {first second : List UInt8 → Handler Value} {world : World Outside} {stream rest : List UInt8}
    (continued : ∀ contents outside, contents.length = size.toNat →
      SameEffect ((first contents).run (answer env) { world with input := stream, outside })
        ((second contents).run (answer env) { world with input := rest, outside })) :
    SameEffect
      ((invoke (.newCharArray size) >>= first).run (answer env) { world with input := stream })
      ((invoke (.newCharArray size) >>= second).run (answer env) { world with input := rest }) := by
  have valid : ¬size < 0 := Int.not_lt.mpr nonneg
  simp only [invoke, Program.call_bind, Program.ret_bind, Program.run_call, answer, valid,
    if_false]
  exact (continued _ _ (resize_length _ _)).afterBoth

theorem run_readBuffer_complete {Value : Type} {rest : List UInt8 → Handler Value}
    {contents body stream : List UInt8} {size : Nat} (world : World Outside)
    {target : Outcome Op Op.Response (World Outside) Value} (sized : body.length = size)
    (continued : SameEffect ((rest (body ++ contents.drop size)).run (answer env)
      { world with input := stream }) target) :
    SameEffect ((readBuffer contents size >>= rest).run (answer env)
      { world with input := body ++ stream }) target := by
  rw [run_readBuffer]
  simp only [List.take_left' sized, List.drop_left' sized, sized]
  exact continued.afterInput rfl

/-- Reading its own payload, a handler does what serving the request's field
values does and leaves exactly the bytes after the payload. -/
theorem handle_complete (env : Environment Outside) (request : Request)
    (framed : request.Framed) (world : World Outside)
    (rest : List UInt8) :
    SameEffect
      ((Client.handle request.command).run (answer env)
        { world with input := request.payload ++ rest })
      (request.perform.run (answer env) { world with input := rest }) := by
  cases request with
  | getVersion | closeConnection | terminateServer | getABI | getOptions =>
      exact SameEffect.refl _
  | getArchitecture handle => exact absurd rfl framed
  | openProcess pid =>
      simp only [Request.command, Client.handle, Client.keepOpen, Client.handleCommandOpenProcess,
        Program.bind_assoc]
      exact run_read_complete pid rest _ world (SameEffect.refl _)
  | createToolhelp32Snapshot flags procId =>
      simp only [Request.command, Request.payload, Client.handle, Client.keepOpen,
        Client.handleCommandToolHelp32Snapshot, Program.bind_assoc, List.append_assoc]
      exact run_read_complete flags _ _ world
        (run_read_complete procId rest _ world (SameEffect.refl _))
  | createToolhelp32SnapshotEx flags procId =>
      simp only [Request.command, Request.payload, Client.handle, Client.keepOpen,
        Client.handleCommandToolHelp32SnapshotEx, Program.bind_assoc, List.append_assoc]
      exact run_read_complete flags _ _ world
        (run_read_complete procId rest _ world (SameEffect.refl _))
  | process32First handle | process32Next handle =>
      simp only [Request.command, Client.handle, Client.keepOpen,
        Client.handleCommandIterateProcessesNext, Program.bind_assoc]
      exact run_read_complete handle rest _ world (SameEffect.refl _)
  | module32First handle | module32Next handle =>
      simp only [Request.command, Client.handle, Client.keepOpen,
        Client.handleCommandIterateModulesNext, Program.bind_assoc]
      exact run_read_complete handle rest _ world (SameEffect.refl _)
  | closeHandle handle =>
      simp only [Request.command, Client.handle, Client.keepOpen, Client.handleCommandCloseHandle,
        Program.bind_assoc]
      exact run_read_complete handle rest _ world (SameEffect.refl _)
  | startDebug handle =>
      simp only [Request.command, Client.handle, Client.keepOpen, Client.handleCommandStartDebug,
        Program.bind_assoc]
      exact run_read_complete handle rest _ world (SameEffect.refl _)
  | virtualQueryEx handle address | getRegionInfo handle address =>
      simp only [Request.command, Request.payload, Client.handle, List.append_assoc]
      exact run_read_complete handle _ _ world
        (run_read_complete address rest _ world (SameEffect.refl _))
  | virtualQueryExFull handle flags =>
      simp only [Request.command, Request.payload, Client.handle, List.append_assoc]
      exact run_read_complete handle _ _ world
        (run_read_complete flags rest _ world (SameEffect.refl _))
  | readProcessMemory handle address size compress =>
      simp only [Request.command, Request.payload, Client.handle, List.append_assoc]
      refine run_read_complete handle _ _ world (run_read_complete address _ _ world ?_)
      exact run_read_complete size _ _ world
        (run_read_complete compress rest _ world (SameEffect.refl _))
  | writeProcessMemory handle address contents =>
      have length := Int32.toInt_ofNat_of_lt contents.property
      simp only [Request.command, Request.payload, Client.handle, List.append_assoc]
      refine run_read_complete handle _ _ world (run_read_complete address _ _ world ?_)
      refine run_read_complete (Int32.ofNat contents.val.length) _ _ world ?_
      rw [length]
      refine run_newCharArray (Int.natCast_nonneg _) fun array outside sized => ?_
      refine run_readBuffer_complete { world with outside } rfl ?_
      rw [List.drop_of_length_le (by simp [sized]), List.append_nil]
      exact SameEffect.refl _
  | getSymbolListFromFile symbolPath =>
      have length := Int32.toInt_ofNat_of_lt symbolPath.property
      simp only [Request.command, Request.payload, Request.perform, Client.handle, Client.keepOpen,
        Client.handleCommandGetSymbolListFromFile, Program.bind_assoc, List.append_assoc]
      refine run_read_complete (Int32.ofNat symbolPath.val.length) _ _ world ?_
      rw [length]
      refine run_newCharArray (Int.natCast_nonneg _) fun array outside sized => ?_
      exact run_readBuffer_complete { world with outside } rfl (SameEffect.refl _)
  | setConnectionName name =>
      have fits := name.property
      have length : (UInt32.ofNat name.val.length).toNat = name.val.length :=
        UInt32.toNat_ofNat_of_lt (Nat.lt_trans fits (by decide))
      have allocated : (UInt32.ofNat name.val.length + 1).toNat = name.val.length + 1 := by
        rw [UInt32.toNat_add, length]
        exact Nat.mod_eq_of_lt (by simp; omega)
      simp only [Request.command, Request.payload, Request.perform, Client.handle, Client.keepOpen,
        Client.handleCommandSetConnectionName, Program.bind_assoc, List.append_assoc]
      refine run_read_complete (UInt32.ofNat name.val.length) _ _ world ?_
      rw [length, allocated, Nat.cast_succ]
      refine run_newCharArray (by omega) fun array outside sized => ?_
      refine run_readBuffer_complete { world with outside } rfl ?_
      -- one byte of the array is left for the terminator
      have last : ∃ byte, array.drop name.val.length = [byte] :=
        List.length_eq_one_iff.mp (by simp [sized])
      obtain ⟨byte, tail⟩ := last
      have terminated : (name.val ++ array.drop name.val.length).set name.val.length 0 =
          name.val ++ [0] := by
        simp [tail]
      rw [terminated]
      exact SameEffect.refl _

open Server in
/-- What serving a list of requests amounts to, up to the first one refused;
`rest` is what follows them on the stream. -/
def performAll (env : Environment Outside) :
    List Request → List UInt8 → World Outside → Session Outside
  | [], rest, world => { world := { world with input := rest }, status := .running }
  | request :: later, rest, world =>
      let outcome := request.perform.run (answer env)
        { world with input := Request.encodeAll later ++ rest }
      match outcome.value with
      | none => { world := outcome.world, trace := outcome.trace, status := .threw }
      | some true =>
          (performAll env later rest outcome.world).after outcome.trace [request.command.code]
      | some false =>
          { world := { outcome.world with closed := true }
            trace := outcome.trace ++ [⟨.close, ()⟩]
            commands := [request.command.code]
            status := .returned }

structure SameSession (first second : Server.Session Outside) : Prop where
  world : first.world = second.world
  effects : effects first.trace = effects second.trace
  commands : first.commands = second.commands
  status : first.status = second.status

theorem SameSession.after {first second : Server.Session Outside}
    {past known : List (Event Op Op.Response)} (same : SameSession first second)
    (agrees : CeServer.effects past = CeServer.effects known) (commands : List UInt8) :
    SameSession (first.after past commands) (second.after known commands) := by
  refine ⟨same.world, ?_, ?_, same.status⟩
  · simp [Server.Session.after, agrees, same.effects]
  · simp [Server.Session.after, same.commands]

@[simp] theorem effects_takesByte (world : World Outside) :
    effects (Server.takesByte world) = [] := rfl

theorem performAll_returns (env : Environment Outside) (requests : List Request)
    (framed : ∀ request ∈ requests, request.Framed)
    (rest : List UInt8) (world : World Outside) :
    (performAll env requests rest world).status ≠ .threw := by
  induction requests generalizing world with
  | nil => simp [performAll]
  | cons request later ih =>
      obtain ⟨keep, decided⟩ := serves_returns env
        (request.perform_serves (framed request (by simp)))
        { world with input := Request.encodeAll later ++ rest }
      simp only [performAll, decided]
      cases keep with
      | false => simp
      | true => exact ih (fun other member => framed other (by simp [member])) _

theorem performAll_served (env : Environment Outside) (requests : List Request)
    (framed : ∀ request ∈ requests, request.Framed)
    (rest : List UInt8) (world : World Outside) :
    ∃ served later, requests = served ++ later ∧
      (performAll env requests rest world).commands =
        served.map (fun request => request.command.code) ∧
      (performAll env requests rest world).world.input = Request.encodeAll later ++ rest ∧
      ((performAll env requests rest world).status = .running → later = []) := by
  induction requests generalizing world with
  | nil => exact ⟨[], [], rfl, rfl, rfl, fun _ => rfl⟩
  | cons request later ih =>
      have serves := request.perform_serves (framed request (by simp))
      let start := { world with input := Request.encodeAll later ++ rest }
      obtain ⟨keep, decided⟩ := serves_returns env serves start
      have kept := (serves_keeps env serves start).1
      simp only [start] at decided kept
      simp only [performAll, decided]
      cases keep with
      | false =>
          exact ⟨[request], later, rfl, rfl, kept, fun running => by simp at running⟩
      | true =>
          obtain ⟨served, remaining, whole, commands, left, complete⟩ :=
            ih (fun other member => framed other (by simp [member]))
              (request.perform.run (answer env) start).world
          refine ⟨request :: served, remaining, by simp [whole], ?_, left, complete⟩
          simp [Server.Session.after, start, commands]

theorem sameSession_performAll (env : Environment Outside) (requests : List Request)
    (framed : ∀ request ∈ requests, request.Framed) (rest : List UInt8) (world : World Outside)
    (stream : world.input = Request.encodeAll requests ++ rest) :
    SameSession (Server.handleClientConnection env requests.length world)
      (performAll env requests rest world) := by
  induction requests generalizing world with
  | nil =>
      obtain ⟨input, output, state, connectionName, closed, outside⟩ := world
      simp only [Request.encodeAll, List.flatMap_nil, List.nil_append] at stream
      subst stream
      exact ⟨rfl, rfl, rfl, rfl⟩
  | cons request later ih =>
      have own := framed request (by simp)
      let remaining := Request.encodeAll later ++ rest
      have serves := request.perform_serves own
      have same := handle_complete env request own world remaining
      obtain ⟨keep, decided⟩ := serves_returns env serves
        { world with input := remaining }
      have arrived : world.input = request.command.code :: (request.payload ++ remaining) := by
        rw [stream]
        simp [Request.encodeAll, Request.encode, remaining]
      rw [← Client.dispatchCommand_code] at same
      have value := same.value.trans decided
      have performed : (performAll env (request :: later) rest world) =
          match (request.perform.run (answer env) { world with input := remaining }).value with
          | none => _
          | some true => _
          | some false => _ := rfl
      rw [performed, decided, List.length_cons]
      cases keep with
      | true =>
          rw [Server.handleClientConnection_keeps later.length arrived value]
          have left := (serves_keeps env serves { world with input := remaining }).1
          rw [← same.world] at left
          have following := ih (fun other member => framed other (by simp [member])) _ left
          rw [same.world] at following ⊢
          refine following.after ?_ _
          rw [effects_append, effects_takesByte, List.nil_append]
          exact same.effects
      | false =>
          rw [Server.handleClientConnection_refuses later.length arrived value]
          refine ⟨?_, ?_, rfl, rfl⟩
          · rw [same.world]
          · rw [effects_append, effects_append, effects_takesByte, List.nil_append,
              same.effects, ← effects_append]

/-- Serving a stream of complete requests dispatches exactly these requests, in
order and with their own field values, up to the first one refused; what follows
that one on the stream is not read. -/
theorem handleClientConnection_requests (env : Environment Outside) (requests : List Request)
    (framed : ∀ request ∈ requests, request.Framed) (rest : List UInt8) (world : World Outside)
    (stream : world.input = Request.encodeAll requests ++ rest) :
    SameSession (Server.handleClientConnection env requests.length world)
        (performAll env requests rest world) ∧
      (performAll env requests rest world).status ≠ .threw ∧
      ∃ served later, requests = served ++ later ∧
        (Server.handleClientConnection env requests.length world).commands =
          served.map (fun request => request.command.code) ∧
        (Server.handleClientConnection env requests.length world).world.input =
          Request.encodeAll later ++ rest ∧
        ((Server.handleClientConnection env requests.length world).status = .running →
          later = []) := by
  have same := sameSession_performAll env requests framed rest world stream
  refine ⟨same, performAll_returns env requests framed rest world, ?_⟩
  rw [same.commands, same.world, same.status]
  exact performAll_served env requests framed rest world

theorem handleClientConnection_requests_openAndClose :
    let requests : List Request := [.openProcess 4, .closeConnection]
    let world : World Unit := { input := Request.encodeAll requests, outside := () }
    (Server.handleClientConnection .healthy 2 world).commands = [3, 1] ∧
      (Server.handleClientConnection .healthy 2 world).status = .returned := by
  intro requests world
  have same := (handleClientConnection_requests .healthy requests
    (by simp [requests, Request.Framed, Request.command]) [] world (by simp [world])).1
  exact ⟨same.commands.trans rfl, same.status.trans rfl⟩

end CeServer
