import CeServer.Client

/-!
One connection on Linux whose peer sends a finite byte stream and then closes:
how each call is answered, and `Server::handleClientConnection` on top of it.
-/

namespace CeServer

open LittleEndian Interaction

/-- The parts of the system outside the server's own code. They keep a hidden
state and may answer in any way. -/
structure Environment (Outside : Type) where
  respond : (op : Op) → Outside → op.Response × Outside
  firstEntry : Outside → FirstEntry

noncomputable def Environment.healthy : Environment Unit where
  respond op _ := (match op with
    | .recv _ | .recvNonBlocking _ => (-1, [])
    | .send bytes => (bytes.length : Int)
    | .lastError => (0 : Int)
    | .close | .sleep | .setConnectionName _ => ()
    | .newCharArray _ | .getProcessSnapshot | .getModuleSnapshot _ | .getThreadSnapshot _ => []
    | .pastTimeout | .stopRequested => false
    | .state op => (op.apply FirstEntry.any {}).1
    | .readProcessInfo _ => ⟨[], 0⟩
    | .readMemoryRegion _ =>
        .ofVadEntry ⟨0, 0, 0, 0, false, false, false, false, false, false, false, none⟩
    | .memoryRead _ _ size => (size, [])
    | .memoryWrite _ _ bytes => UInt64.ofNat bytes.length
    | .getMemoryModel _ => .x64, ())
  firstEntry _ := FirstEntry.any

structure World (Outside : Type) where
  input : List UInt8
  output : List UInt8 := []
  state : ClientState := {}
  connectionName : List UInt8 := []
  closed : Bool := false
  outside : Outside

variable {Outside : Type}

def ask (env : Environment Outside) (op : Op) (world : World Outside) :
    Option (op.Response × World Outside) :=
  let (response, outside) := env.respond op world.outside
  some (response, { world with outside })

/-- MSG_WAITALL delivers what is left of the stream, up to the size asked for; the
peer's close ends the stream, and the result is then 0. See `answerOpen` for a
stream that stays open. -/
def LinuxSocketWrapper.recv (size : Nat) (world : World Outside) :
    (Int × List UInt8) × World Outside :=
  let bytes := world.input.take size
  ((bytes.length, bytes), { world with input := world.input.drop size })

/-- The received bytes go to the address of the wrapper's own parameter and not
to the caller's buffer. `arrived` is how much of the stream a poll finds. -/
def LinuxSocketWrapper.recvNonBlocking (arrived : Int) (size : Nat) (world : World Outside) :
    (Int × List UInt8) × World Outside :=
  let bytes := world.input.take (min arrived.toNat size)
  if bytes.isEmpty then
    ((if world.input.isEmpty && arrived == 0 then 0 else -1, []), world)
  else
    ((bytes.length, []), { world with input := world.input.drop bytes.length })

def answer (env : Environment Outside) :
    (op : Op) → World Outside → Option (op.Response × World Outside)
  | .recv size, world => some (LinuxSocketWrapper.recv size world)
  | .recvNonBlocking size, world =>
      let (poll, outside) := env.respond (.recvNonBlocking size) world.outside
      some (LinuxSocketWrapper.recvNonBlocking poll.1 size { world with outside })
  | .send bytes, world =>
      let (sent, outside) := env.respond (.send bytes) world.outside
      some (sent, { world with output := world.output ++ bytes.take sent.toNat, outside })
  | .close, world => some ((), { world with closed := true })
  | .newCharArray size, world =>
      -- a negative length makes the array form of `new` throw
      if size < 0 then none
      else
        let (contents, outside) := env.respond (.newCharArray size) world.outside
        some (resize size.toNat contents, { world with outside })
  | .state op, world =>
      let (response, state) := op.apply (env.firstEntry world.outside) world.state
      some (response, { world with state })
  | .readProcessInfo entry, world =>
      let snapshot := (world.state.handlesToProcessInfoSnapshots.lookup entry.handle).getD []
      match snapshot[entry.index]? with
      | some procInfo => some (procInfo, world)
      | none => ask env (.readProcessInfo entry) world
  | .readMemoryRegion entry, world =>
      let snapshot := (world.state.handlesToModuleSnapshots.lookup entry.handle).getD []
      match snapshot[entry.index]? with
      | some memoryRegion => some (memoryRegion, world)
      | none => ask env (.readMemoryRegion entry) world
  | .setConnectionName name, world => some ((), { world with connectionName := name })
  | .stopRequested, world => some (false, world)
  | .lastError, world => ask env .lastError world
  | .pastTimeout, world => ask env .pastTimeout world
  | .sleep, world => ask env .sleep world
  | .getProcessSnapshot, world => ask env .getProcessSnapshot world
  | .getModuleSnapshot processID, world => ask env (.getModuleSnapshot processID) world
  | .getThreadSnapshot processID, world => ask env (.getThreadSnapshot processID) world
  | .memoryRead processID address size, world =>
      ask env (.memoryRead processID address size) world
  | .memoryWrite processID address bytes, world =>
      ask env (.memoryWrite processID address bytes) world
  | .getMemoryModel processID, world => ask env (.getMemoryModel processID) world

namespace Server

inductive Turn
  | stopped
  | failed
  | idle
  | dispatched (command : UInt8) (keepSocketOpen : Bool)
  deriving DecidableEq

def turn : Handler Turn := do
  if ← invoke .stopRequested then
    return .stopped
  else
    let (recvSize, buffer) ← invoke (.recv 1)
    if recvSize < 0 then
      invoke .close
      return .failed
    else if recvSize == 0 then
      return .idle
    else
      let command := buffer.headD 0
      let keepSocketOpen ← Client.dispatchCommand command
      if !keepSocketOpen then
        invoke .close
      return .dispatched command keepSocketOpen

inductive Status
  | running
  | returned
  | threw
  deriving DecidableEq

structure Session (Outside : Type) where
  world : World Outside
  trace : List (Event Op Op.Response) := []
  commands : List UInt8 := []
  status : Status

def Session.after (trace : List (Event Op Op.Response)) (commands : List UInt8)
    (session : Session Outside) : Session Outside :=
  { session with trace := trace ++ session.trace, commands := commands ++ session.commands }

/-- `handleClientConnection` for at most the given number of turns. -/
def handleClientConnection (env : Environment Outside) : Nat → World Outside → Session Outside
  | 0, world => { world, status := .running }
  | turns + 1, world =>
      let outcome := turn.run (answer env) world
      match outcome.value with
      | none => { world := outcome.world, trace := outcome.trace, status := .threw }
      | some .idle =>
          (handleClientConnection env turns outcome.world).after outcome.trace []
      | some (.dispatched command true) =>
          (handleClientConnection env turns outcome.world).after outcome.trace [command]
      | some (.dispatched command false) =>
          { world := outcome.world, trace := outcome.trace, commands := [command],
            status := .returned }
      | some .failed => { world := outcome.world, trace := outcome.trace, status := .returned }
      | some .stopped => { world := outcome.world, trace := outcome.trace, status := .returned }

section Turns

variable {env : Environment Outside}

def takesByte (world : World Outside) : List (Event Op Op.Response) :=
  [⟨.stopRequested, false⟩, ⟨.recv 1, (LinuxSocketWrapper.recv 1 world).1⟩]

/-- After the end of the stream the received size is 0 and the loop goes round. -/
theorem turn_idle {world : World Outside} (ended : world.input = []) :
    turn.run (answer env) world = ⟨world, takesByte world, some .idle⟩ := by
  obtain ⟨input, output, state, connectionName, closed, outside⟩ := world
  subst ended
  rfl

theorem handleClientConnection_idle (turns : Nat) {world : World Outside}
    (ended : world.input = []) :
    handleClientConnection env (turns + 1) world =
      (handleClientConnection env turns world).after (takesByte world) [] := by
  rw [handleClientConnection, turn_idle ended]

section Arrived

variable {world : World Outside} {command : UInt8} {rest : List UInt8}

theorem turn_dispatch (arrived : world.input = command :: rest) :
    turn.run (answer env) world =
      ((Client.dispatchCommand command >>= fun keepSocketOpen => do
        if !keepSocketOpen then
          invoke .close
        return Turn.dispatched command keepSocketOpen).run (answer env)
          { world with input := rest }).after (takesByte world) := by
  obtain ⟨input, output, state, connectionName, closed, outside⟩ := world
  subst arrived
  rfl

theorem handleClientConnection_keeps (turns : Nat) (arrived : world.input = command :: rest)
    (keeps : ((Client.dispatchCommand command).run (answer env)
      { world with input := rest }).value = some true) :
    handleClientConnection env (turns + 1) world =
      (handleClientConnection env turns
        ((Client.dispatchCommand command).run (answer env)
          { world with input := rest }).world).after
          (takesByte world ++
            ((Client.dispatchCommand command).run (answer env) { world with input := rest }).trace)
          [command] := by
  rw [handleClientConnection, turn_dispatch arrived, Program.run_bind_of_value keeps]
  simp

theorem handleClientConnection_refuses (turns : Nat) (arrived : world.input = command :: rest)
    (refuses : ((Client.dispatchCommand command).run (answer env)
      { world with input := rest }).value = some false) :
    handleClientConnection env (turns + 1) world =
      { world := { ((Client.dispatchCommand command).run (answer env)
          { world with input := rest }).world with closed := true }
        trace := takesByte world ++ (((Client.dispatchCommand command).run (answer env)
          { world with input := rest }).trace ++ [⟨.close, ()⟩])
        commands := [command]
        status := .returned } := by
  rw [handleClientConnection, turn_dispatch arrived, Program.run_bind_of_value refuses]
  simp only [Bool.not_false, if_true, invoke, Program.call_bind, Program.ret_bind, Program.pure_eq]
  rw [Program.run_call_of_answer () _ rfl]
  simp

theorem handleClientConnection_throws (turns : Nat) (arrived : world.input = command :: rest)
    (throws : ((Client.dispatchCommand command).run (answer env)
      { world with input := rest }).value = none) :
    (handleClientConnection env (turns + 1) world).status = .threw := by
  rw [handleClientConnection, turn_dispatch arrived, Program.run_bind, throws]
  rfl

end Arrived

end Turns

end Server

end CeServer
