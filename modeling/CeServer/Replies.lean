import CeServer.Framing
import CeServer.Release

/-!
The bytes a command sends back, and the commands whose bytes do not depend on
anything they learn while sending.
-/

namespace CeServer

open LittleEndian Interaction

variable {Outside : Type} {env : Environment Outside} {Value : Type}

def Op.sent : Op → List UInt8
  | .send bytes => bytes
  | _ => []

def sent (trace : List (Event Op Op.Response)) : List UInt8 :=
  trace.flatMap fun event => event.op.sent

@[simp] theorem sent_nil : sent [] = [] := rfl

@[simp] theorem sent_cons (event : Event Op Op.Response) (trace : List (Event Op Op.Response)) :
    sent (event :: trace) = event.op.sent ++ sent trace :=
  List.flatMap_cons

@[simp] theorem sent_append (first second : List (Event Op Op.Response)) :
    sent (first ++ second) = sent first ++ sent second :=
  List.flatMap_append

theorem sent_effects (trace : List (Event Op Op.Response)) : sent (effects trace) = sent trace := by
  induction trace with
  | nil => rfl
  | cons event rest ih =>
      obtain ⟨op, response⟩ := event
      rw [sent_cons, ← ih]
      cases op <;> rfl

theorem SameEffect.sent {first second : Outcome Op Op.Response (World Outside) Value}
    (same : SameEffect first second) : CeServer.sent first.trace = CeServer.sent second.trace := by
  rw [← sent_effects, same.effects, sent_effects]

/-- Serving a complete request that is at the front of the stream. -/
def serve (env : Environment Outside) (request : Request) (world : World Outside) :
    Outcome Op Op.Response (World Outside) Bool :=
  (Client.dispatchCommand request.command.code).run (answer env)
    { world with input := request.payload ++ world.input }

theorem serve_perform (env : Environment Outside) (request : Request) (framed : request.Framed)
    (world : World Outside) :
    SameEffect (serve env request world) (request.perform.run (answer env) world) := by
  rw [serve, Client.dispatchCommand_code]
  exact handle_complete env request framed world world.input

theorem sent_of_emits {handler : Handler Value} (returns : handler.Uses Op.Returns)
    {bytes : List UInt8} (emits : handler.Emits Op.sent bytes) (world : World Outside) :
    sent (handler.run (answer env) world).trace = bytes := by
  obtain ⟨value, returned⟩ := returns.returns (fun _ allowed => answer_returns env allowed) world
  exact emits.trace returned

section Senders

theorem sendBytes_emits (bytes : List UInt8) : (sendBytes bytes).Emits Op.sent bytes :=
  ⟨[], (List.append_nil _).symm, fun _ => rfl⟩

theorem send_emits {T : Type} [Word T] (data : T) :
    (send data).Emits Op.sent (Word.toBytes data) :=
  sendBytes_emits _

/-- A name is sent by a call of its own, which an empty one does not need. -/
theorem sendName_emits (name : List UInt8) :
    (if !name.isEmpty then sendBytes name else pure () : Handler Unit).Emits Op.sent name := by
  cases name with
  | nil => rfl
  | cons byte rest => exact sendBytes_emits _

def processEntryBytes (hasNext : Bool) (processID : Int32) (name : List UInt8) : List UInt8 :=
  { result := if hasNext then 1 else 0, pid := processID,
    processnamesize := Int32.ofNat name.length : CeProcessEntry }.toBytes ++ name

theorem sendProcess32Entry_emits (hasNext : Bool) (processID : Int32) (name : List UInt8) :
    (Client.sendProcess32Entry hasNext processID name).Emits Op.sent
      (processEntryBytes hasNext processID name) :=
  (sendBytes_emits _).bind fun _ => sendName_emits name

def moduleEntryBytes (hasNext : Bool) (moduleBase : UInt64) (modulePart memoryRegionSize : Int32)
    (name : List UInt8) : List UInt8 :=
  { result := if hasNext then 1 else 0, modulebase := moduleBase, modulepart := modulePart,
    modulesize := memoryRegionSize,
    modulenamesize := Int32.ofNat name.length : CeModuleEntry }.toBytes ++ name

theorem sendModule32Entry_emits (hasNext : Bool) (moduleBase : UInt64)
    (modulePart memoryRegionSize : Int32) (fileOffset : UInt32) (name : List UInt8) :
    (Client.sendModule32Entry hasNext moduleBase modulePart memoryRegionSize fileOffset name).Emits
      Op.sent (moduleEntryBytes hasNext moduleBase modulePart memoryRegionSize name) :=
  (sendBytes_emits _).bind fun _ => sendName_emits name

end Senders

end CeServer
