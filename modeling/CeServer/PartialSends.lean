import CeServer.Replies

/-!
Sends that the socket accepts only in part: which bytes of a reply reach the
client, and whether the connection survives a hole in them.
-/

namespace CeServer

open LittleEndian Interaction

variable {Outside : Type} {env : Environment Outside} {Value : Type}

def Op.Sends (op : Op) : Prop := ∃ bytes, op = .send bytes

/-- The same environment, with a socket that takes every byte it is given. -/
def Environment.accepting (env : Environment Outside) : Environment Outside where
  respond
    | .send bytes, outside => ((bytes.length : Int), (env.respond (.send bytes) outside).2)
    | op, outside => env.respond op outside
  firstEntry := env.firstEntry

def acceptedBytes : (op : Op) → op.Response → List UInt8
  | .send bytes, result => bytes.take result.toNat
  | _, _ => []

/-- What the sends of a trace put on the wire. -/
def onWire (trace : List (Event Op Op.Response)) : List UInt8 :=
  trace.flatMap fun event => acceptedBytes event.op event.response

@[simp] theorem onWire_nil : onWire [] = [] := rfl

@[simp] theorem onWire_cons (event : Event Op Op.Response) (trace : List (Event Op Op.Response)) :
    onWire (event :: trace) = acceptedBytes event.op event.response ++ onWire trace :=
  List.flatMap_cons

/-- A send that left bytes behind: an error, or fewer bytes than asked. -/
def Short (event : Event Op Op.Response) : Prop :=
  (acceptedBytes event.op event.response).length < event.op.sent.length

def Accepted (trace : List (Event Op Op.Response)) : Prop := ∀ event ∈ trace, ¬Short event

section Traces

theorem acceptedBytes_begins (event : Event Op Op.Response) :
    acceptedBytes event.op event.response <+: event.op.sent := by
  obtain ⟨op, response⟩ := event
  cases op with
  | send bytes => exact List.take_prefix _ _
  | _ => exact List.prefix_rfl

theorem onWire_length_le (trace : List (Event Op Op.Response)) :
    (onWire trace).length ≤ (sent trace).length := by
  induction trace with
  | nil => exact Nat.le_refl _
  | cons event rest ih =>
      have first := (acceptedBytes_begins event).length_le
      rw [onWire_cons, sent_cons, List.length_append, List.length_append]
      omega

theorem onWire_of_accepted {trace : List (Event Op Op.Response)} (accepted : Accepted trace) :
    onWire trace = sent trace := by
  induction trace with
  | nil => rfl
  | cons event rest ih =>
      have whole : acceptedBytes event.op event.response = event.op.sent :=
        (acceptedBytes_begins event).eq_of_length_le
          (Nat.not_lt.mp (accepted event List.mem_cons_self))
      rw [onWire_cons, sent_cons, whole, ih fun later member =>
        accepted later (List.mem_cons_of_mem _ member)]

theorem onWire_length_lt {trace : List (Event Op Op.Response)} (lost : ¬Accepted trace) :
    (onWire trace).length < (sent trace).length := by
  obtain ⟨event, member, short⟩ : ∃ event ∈ trace, Short event := by
    simpa [Accepted] using lost
  obtain ⟨before, later, rfl⟩ := List.append_of_mem member
  have early := onWire_length_le before
  have late := onWire_length_le later
  unfold Short at short
  simp only [onWire, List.flatMap_append, List.flatMap_cons, List.length_append] at early late ⊢
  simp only [sent, List.flatMap_append, List.flatMap_cons, List.length_append] at early late ⊢
  omega

end Traces

section Deaf

open Client

abbrev Deaf (handler : Handler Value) : Prop := handler.Ignores Op.Sends

theorem Op.Sends.sends {op : Op} (sends : op.Sends) : op.sends := by
  obtain ⟨bytes, rfl⟩ := sends
  rfl

/-- No handler looks at the result of a send. -/
theorem handle_deaf (command : Command) : Deaf (handle command) := by
  have covers : CoversAll ⟨fun _ _ => True, fun _ => True, Op.Sends⟩ command :=
    ⟨⟨fun _ => Op.Sends.sends, fun _ _ _ => trivial⟩, fun _ => trivial, fun _ _ => trivial,
      fun _ _ _ => trivial⟩
  exact (handle_stays covers).ignores fun _ _ => trivial

theorem dispatchCommand_deaf (code : UInt8) : Deaf (dispatchCommand code) := by
  unfold dispatchCommand
  cases Command.ofCode code with
  | none => exact trivial
  | some command => exact handle_deaf command

end Deaf

section Counting

open Client

/-- The phase counts the sends. -/
def sendProtocol : Protocol Op Op.Response where
  Phase := Nat
  allows _ _ := True
  after
    | sends, .send _, _ => sends + 1
    | sends, _, _ => sends

/-- A command that refuses the connection sends once at most. -/
def SendsOnce (sends : Nat) (keepSocketOpen : Bool) : Prop := keepSocketOpen = false → sends ≤ 1

abbrev Concise (handler : Handler Bool) : Prop := sendProtocol.Ends SendsOnce (0 : Nat) handler

theorem ends_of_yields {handler : Handler Bool} (yields : handler.Yields (· = true))
    (sends : sendProtocol.Phase) : sendProtocol.Ends SendsOnce sends handler := by
  induction handler generalizing sends with
  | ret value =>
      intro refused
      exact absurd (refused.symm.trans yields) Bool.false_ne_true
  | call op next ih => exact ⟨trivial, fun response => ih response (yields response) _⟩

theorem keepOpen_concise (handler : Handler Unit) : Concise (keepOpen handler) := by
  apply ends_of_yields
  exact Program.Yields.bind handler fun _ => rfl

theorem quiet_concise {op : Op} {rest : op.Response → Handler Bool}
    (quiet : sendProtocol.Neutral (0 : Nat) op) (each : ∀ response, Concise (rest response)) :
    Concise (invoke op >>= rest) := by
  refine ⟨trivial, fun response => ?_⟩
  rw [quiet.2 response]
  exact each response

theorem read_concise {T : Type} [Word T] {rest : T → Handler Bool}
    (each : ∀ value, Concise (rest value)) : Concise (read T >>= rest) :=
  quiet_concise ⟨trivial, fun _ => rfl⟩ fun _ => each _

theorem check_concise {handle : CE_HANDLE} {body : Handler Bool} (concise : Concise body) :
    Concise (do
      if !(← invoke (.state (.containsProcessIDHandle handle))) then
        return false
      else
        body) := by
  refine quiet_concise ⟨trivial, fun _ => rfl⟩ fun present => ?_
  cases present with
  | false => exact fun _ => Nat.zero_le 1
  | true => exact concise

theorem Answers.concise {handle : CE_HANDLE} {handler : Handler Bool}
    (answers : Answers handle handler) : Concise handler := by
  obtain ⟨body, yields, rfl⟩ := answers
  exact check_concise (ends_of_yields yields _)

/-- Past the check of the handle, only a write that was cut short refuses. -/
theorem writeProcessMemory_concise (handle : CE_HANDLE) (address : UInt64) (size : Int32)
    (buffer : List UInt8) : Concise (writeProcessMemory handle address size buffer) := by
  apply check_concise
  refine quiet_concise ⟨trivial, fun _ => rfl⟩ fun processID =>
    quiet_concise ⟨trivial, fun _ => rfl⟩ fun written => ?_
  split
  · exact ⟨trivial, fun _ _ => Nat.le_refl 1⟩
  · exact ⟨trivial, fun _ _ => Nat.le_refl 1⟩

theorem selectHandle_neutral : selectHandle.Uses (sendProtocol.Neutral (0 : Nat)) := by
  refine (selectHandle_stays (fun op polls => ?_) fun _ => False.elim).uses
  refine ⟨trivial, fun _ => ?_⟩
  cases op <;> first | rfl | cases polls

theorem handle_concise (command : Command) : Concise (handle command) := by
  cases command with
  | closeConnection | terminateServer => exact fun _ => Nat.zero_le 1
  | readProcessMemory =>
      refine read_concise fun handle => read_concise fun address => read_concise fun size =>
        read_concise fun compress => ?_
      by_cases plain : compress = 0
      · subst plain
        exact (readProcessMemory_answers handle address size).concise
      · rw [readProcessMemory_compressed plain]
        exact fun _ => Nat.zero_le 1
  | writeProcessMemory =>
      refine read_concise fun handle => read_concise fun address => read_concise fun size =>
        ⟨trivial, fun contents => ⟨trivial, fun received => ?_⟩⟩
      exact writeProcessMemory_concise handle address size _
  | getArchitecture =>
      exact Protocol.Ends.bind selectHandle_neutral fun handle =>
        (getArchitecture_answers handle).concise
  | virtualQueryEx | getRegionInfo =>
      exact read_concise fun handle => read_concise fun address =>
        (regionInfo_answers _ handle address).concise
  | virtualQueryExFull =>
      exact read_concise fun handle => read_concise fun flags =>
        (virtualQueryExFull_answers handle flags).concise
  | _ => exact keepOpen_concise _

theorem dispatchCommand_concise (code : UInt8) : Concise (dispatchCommand code) := by
  unfold dispatchCommand
  cases Command.ofCode code with
  | none => exact fun _ => Nat.zero_le 1
  | some command => exact handle_concise command

end Counting

section Wire

theorem short_sends {event : Event Op Op.Response} (short : Short event) : event.op.Sends := by
  obtain ⟨op, response⟩ := event
  cases op with
  | send bytes => exact ⟨bytes, rfl⟩
  | _ => exact absurd short (Nat.lt_irrefl 0)

theorem sent_of_quiet {op : Op} (quiet : ¬op.Sends) : op.sent = [] := by
  cases op with
  | send bytes => exact absurd ⟨bytes, rfl⟩ quiet
  | _ => rfl

def sendCount (sends : Nat) (trace : List (Event Op Op.Response)) : Nat :=
  sendProtocol.reached sends trace

section Counts

variable {sends : Nat} {event : Event Op Op.Response} {trace : List (Event Op Op.Response)}

theorem sendCount_of_sends (calls : event.op.Sends) :
    sendCount sends (event :: trace) = sendCount (sends + 1) trace := by
  obtain ⟨op, response⟩ := event
  obtain ⟨bytes, rfl⟩ := calls
  rfl

theorem sendCount_of_quiet (quiet : ¬event.op.Sends) :
    sendCount sends (event :: trace) = sendCount sends trace := by
  obtain ⟨op, response⟩ := event
  cases op with
  | send bytes => exact absurd ⟨bytes, rfl⟩ quiet
  | _ => rfl

theorem le_sendCount (sends : Nat) (trace : List (Event Op Op.Response)) :
    sends ≤ sendCount sends trace := by
  induction trace generalizing sends with
  | nil => exact Nat.le_refl _
  | cons event rest ih =>
      by_cases calls : event.op.Sends
      · rw [sendCount_of_sends calls]
        exact (Nat.le_succ sends).trans (ih (sends + 1))
      · rw [sendCount_of_quiet calls]
        exact ih sends

theorem silent_of_sendCount (bounded : sendCount sends trace ≤ sends) :
    ∀ event ∈ trace, ¬event.op.Sends := by
  induction trace with
  | nil => exact fun _ member => absurd member List.not_mem_nil
  | cons event rest ih =>
      intro later member
      by_cases calls : event.op.Sends
      · rw [sendCount_of_sends calls] at bounded
        exact absurd bounded (Nat.not_le.mpr (le_sendCount (sends + 1) rest))
      · rw [sendCount_of_quiet calls] at bounded
        rcases List.mem_cons.mp member with rfl | member
        · exact calls
        · exact ih bounded later member

theorem sent_silent (silent : ∀ event ∈ trace, ¬event.op.Sends) : sent trace = [] := by
  induction trace with
  | nil => rfl
  | cons event rest ih =>
      rw [sent_cons, sent_of_quiet (silent event List.mem_cons_self),
        ih fun later member => silent later (List.mem_cons_of_mem _ member), List.nil_append]

theorem onWire_silent (silent : ∀ event ∈ trace, ¬event.op.Sends) : onWire trace = [] := by
  have bounded := onWire_length_le trace
  rw [sent_silent silent] at bounded
  exact List.eq_nil_of_length_eq_zero (Nat.le_zero.mp bounded)

/-- One send, however short, leaves no hole. -/
theorem onWire_begins (once : sendCount 0 trace ≤ 1) : onWire trace <+: sent trace := by
  induction trace with
  | nil => exact List.prefix_rfl
  | cons event rest ih =>
      rw [onWire_cons, sent_cons]
      by_cases calls : event.op.Sends
      · rw [sendCount_of_sends calls] at once
        have silent := silent_of_sendCount once
        rw [onWire_silent silent, sent_silent silent, List.append_nil, List.append_nil]
        exact acceptedBytes_begins event
      · rw [sendCount_of_quiet calls] at once
        have nothing := (acceptedBytes_begins event).length_le
        rw [sent_of_quiet calls] at nothing ⊢
        rw [List.eq_nil_of_length_eq_zero (Nat.le_zero.mp nothing)]
        exact ih once

theorem silent_after {earlier : List (Event Op Op.Response)}
    (once : sendCount 0 (earlier ++ event :: trace) ≤ 1) (calls : event.op.Sends) :
    ∀ later ∈ trace, ¬later.op.Sends := by
  have split : sendCount 0 (earlier ++ event :: trace) =
      sendCount (sendCount 0 earlier) (event :: trace) := List.foldl_append
  rw [split, sendCount_of_sends calls] at once
  have counted := le_sendCount (sendCount 0 earlier + 1) trace
  have first := le_sendCount 0 earlier
  have bounded : sendCount (sendCount 0 earlier + 1) trace ≤ sendCount 0 earlier + 1 := by omega
  exact silent_of_sendCount bounded

end Counts

/-- The bytes of the reply, had the socket taken them all. -/
def intended (env : Environment Outside) (code : UInt8) (world : World Outside) : List UInt8 :=
  sent ((Client.dispatchCommand code).run (answer env.accepting) world).trace

/-- The two sockets leave different bytes on the wire and nothing else. -/
def SameButOutput (first second : World Outside) : Prop :=
  ∃ output, second = { first with output := output }

theorem answer_accepting (env : Environment Outside) (op : Op) {first second : World Outside}
    (same : SameButOutput first second) :
    (answer env op first = none ∧ answer env.accepting op second = none) ∨
      ∃ response firstLater reaction secondLater,
        answer env op first = some (response, firstLater) ∧
        answer env.accepting op second = some (reaction, secondLater) ∧
        SameButOutput firstLater secondLater ∧ (op.Sends ∨ response = reaction) := by
  obtain ⟨output, rfl⟩ := same
  cases op with
  | send bytes => exact Or.inr ⟨_, _, _, _, rfl, rfl, ⟨_, rfl⟩, Or.inl ⟨bytes, rfl⟩⟩
  | recvNonBlocking size =>
      have polls : env.accepting.respond (.recvNonBlocking size) first.outside =
          env.respond (.recvNonBlocking size) first.outside := rfl
      simp only [answer, LinuxSocketWrapper.recvNonBlocking, polls]
      split
      · exact Or.inr ⟨_, _, _, _, rfl, rfl, ⟨output, rfl⟩, Or.inr rfl⟩
      · exact Or.inr ⟨_, _, _, _, rfl, rfl, ⟨output, rfl⟩, Or.inr rfl⟩
  | newCharArray size =>
      by_cases negative : size < 0
      · exact Or.inl ⟨if_pos negative, if_pos negative⟩
      · exact Or.inr ⟨_, _, _, _, if_neg negative, if_neg negative, ⟨output, rfl⟩, Or.inr rfl⟩
  | readProcessInfo entry =>
      simp only [answer]
      split
      · exact Or.inr ⟨_, _, _, _, rfl, rfl, ⟨output, rfl⟩, Or.inr rfl⟩
      · exact Or.inr ⟨_, _, _, _, rfl, rfl, ⟨output, rfl⟩, Or.inr rfl⟩
  | readMemoryRegion entry =>
      simp only [answer]
      split
      · exact Or.inr ⟨_, _, _, _, rfl, rfl, ⟨output, rfl⟩, Or.inr rfl⟩
      · exact Or.inr ⟨_, _, _, _, rfl, rfl, ⟨output, rfl⟩, Or.inr rfl⟩
  | state op => exact Or.inr ⟨_, _, _, _, rfl, rfl, ⟨output, rfl⟩, Or.inr rfl⟩
  | _ => exact Or.inr ⟨_, _, _, _, rfl, rfl, ⟨output, rfl⟩, Or.inr rfl⟩

theorem sent_intended (env : Environment Outside) (code : UInt8) (world : World Outside) :
    sent ((Client.dispatchCommand code).run (answer env) world).trace =
      intended env code world := by
  have start : SameButOutput world world := ⟨world.output, rfl⟩
  have same := ((dispatchCommand_deaf code).run
    (fun op _ _ same => answer_accepting env op same) start).2
  have bytes (trace : List (Event Op Op.Response)) :
      sent trace = (trace.map Event.op).flatMap Op.sent := (List.flatMap_map ..).symm
  rw [intended, bytes, same, bytes]

theorem answer_output (env : Environment Outside) (op : Op) (world : World Outside)
    (response : op.Response) (later : World Outside)
    (answered : answer env op world = some (response, later)) :
    later.output = world.output ++ acceptedBytes op response := by
  cases op with
  | send bytes =>
      cases answered
      rfl
  | recvNonBlocking size =>
      simp only [answer, LinuxSocketWrapper.recvNonBlocking] at answered
      split at answered
      · cases answered
        exact (List.append_nil _).symm
      · cases answered
        exact (List.append_nil _).symm
  | newCharArray size =>
      simp only [answer] at answered
      split at answered
      · cases answered
      · cases answered
        exact (List.append_nil _).symm
  | readProcessInfo entry | readMemoryRegion entry =>
      simp only [answer] at answered
      split at answered
      · cases answered
        exact (List.append_nil _).symm
      · cases answered
        exact (List.append_nil _).symm
  | _ =>
      cases answered
      exact (List.append_nil _).symm

theorem run_output (env : Environment Outside) (handler : Handler Value) (world : World Outside) :
    (handler.run (answer env) world).world.output =
      world.output ++ onWire (handler.run (answer env) world).trace :=
  Program.run_logs (answer_output env) handler world

end Wire

open Server

/-- The command of one turn of `handleClientConnection`, its fields being the
front of the stream. -/
def arrived (code : UInt8) (world : World Outside) : World Outside :=
  { world with input := code :: world.input }

def Closes (env : Environment Outside) (code : UInt8) (world : World Outside) : Prop :=
  (handleClientConnection env 1 (arrived code world)).status = .returned ∧
    ⟨.close, ()⟩ ∈ (handleClientConnection env 1 (arrived code world)).trace

theorem closes_iff (env : Environment Outside) (code : UInt8) (world : World Outside) :
    Closes env code world ↔ commandKeepsSocketOpen env world code = some false := by
  have value := dispatchCommand_value env code world
  have first : (arrived code world).input = code :: world.input := rfl
  constructor
  · rintro ⟨returned, closed⟩
    cases keeps : commandKeepsSocketOpen env world code with
    | none =>
        rw [handleClientConnection_throws 0 first (value.trans keeps)] at returned
        exact absurd returned (by decide)
    | some keepSocketOpen =>
        cases keepSocketOpen with
        | false => rfl
        | true =>
            rw [handleClientConnection_keeps 0 first (value.trans keeps)] at returned
            exact absurd (show Status.running = .returned from returned) (by decide)
  · intro refuses
    rw [Closes, handleClientConnection_refuses 0 first (value.trans refuses)]
    exact ⟨rfl, by simp⟩

/-- What a command puts on the wire is a beginning of its reply, and one that
stops short is the last thing the connection carries. -/
structure NoHole (env : Environment Outside) (code : UInt8) (world : World Outside) : Prop where
  begins : ((Client.dispatchCommand code).run (answer env) world).world.output <+:
    world.output ++ intended env code world
  stops : ((Client.dispatchCommand code).run (answer env) world).world.output ≠
      world.output ++ intended env code world →
    ∀ earlier event later,
      ((Client.dispatchCommand code).run (answer env) world).trace = earlier ++ event :: later →
        Short event → ∀ next ∈ later, ¬next.op.Sends
  closes : ((Client.dispatchCommand code).run (answer env) world).world.output ≠
      world.output ++ intended env code world → Closes env code world

/-- No handler looks at what a send returned: a reply has no hole exactly when
the socket takes every byte of it, or when the command closes the connection
anyway. -/
theorem noHole_iff (env : Environment Outside) (code : UInt8) (world : World Outside) :
    NoHole env code world ↔
      commandKeepsSocketOpen env world code = some false ∨
        Accepted ((Client.dispatchCommand code).run (answer env) world).trace := by
  have output := run_output env (Client.dispatchCommand code) world
  have reply := sent_intended env code world
  constructor
  · intro whole
    by_cases accepted : Accepted ((Client.dispatchCommand code).run (answer env) world).trace
    · exact Or.inr accepted
    · left
      have fewer := onWire_length_lt accepted
      rw [reply] at fewer
      refine (closes_iff env code world).mp (whole.closes fun complete => ?_)
      rw [output] at complete
      rw [List.append_cancel_left complete] at fewer
      exact Nat.lt_irrefl _ fewer
  · rintro (refuses | accepted)
    · have value := (dispatchCommand_value env code world).trans refuses
      have once : sendCount 0 ((Client.dispatchCommand code).run (answer env) world).trace ≤ 1 :=
        Protocol.Ends.value (dispatchCommand_concise code) value rfl
      refine ⟨?_, fun _ earlier event later calls short => ?_, fun _ => ?_⟩
      · rw [output, ← reply]
        exact (List.prefix_append_right_inj _).mpr (onWire_begins once)
      · rw [calls] at once
        exact silent_after once (short_sends short)
      · exact (closes_iff env code world).mpr refuses
    · have complete : ((Client.dispatchCommand code).run (answer env) world).world.output =
          world.output ++ intended env code world := by
        rw [output, onWire_of_accepted accepted, reply]
      exact ⟨complete ▸ List.prefix_rfl, absurd complete, absurd complete⟩

section Samples

/-- A socket that takes half of every buffer. -/
noncomputable def halfSocket : Environment Unit where
  respond
    | .send bytes, _ => ((bytes.length / 2 : Nat), ())
    | op, outside => Environment.healthy.respond op outside
  firstEntry := Environment.healthy.firstEntry

/-- The version string follows a header that was cut in the middle. -/
theorem version_afterHole :
    ¬∀ (env : Environment Unit) (code : UInt8) (world : World Unit), NoHole env code world := by
  intro whole
  have begins := (whole halfSocket 0 ⟨[], [], {}, [], false, ()⟩).begins
  have wire : ((Client.dispatchCommand 0).run (answer halfSocket)
      ⟨[], [], {}, [], false, ()⟩).world.output = [6, 0] ++ asciiBytes "CHEATENGINE" := by decide
  have reply : intended halfSocket 0 ⟨[], [], {}, [], false, ()⟩ =
      [6, 0, 0, 0, 23] ++ Client.VERSION_STRING := by decide
  rw [wire, reply] at begins
  exact absurd begins (by decide)

end Samples

end CeServer
