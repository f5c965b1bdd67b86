import Mathlib.Data.List.Basic

/-!
Programs that call the operations of a signature and continue with the
responses. One program has many meanings: `run` answers its calls from a world
one after the other, and a scheduler may also interleave the calls of several
programs.
-/

namespace Interaction

inductive Program (Op : Type) (Response : Op → Type) (Value : Type) : Type
  | ret (value : Value)
  | call (op : Op) (next : Response op → Program Op Response Value)

variable {Op : Type} {Response : Op → Type} {Value Result World : Type}

namespace Program

def andThen : Program Op Response Value → (Value → Program Op Response Result) →
    Program Op Response Result
  | ret value, rest => rest value
  | call op next, rest => call op fun response => (next response).andThen rest

instance : Monad (Program Op Response) where
  pure := ret
  bind := andThen

@[simp] theorem pure_eq (value : Value) :
    (pure value : Program Op Response Value) = ret value := rfl

@[simp] theorem ret_bind (value : Value) (rest : Value → Program Op Response Result) :
    (ret value >>= rest) = rest value := rfl

@[simp] theorem call_bind (op : Op) (next : Response op → Program Op Response Value)
    (rest : Value → Program Op Response Result) :
    (call op next >>= rest) = call op fun response => next response >>= rest := rfl

theorem bind_assoc {Final : Type} (program : Program Op Response Value)
    (second : Value → Program Op Response Result) (third : Result → Program Op Response Final) :
    (program >>= second >>= third) = (program >>= fun value => second value >>= third) := by
  induction program with
  | ret value => rfl
  | call op next ih =>
      simp only [call_bind]
      congr 1
      funext response
      exact ih response

end Program

structure Event (Op : Type) (Response : Op → Type) where
  op : Op
  response : Response op

/-- How a run ends: `none` is an exception that left the program. -/
structure Outcome (Op : Type) (Response : Op → Type) (World Value : Type) where
  world : World
  trace : List (Event Op Response)
  value : Option Value

namespace Outcome

def after (past : List (Event Op Response)) (outcome : Outcome Op Response World Value) :
    Outcome Op Response World Value :=
  { outcome with trace := past ++ outcome.trace }

@[simp] theorem after_world (past : List (Event Op Response))
    (outcome : Outcome Op Response World Value) : (outcome.after past).world = outcome.world := rfl

@[simp] theorem after_trace (past : List (Event Op Response))
    (outcome : Outcome Op Response World Value) :
    (outcome.after past).trace = past ++ outcome.trace := rfl

@[simp] theorem after_value (past : List (Event Op Response))
    (outcome : Outcome Op Response World Value) : (outcome.after past).value = outcome.value := rfl

@[simp] theorem after_after (past later : List (Event Op Response))
    (outcome : Outcome Op Response World Value) :
    (outcome.after later).after past = outcome.after (past ++ later) := by
  simp [after]

@[simp] theorem after_nil (outcome : Outcome Op Response World Value) :
    outcome.after [] = outcome := rfl

end Outcome

namespace Program

/-- `answer` gives the response to a call and the world after it, or `none`
when the call throws. -/
def run (answer : (op : Op) → World → Option (Response op × World)) :
    Program Op Response Value → World → Outcome Op Response World Value
  | ret value, world => ⟨world, [], some value⟩
  | call op next, world =>
      match answer op world with
      | none => ⟨world, [], none⟩
      | some (response, world) => ((next response).run answer world).after [⟨op, response⟩]

section Run

variable {answer : (op : Op) → World → Option (Response op × World)}

@[simp] theorem run_ret (value : Value) (world : World) :
    (ret value : Program Op Response Value).run answer world = ⟨world, [], some value⟩ := rfl

theorem run_call (op : Op) (next : Response op → Program Op Response Value) (world : World) :
    (call op next).run answer world =
      match answer op world with
      | none => ⟨world, [], none⟩
      | some (response, world) => ((next response).run answer world).after [⟨op, response⟩] := by
  rw [run]

theorem run_call_of_answer {op : Op} {world : World} (response : Response op) (later : World)
    (answered : answer op world = some (response, later))
    (next : Response op → Program Op Response Value) :
    (call op next).run answer world =
      ((next response).run answer later).after [⟨op, response⟩] := by
  simp only [run_call, answered]

theorem run_call_of_throw {op : Op} {world : World} (thrown : answer op world = none)
    (next : Response op → Program Op Response Value) :
    (call op next).run answer world = ⟨world, [], none⟩ := by
  simp only [run_call, thrown]

theorem run_bind (program : Program Op Response Value)
    (rest : Value → Program Op Response Result) (world : World) :
    (program >>= rest).run answer world =
      match (program.run answer world).value with
      | none => ⟨(program.run answer world).world, (program.run answer world).trace, none⟩
      | some value => ((rest value).run answer (program.run answer world).world).after
          (program.run answer world).trace := by
  induction program generalizing world with
  | ret value => rfl
  | call op next ih =>
      rw [call_bind, run_call, run_call]
      cases answered : answer op world with
      | none => rfl
      | some pair =>
          simp only [ih, Outcome.after_value, Outcome.after_world, Outcome.after_trace]
          cases ((next pair.1).run answer pair.2).value <;> simp [Outcome.after]

theorem run_bind_of_value {program : Program Op Response Value} {world : World} {value : Value}
    (returned : (program.run answer world).value = some value)
    (rest : Value → Program Op Response Result) :
    (program >>= rest).run answer world =
      ((rest value).run answer (program.run answer world).world).after
        (program.run answer world).trace := by
  simp only [run_bind, returned]

/-- A log that each answered call extends holds the trace of the run. -/
theorem run_logs {Symbol : Type} {log : World → List Symbol}
    {entry : (op : Op) → Response op → List Symbol}
    (appends : ∀ op world response later, answer op world = some (response, later) →
      log later = log world ++ entry op response)
    (program : Program Op Response Value) (world : World) :
    log (program.run answer world).world =
      log world ++ (program.run answer world).trace.flatMap
        fun event => entry event.op event.response := by
  induction program generalizing world with
  | ret value => exact (List.append_nil _).symm
  | call op next ih =>
      rw [run_call]
      cases answered : answer op world with
      | none => exact (List.append_nil _).symm
      | some pair =>
          simp only [Outcome.after_world, Outcome.after_trace, List.cons_append, List.nil_append,
            List.flatMap_cons]
          rw [ih, appends op world pair.1 pair.2 answered, List.append_assoc]

theorem answered_of_mem_trace {program : Program Op Response Value} {world : World}
    {event : Event Op Response} (member : event ∈ (program.run answer world).trace) :
    ∃ before later, answer event.op before = some (event.response, later) := by
  induction program generalizing world with
  | ret value => exact absurd member List.not_mem_nil
  | call op next ih =>
      rw [run_call] at member
      cases answered : answer op world with
      | none => simp [answered] at member
      | some pair =>
          simp only [answered, Outcome.after_trace, List.cons_append, List.nil_append,
            List.mem_cons] at member
          rcases member with rfl | later
          · exact ⟨world, pair.2, answered⟩
          · exact ih pair.1 later

/-- A run that returns is the same under answers to more calls. -/
theorem run_of_defined {other : (op : Op) → World → Option (Response op × World)}
    (defined : ∀ op world pair, answer op world = some pair → other op world = some pair)
    {program : Program Op Response Value} {world : World} {value : Value}
    (returned : (program.run answer world).value = some value) :
    program.run other world = program.run answer world := by
  induction program generalizing world with
  | ret value => rfl
  | call op next ih =>
      rw [run_call] at returned
      rw [run_call, run_call]
      cases answered : answer op world with
      | none => simp [answered] at returned
      | some pair =>
          simp only [answered, Outcome.after_value] at returned
          simp only [defined op world pair answered, ih pair.1 returned]

end Run

/-- Every call the program can make, whatever the responses, is allowed. -/
def Uses (allowed : Op → Prop) : Program Op Response Value → Prop
  | ret _ => True
  | call op next => allowed op ∧ ∀ response, (next response).Uses allowed

section Uses

variable {allowed : Op → Prop} {answer : (op : Op) → World → Option (Response op × World)}

@[simp] theorem uses_ret (value : Value) :
    (ret value : Program Op Response Value).Uses allowed ↔ True := Iff.rfl

@[simp] theorem uses_call (op : Op) (next : Response op → Program Op Response Value) :
    (call op next).Uses allowed ↔ allowed op ∧ ∀ response, (next response).Uses allowed := Iff.rfl

@[simp] theorem uses_ite {condition : Prop} [Decidable condition]
    (first second : Program Op Response Value) :
    (if condition then first else second).Uses allowed ↔
      (condition → first.Uses allowed) ∧ (¬condition → second.Uses allowed) := by
  split <;> simp [*]

theorem uses_all (program : Program Op Response Value) : program.Uses fun _ => True := by
  induction program with
  | ret value => exact trivial
  | call op next ih => exact ⟨trivial, ih⟩

theorem Uses.bind {program : Program Op Response Value}
    {rest : Value → Program Op Response Result} (first : program.Uses allowed)
    (second : ∀ value, (rest value).Uses allowed) : (program >>= rest).Uses allowed := by
  induction program with
  | ret value => exact second value
  | call op next ih => exact ⟨first.1, fun response => ih response (first.2 response)⟩

theorem Uses.forM {Item : Type} {body : Item → Program Op Response PUnit} {items : List Item}
    (each : ∀ item ∈ items, (body item).Uses allowed) : (items.forM body).Uses allowed := by
  induction items with
  | nil => exact trivial
  | cons item rest ih =>
      change (body item >>= fun _ => rest.forM body).Uses allowed
      exact (each item (by simp)).bind fun _ => ih fun later member => each later (by simp [member])

theorem Uses.trace {program : Program Op Response Value} (uses : program.Uses allowed)
    (world : World) : ∀ event ∈ (program.run answer world).trace, allowed event.op := by
  induction program generalizing world with
  | ret value => simp
  | call op next ih =>
      rw [run_call]
      cases answer op world with
      | none => simp
      | some pair =>
          intro event member
          rcases List.mem_cons.mp member with rfl | later
          · exact uses.1
          · exact ih pair.1 (uses.2 pair.1) pair.2 event later

/-- What no allowed call changes, the program does not change. -/
theorem Uses.frame {Part : Type} {part : World → Part} {program : Program Op Response Value}
    (uses : program.Uses allowed)
    (kept : ∀ op, allowed op → ∀ world response later,
      answer op world = some (response, later) → part later = part world)
    (world : World) : part (program.run answer world).world = part world := by
  induction program generalizing world with
  | ret value => rfl
  | call op next ih =>
      rw [run_call]
      cases answered : answer op world with
      | none => rfl
      | some pair =>
          rw [Outcome.after_world, ih pair.1 (uses.2 pair.1)]
          exact kept op uses.1 world pair.1 pair.2 answered

theorem Uses.invariant {holds : World → Prop} {program : Program Op Response Value}
    (uses : program.Uses allowed)
    (preserved : ∀ op, allowed op → ∀ world response later, holds world →
      answer op world = some (response, later) → holds later)
    (world : World) (initially : holds world) : holds (program.run answer world).world := by
  induction program generalizing world with
  | ret value => exact initially
  | call op next ih =>
      rw [run_call]
      cases answered : answer op world with
      | none => exact initially
      | some pair =>
          exact ih pair.1 (uses.2 pair.1) pair.2
            (preserved op uses.1 world pair.1 pair.2 initially answered)

theorem Uses.returns {program : Program Op Response Value} (uses : program.Uses allowed)
    (answered : ∀ op, allowed op → ∀ world, (answer op world).isSome) (world : World) :
    ∃ value, (program.run answer world).value = some value := by
  induction program generalizing world with
  | ret value => exact ⟨value, rfl⟩
  | call op next ih =>
      obtain ⟨pair, first⟩ := Option.isSome_iff_exists.mp (answered op uses.1 world)
      rw [run_call_of_answer pair.1 pair.2 first]
      exact ih pair.1 (uses.2 pair.1) pair.2

/-- Answers that agree on all calls a program can make. -/
theorem Uses.run_congr {other : (op : Op) → World → Option (Response op × World)}
    {program : Program Op Response Value} (uses : program.Uses allowed)
    (agree : ∀ op, allowed op → ∀ world, answer op world = other op world) (world : World) :
    program.run answer world = program.run other world := by
  induction program generalizing world with
  | ret value => rfl
  | call op next ih =>
      rw [run_call, run_call, agree op uses.1 world]
      cases other op world with
      | none => rfl
      | some pair => simp only [ih pair.1 (uses.2 pair.1)]

theorem Uses.mono {wider : Op → Prop} {program : Program Op Response Value}
    (uses : program.Uses allowed) (included : ∀ op, allowed op → wider op) :
    program.Uses wider := by
  induction program with
  | ret value => exact trivial
  | call op next ih => exact ⟨included op uses.1, fun response => ih response (uses.2 response)⟩

end Uses

/-- Every value the program can return, whatever the responses, satisfies `holds`. -/
def Yields (holds : Value → Prop) : Program Op Response Value → Prop
  | ret value => holds value
  | call _ next => ∀ response, (next response).Yields holds

section Yields

variable {holds : Value → Prop} {answer : (op : Op) → World → Option (Response op × World)}

theorem yields_ite {condition : Prop} [Decidable condition]
    {first second : Program Op Response Value} :
    (if condition then first else second).Yields holds ↔
      (condition → first.Yields holds) ∧ (¬condition → second.Yields holds) := by
  split <;> simp [*]

theorem Yields.bind {Result : Type} {holds : Result → Prop} (program : Program Op Response Value)
    {rest : Value → Program Op Response Result} (each : ∀ value, (rest value).Yields holds) :
    (program >>= rest).Yields holds := by
  induction program with
  | ret value => exact each value
  | call op next ih => exact ih

theorem Yields.value {program : Program Op Response Value} (yields : program.Yields holds)
    {world : World} {value : Value} (returned : (program.run answer world).value = some value) :
    holds value := by
  induction program generalizing world with
  | ret result =>
      obtain rfl := Option.some.inj returned
      exact yields
  | call op next ih =>
      rw [run_call] at returned
      cases answered : answer op world with
      | none => simp [answered] at returned
      | some pair =>
          simp only [answered, Outcome.after_value] at returned
          exact ih pair.1 (yields pair.1) returned

end Yields

/-- Every value the program can return on admitted responses satisfies `holds`. -/
def YieldsGiven (admits : (op : Op) → Response op → Prop) (holds : Value → Prop) :
    Program Op Response Value → Prop
  | ret value => holds value
  | call op next => ∀ response, admits op response → (next response).YieldsGiven admits holds

section YieldsGiven

variable {admits : (op : Op) → Response op → Prop} {holds : Value → Prop}
  {answer : (op : Op) → World → Option (Response op × World)}

theorem yieldsGiven_ite {condition : Prop} [Decidable condition]
    {first second : Program Op Response Value} :
    (if condition then first else second).YieldsGiven admits holds ↔
      (condition → first.YieldsGiven admits holds) ∧
        (¬condition → second.YieldsGiven admits holds) := by
  split <;> simp [*]

theorem YieldsGiven.bind {Result : Type} {holds : Result → Prop}
    (program : Program Op Response Value) {rest : Value → Program Op Response Result}
    (each : ∀ value, (rest value).YieldsGiven admits holds) :
    (program >>= rest).YieldsGiven admits holds := by
  induction program with
  | ret value => exact each value
  | call op next ih => exact fun response _ => ih response

theorem YieldsGiven.mono {wider : Value → Prop} {program : Program Op Response Value}
    (yields : program.YieldsGiven admits holds) (included : ∀ value, holds value → wider value) :
    program.YieldsGiven admits wider := by
  induction program with
  | ret value => exact included value yields
  | call op next ih => exact fun response admitted => ih response (yields response admitted)

theorem YieldsGiven.value {program : Program Op Response Value}
    (yields : program.YieldsGiven admits holds) {world : World} {value : Value}
    (admitted : ∀ event ∈ (program.run answer world).trace, admits event.op event.response)
    (returned : (program.run answer world).value = some value) : holds value := by
  induction program generalizing world with
  | ret result =>
      obtain rfl := Option.some.inj returned
      exact yields
  | call op next ih =>
      rw [run_call] at admitted returned
      cases answered : answer op world with
      | none => simp [answered] at returned
      | some pair =>
          simp only [answered, Outcome.after_value] at returned
          simp only [answered, Outcome.after_trace, List.cons_append, List.nil_append,
            List.forall_mem_cons] at admitted
          exact ih pair.1 (yields pair.1 admitted.1) admitted.2 returned

end YieldsGiven

/-- Whatever the responses, the calls of the program put out these symbols. -/
def Emits {Symbol : Type} (output : Op → List Symbol) :
    List Symbol → Program Op Response Value → Prop
  | symbols, ret _ => symbols = []
  | symbols, call op next =>
      ∃ rest, symbols = output op ++ rest ∧ ∀ response, (next response).Emits output rest

section Emits

variable {Symbol : Type} {output : Op → List Symbol}
  {answer : (op : Op) → World → Option (Response op × World)}

theorem Emits.bind {program : Program Op Response Value}
    {rest : Value → Program Op Response Result} {first second : List Symbol}
    (early : program.Emits output first) (late : ∀ value, (rest value).Emits output second) :
    (program >>= rest).Emits output (first ++ second) := by
  induction program generalizing first with
  | ret value =>
      rw [show first = [] from early]
      exact late value
  | call op next ih =>
      obtain ⟨remaining, rfl, following⟩ := early
      rw [List.append_assoc]
      exact ⟨remaining ++ second, rfl, fun response => ih response (following response)⟩

theorem Emits.forM {Item : Type} {body : Item → Program Op Response PUnit}
    {symbols : Item → List Symbol} (items : List Item)
    (each : ∀ item, (body item).Emits output (symbols item)) :
    (items.forM body).Emits output (items.flatMap symbols) := by
  induction items with
  | nil => rfl
  | cons item rest ih =>
      change (body item >>= fun _ => rest.forM body).Emits output _
      rw [List.flatMap_cons]
      exact (each item).bind fun _ => ih

theorem Emits.trace {program : Program Op Response Value} {symbols : List Symbol}
    (emits : program.Emits output symbols) {world : World} {value : Value}
    (returned : (program.run answer world).value = some value) :
    ((program.run answer world).trace.flatMap fun event => output event.op) = symbols := by
  induction program generalizing world symbols with
  | ret result => exact (show symbols = [] from emits).symm
  | call op next ih =>
      obtain ⟨remaining, rfl, following⟩ := emits
      rw [run_call] at returned ⊢
      cases answered : answer op world with
      | none => simp [answered] at returned
      | some pair =>
          simp only [answered, Outcome.after_value] at returned
          have later := ih pair.1 (following pair.1) returned
          simp [later]

end Emits

/-- The program goes on in the same way whatever an ignored call answers. -/
def Ignores (ignored : Op → Prop) : Program Op Response Value → Prop
  | ret _ => True
  | call op next => (ignored op → ∀ first second, next first = next second) ∧
      ∀ response, (next response).Ignores ignored

section Ignores

variable {ignored : Op → Prop}

/-- Answers that differ on ignored calls only lead to the same calls. -/
theorem Ignores.run {answer other : (op : Op) → World → Option (Response op × World)}
    {related : World → World → Prop} {program : Program Op Response Value}
    (ignores : program.Ignores ignored)
    (matched : ∀ op left right, related left right →
      (answer op left = none ∧ other op right = none) ∨
      ∃ response leftLater reaction rightLater, answer op left = some (response, leftLater) ∧
        other op right = some (reaction, rightLater) ∧ related leftLater rightLater ∧
        (ignored op ∨ response = reaction))
    {left right : World} (start : related left right) :
    (program.run answer left).value = (program.run other right).value ∧
      (program.run answer left).trace.map Event.op =
        (program.run other right).trace.map Event.op := by
  induction program generalizing left right with
  | ret value => exact ⟨rfl, rfl⟩
  | call op next ih =>
      rcases matched op left right start with ⟨first, second⟩ |
        ⟨response, leftLater, reaction, rightLater, first, second, still, alike⟩
      · rw [run_call_of_throw first, run_call_of_throw second]
        exact ⟨rfl, rfl⟩
      · rw [run_call_of_answer _ _ first, run_call_of_answer _ _ second]
        have same : next response = next reaction := by
          rcases alike with ignore | equal
          · exact ignores.1 ignore response reaction
          · rw [equal]
        obtain ⟨value, trace⟩ := ih response (ignores.2 response) still
        rw [same] at value trace
        constructor
        · simpa only [same, Outcome.after_value] using value
        · simpa only [same, Outcome.after_trace, List.map_append, List.map_cons, List.map_nil,
            List.append_cancel_left_eq] using trace

end Ignores

end Program

/-- A discipline on the calls of a program: what may be called in a phase, and
the phase a response leads to. -/
structure Protocol (Op : Type) (Response : Op → Type) where
  Phase : Type
  allows : Phase → Op → Prop
  after : Phase → (op : Op) → Response op → Phase

namespace Protocol

variable {protocol : Protocol Op Response}

/-- Every run of the program keeps to the protocol and returns a value that
suits the phase it ends in. -/
def Ends (protocol : Protocol Op Response) (post : protocol.Phase → Value → Prop) :
    protocol.Phase → Program Op Response Value → Prop
  | phase, .ret value => post phase value
  | phase, .call op next => protocol.allows phase op ∧
      ∀ response, Ends protocol post (protocol.after phase op response) (next response)

abbrev Follows (protocol : Protocol Op Response) :
    protocol.Phase → Program Op Response Value → Prop :=
  protocol.Ends fun _ _ => True

def Neutral (protocol : Protocol Op Response) (phase : protocol.Phase) (op : Op) : Prop :=
  protocol.allows phase op ∧ ∀ response, protocol.after phase op response = phase

theorem Ends.bind {post : protocol.Phase → Result → Prop} {phase : protocol.Phase}
    {program : Program Op Response Value} {rest : Value → Program Op Response Result}
    (neutral : program.Uses (protocol.Neutral phase))
    (each : ∀ value, protocol.Ends post phase (rest value)) :
    protocol.Ends post phase (program >>= rest) := by
  induction program with
  | ret value => exact each value
  | call op next ih =>
      refine ⟨neutral.1.1, fun response => ?_⟩
      rw [neutral.1.2 response]
      exact ih response (neutral.2 response)

/-- The calls that a set of phases allows and that lead to no other phase. -/
def Within (protocol : Protocol Op Response) (within : protocol.Phase → Prop) (op : Op) : Prop :=
  ∀ phase, within phase →
    protocol.allows phase op ∧ ∀ response, within (protocol.after phase op response)

theorem Ends.bind_within {post : protocol.Phase → Result → Prop} {within : protocol.Phase → Prop}
    {program : Program Op Response Value} {rest : Value → Program Op Response Result}
    (uses : program.Uses (protocol.Within within))
    (each : ∀ phase value, within phase → protocol.Ends post phase (rest value))
    {phase : protocol.Phase} (initially : within phase) :
    protocol.Ends post phase (program >>= rest) := by
  induction program generalizing phase with
  | ret value => exact each phase value initially
  | call op next ih =>
      obtain ⟨allowed, kept⟩ := uses.1 phase initially
      exact ⟨allowed, fun response => ih response (uses.2 response) (kept response)⟩

/-- The phase a run has led to. -/
def reached (protocol : Protocol Op Response) (phase : protocol.Phase)
    (trace : List (Event Op Response)) : protocol.Phase :=
  trace.foldl (fun phase event => protocol.after phase event.op event.response) phase

theorem Ends.value {post : protocol.Phase → Value → Prop} {phase : protocol.Phase}
    {program : Program Op Response Value}
    {answer : (op : Op) → World → Option (Response op × World)}
    (ends : protocol.Ends post phase program) {world : World} {value : Value}
    (returned : (program.run answer world).value = some value) :
    post (protocol.reached phase (program.run answer world).trace) value := by
  induction program generalizing phase world with
  | ret result =>
      obtain rfl := Option.some.inj returned
      exact ends
  | call op next ih =>
      rw [Program.run_call] at returned ⊢
      cases answered : answer op world with
      | none => simp [answered] at returned
      | some pair =>
          simp only [answered, Outcome.after_value] at returned
          exact ih pair.1 (ends.2 pair.1) returned

theorem follows_of_neutral {phase : protocol.Phase} {program : Program Op Response Value}
    (neutral : program.Uses (protocol.Neutral phase)) : protocol.Follows phase program := by
  induction program with
  | ret value => exact trivial
  | call op next ih =>
      refine ⟨neutral.1.1, fun response => ?_⟩
      rw [neutral.1.2 response]
      exact ih response (neutral.2 response)

end Protocol

end Interaction
