import CeServer.Library.Program

/-!
Calls implemented by programs: a program over one signature becomes a program
over another, and means the same when the first signature's calls are answered
by what their implementations return.
-/

namespace Interaction.Program

variable {High Low : Type} {HighResponse : High → Type} {LowResponse : Low → Type}
  {Value Result World : Type}

/-- Each call is replaced by the program that implements it. -/
def implement (body : (op : High) → Program Low LowResponse (HighResponse op)) :
    Program High HighResponse Value → Program Low LowResponse Value
  | ret value => ret value
  | call op next => body op >>= fun response => (next response).implement body

section Implement

variable {body : (op : High) → Program Low LowResponse (HighResponse op)}

@[simp] theorem implement_ret (value : Value) :
    (ret value : Program High HighResponse Value).implement body = ret value := rfl

@[simp] theorem implement_call (op : High)
    (next : HighResponse op → Program High HighResponse Value) :
    (call op next).implement body =
      body op >>= fun response => (next response).implement body := rfl

/-- A call is answered by what its implementation returns, which throws when the
implementation does. -/
def implemented (body : (op : High) → Program Low LowResponse (HighResponse op))
    (answer : (op : Low) → World → Option (LowResponse op × World)) (op : High) (world : World) :
    Option (HighResponse op × World) :=
  ((body op).run answer world).value.map fun response =>
    (response, ((body op).run answer world).world)

variable {answer : (op : Low) → World → Option (LowResponse op × World)}

/-- A program returns what its implementation returns, and leaves the same world. -/
theorem run_implement (body : (op : High) → Program Low LowResponse (HighResponse op))
    (answer : (op : Low) → World → Option (LowResponse op × World))
    (program : Program High HighResponse Value) (world : World) :
    ((program.implement body).run answer world).value =
        (program.run (implemented body answer) world).value ∧
      (((program.implement body).run answer world).value.isSome →
        ((program.implement body).run answer world).world =
          (program.run (implemented body answer) world).world) := by
  induction program generalizing world with
  | ret value => exact ⟨rfl, fun _ => rfl⟩
  | call op next ih =>
      rw [implement_call, run_bind, run_call, implemented]
      cases returned : ((body op).run answer world).value with
      | none => exact ⟨rfl, fun some => by simp at some⟩
      | some response =>
          simp only [Option.map_some, Outcome.after_value, Outcome.after_world]
          exact ih response _

/-- What the implementations log is what the calls they stand for log. -/
theorem run_implement_logs {Symbol : Type} {lowLog : Event Low LowResponse → List Symbol}
    {highLog : Event High HighResponse → List Symbol}
    (logs : ∀ op world response, ((body op).run answer world).value = some response →
      ((body op).run answer world).trace.flatMap lowLog = highLog ⟨op, response⟩)
    {world : World} {value : Value} (program : Program High HighResponse Value)
    (returned : ((program.implement body).run answer world).value = some value) :
    ((program.implement body).run answer world).trace.flatMap lowLog =
      (program.run (implemented body answer) world).trace.flatMap highLog := by
  induction program generalizing world with
  | ret value => rfl
  | call op next ih =>
      rw [implement_call, run_bind] at returned ⊢
      rw [run_call, implemented]
      cases first : ((body op).run answer world).value with
      | none =>
          rw [first] at returned
          cases returned
      | some response =>
          rw [first] at returned
          simp only [Option.map_some, Outcome.after_trace, List.flatMap_append, List.flatMap_cons,
            List.singleton_append]
          rw [ih response returned, logs op world response first]

end Implement

end Interaction.Program
