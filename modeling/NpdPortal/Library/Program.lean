import Mathlib.Data.List.Basic

/-!
# Programs that call an environment

A program of type `Program Call Answer Error α` performs calls one after
another and continues with what the environment answers, which may be an error
of its own.  It ends with a value or by raising an error.  Running a program
against given answers yields the exchanges it made, in order, and its result.
-/

universe u

/-- Code which may call an environment and may raise. -/
inductive Program (Call : Type) (Answer : Call → Type) (Error : Type) (α : Type u) where
  /-- The program has ended. -/
  | done (result : Except Error α)
  /-- The program calls the environment and goes on with the answer. -/
  | call (call : Call) (next : Except Error (Answer call) → Program Call Answer Error α)

namespace Program

variable {Call : Type} {Answer : Call → Type} {Error : Type} {α β : Type u}

/-- Sequencing: an error ends the program. -/
def bind (program : Program Call Answer Error α)
    (next : α → Program Call Answer Error β) : Program Call Answer Error β :=
  match program with
  | .done (.ok value) => next value
  | .done (.error error) => .done (.error error)
  | .call request rest => .call request fun answer => (rest answer).bind next

instance : Monad (Program Call Answer Error) where
  pure value := .done (.ok value)
  bind := bind

/-- End with an error. -/
def raise (error : Error) : Program Call Answer Error α := .done (.error error)

/-- One call; an error of the environment is raised. -/
def perform (request : Call) : Program Call Answer Error (Answer request) :=
  .call request .done

/-- Run `handler` on any error the program ends with. -/
def tryCatch (program : Program Call Answer Error α)
    (handler : Error → Program Call Answer Error α) : Program Call Answer Error α :=
  match program with
  | .done (.ok value) => .done (.ok value)
  | .done (.error error) => handler error
  | .call request rest => .call request fun answer => (rest answer).tryCatch handler

/-- A computation without calls is a program. -/
instance : MonadLift (Except Error) (Program Call Answer Error) where
  monadLift result := .done result

/-- One call with the answer it received. -/
structure Exchange (Call : Type) (Answer : Call → Type) (Error : Type) where
  /-- What was called. -/
  call : Call
  /-- What the environment answered. -/
  answer : Except Error (Answer call)

/-- What the environment answers to a call made after `n` others. -/
abbrev Environment (Call : Type) (Answer : Call → Type) (Error : Type) :=
  ℕ → (call : Call) → Except Error (Answer call)

/-- The exchanges and the result of a program; `index` calls were made before. -/
def run (environment : Environment Call Answer Error) (index : ℕ) :
    Program Call Answer Error α → List (Exchange Call Answer Error) × Except Error α
  | .done result => ([], result)
  | .call request rest =>
      let answer := environment index request
      let remaining := run environment (index + 1) (rest answer)
      (⟨request, answer⟩ :: remaining.1, remaining.2)

/-- Run a program against an environment with a state of its own. -/
def execute {σ : Type} (handler : σ → (call : Call) → Except Error (Answer call) × σ) :
    Program Call Answer Error α → σ → Except Error α × σ
  | .done result, state => (result, state)
  | .call request rest, state =>
      let answered := handler state request
      (rest answered.1).execute handler answered.2

/-- Every call the program can make, whatever it is answered, satisfies `allowed`. -/
def Uses (allowed : Call → Prop) : Program Call Answer Error α → Prop
  | .done _ => True
  | .call request rest => allowed request ∧ ∀ answer, (rest answer).Uses allowed

section Equations

variable (environment : Environment Call Answer Error) (index : ℕ)

@[simp]
theorem pure_eq (value : α) :
    (pure value : Program Call Answer Error α) = .done (.ok value) := rfl

@[simp]
theorem done_ok_bind (value : α) (next : α → Program Call Answer Error β) :
    (.done (.ok value) >>= next) = next value := rfl

@[simp]
theorem done_error_bind (error : Error) (next : α → Program Call Answer Error β) :
    ((.done (.error error) : Program Call Answer Error α) >>= next) = .done (.error error) := rfl

@[simp]
theorem call_bind (request : Call) (rest : Except Error (Answer request) →
    Program Call Answer Error α) (next : α → Program Call Answer Error β) :
    (.call request rest >>= next) = .call request fun answer => rest answer >>= next := rfl

theorem done_bind_ok (result : Except Error α) (function : α → β) :
    (.done result >>= fun value => .done (.ok (function value)) : Program Call Answer Error β) =
      .done (result.map function) := by
  cases result <;> rfl

@[simp]
theorem lift_eq (result : Except Error α) :
    (MonadLift.monadLift result : Program Call Answer Error α) = .done result := rfl

@[simp]
theorem liftT_eq (result : Except Error α) :
    (monadLift result : Program Call Answer Error α) = .done result := rfl

@[simp]
theorem raise_eq (error : Error) :
    (raise error : Program Call Answer Error α) = .done (.error error) := rfl

@[simp]
theorem perform_eq (request : Call) :
    (perform request : Program Call Answer Error (Answer request)) = .call request .done := rfl

@[simp]
theorem tryCatch_done_ok (value : α) (handler : Error → Program Call Answer Error α) :
    (Program.done (.ok value)).tryCatch handler = .done (.ok value) := rfl

@[simp]
theorem tryCatch_done_error (error : Error) (handler : Error → Program Call Answer Error α) :
    (Program.done (.error error)).tryCatch handler = handler error := rfl

@[simp]
theorem tryCatch_call (request : Call) (rest : Except Error (Answer request) →
    Program Call Answer Error α) (handler : Error → Program Call Answer Error α) :
    (Program.call request rest).tryCatch handler =
      .call request fun answer => (rest answer).tryCatch handler := rfl

@[simp]
theorem run_done (result : Except Error α) :
    run environment index (.done result : Program Call Answer Error α) = ([], result) := rfl

@[simp]
theorem run_call (request : Call) (rest : Except Error (Answer request) →
    Program Call Answer Error α) :
    run environment index (.call request rest) =
      (⟨request, environment index request⟩ ::
          (run environment (index + 1) (rest (environment index request))).1,
        (run environment (index + 1) (rest (environment index request))).2) := rfl

end Equations

section Stateful

variable {σ : Type} {handler : σ → (call : Call) → Except Error (Answer call) × σ}

@[simp]
theorem execute_done (result : Except Error α) (state : σ) :
    (.done result : Program Call Answer Error α).execute handler state = (result, state) := rfl

@[simp]
theorem execute_call (request : Call) (rest : Except Error (Answer request) →
    Program Call Answer Error α) (state : σ) :
    (Program.call request rest).execute handler state =
      (rest (handler state request).1).execute handler (handler state request).2 := rfl

/-- Only the answers to the calls a program still makes matter. -/
theorem run_congr {first second : Environment Call Answer Error} {index : ℕ}
    (program : Program Call Answer Error α) (same : ∀ later, index ≤ later →
      first later = second later) : run first index program = run second index program := by
  induction program generalizing index with
  | done result => rfl
  | call request rest ih =>
      have later := ih (second index request) fun n le => same n (Nat.le_of_succ_le le)
      rw [run_call, run_call, same index (Nat.le_refl index), later]

/-- What a stateful environment answers, an environment answers. -/
theorem exists_run_eq_execute
    (handler : σ → (call : Call) → Except Error (Answer call) × σ)
    (program : Program Call Answer Error α) (state : σ) (index : ℕ) :
    ∃ environment, (run environment index program).2 = (program.execute handler state).1 := by
  induction program generalizing state index with
  | done result => exact ⟨fun _ request => (handler state request).1, rfl⟩
  | call request rest ih =>
      rcases ih (handler state request).1 (handler state request).2 (index + 1) with
        ⟨environment, answered⟩
      let extended : Environment Call Answer Error := fun n request =>
        if n = index then (handler state request).1 else environment n request
      have first : extended index request = (handler state request).1 := if_pos rfl
      have later : ∀ n, index + 1 ≤ n → extended n = environment n := by
        intro n le
        funext request
        exact if_neg (by omega)
      refine ⟨extended, ?_⟩
      rw [run_call, execute_call, first, run_congr _ later]
      exact answered

end Stateful

theorem bind_assoc {γ : Type u} (program : Program Call Answer Error α)
    (next : α → Program Call Answer Error β) (last : β → Program Call Answer Error γ) :
    (program >>= next) >>= last = program >>= fun value => next value >>= last := by
  induction program with
  | done result => cases result <;> rfl
  | call request rest ih =>
      simp only [call_bind]
      congr 1
      funext answer
      exact ih answer

theorem Uses.bind {allowed : Call → Prop} {program : Program Call Answer Error α}
    {next : α → Program Call Answer Error β} (uses : program.Uses allowed)
    (nextUses : ∀ value, (next value).Uses allowed) : (program >>= next).Uses allowed := by
  induction program with
  | done result =>
      cases result with
      | ok value => exact nextUses value
      | error error => trivial
  | call request rest ih => exact ⟨uses.1, fun answer => ih answer (uses.2 answer)⟩

theorem Uses.tryCatch {allowed : Call → Prop} {program : Program Call Answer Error α}
    {handler : Error → Program Call Answer Error α} (uses : program.Uses allowed)
    (handlerUses : ∀ error, (handler error).Uses allowed) :
    (program.tryCatch handler).Uses allowed := by
  induction program with
  | done result =>
      cases result with
      | ok value => trivial
      | error error => exact handlerUses error
  | call request rest ih => exact ⟨uses.1, fun answer => ih answer (uses.2 answer)⟩

/-- What a program may call bounds what any of its runs calls. -/
theorem Uses.of_mem_run {allowed : Call → Prop} {program : Program Call Answer Error α}
    (uses : program.Uses allowed) {environment : Environment Call Answer Error} {index : ℕ}
    {exchange : Exchange Call Answer Error}
    (made : exchange ∈ (run environment index program).1) : allowed exchange.call := by
  induction program generalizing index with
  | done result => simp at made
  | call request rest ih =>
      simp only [run_call, List.mem_cons] at made
      rcases made with rfl | later
      · exact uses.1
      · exact ih _ (uses.2 _) later

/-- Every answer in a run was given by the environment. -/
theorem exists_answer_of_mem_run {program : Program Call Answer Error α}
    {environment : Environment Call Answer Error} {index : ℕ}
    {exchange : Exchange Call Answer Error}
    (made : exchange ∈ (run environment index program).1) :
    ∃ n, exchange.answer = environment n exchange.call := by
  induction program generalizing index with
  | done result => simp at made
  | call request rest ih =>
      simp only [run_call, List.mem_cons] at made
      rcases made with rfl | later
      · exact ⟨index, rfl⟩
      · exact ih _ later

end Program
