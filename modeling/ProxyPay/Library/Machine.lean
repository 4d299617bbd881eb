import ProxyPay.Library.Server

/-! Scripts by the places where they can stand: a place either is an end or awaits a request and
goes on from its answer. What is kept along all ways through the places is kept by every caller. -/

namespace ProxyPay.Library

/-- What a script does at a place. -/
inductive View (Request : Type) (Reply : Request → Type) (Error α Position : Type) where
  | ended (outcome : Except Error α)
  | awaits (request : Request) (next : Except Error (Reply request) → Position)

variable {Request : Type} {Reply : Request → Type} {Error α β Position : Type}

namespace Script

/-! Equations that bring a script into the form in which each request is followed by the rest. -/

theorem bind_eq (script : Script Request Reply Error α) (next : α → Script Request Reply Error β) :
    (script >>= next) = script.bind next := rfl

theorem pure_eq (value : α) : (pure value : Script Request Reply Error α) = .done (.ok value) := rfl

theorem done_bind (value : α) (next : α → Script Request Reply Error β) :
    (Script.done (.ok value) : Script Request Reply Error α).bind next = next value := rfl

end Script

/-- The script does what is done at this place. -/
inductive Script.Stands (view : Position → View Request Reply Error α Position) :
    Position → Script Request Reply Error α → Prop where
  | ended {position : Position} {outcome : Except Error α} (viewed : view position = .ended outcome) :
    Stands view position (.done outcome)
  | awaits {position : Position} {request : Request}
    {next : Except Error (Reply request) → Position}
    {rest : Except Error (Reply request) → Script Request Reply Error α}
    (viewed : view position = .awaits request next)
    (answered : ∀ reply, Stands view (next reply) (rest reply)) :
    Stands view position (.await request rest)

namespace Script.Stands

variable {view : Position → View Request Reply Error α Position} {position : Position}
variable {request : Request} {next : Except Error (Reply request) → Position}

/-- An awaited request that raises ends the script. -/
theorem call_bind {continued : Reply request → Script Request Reply Error α}
    (viewed : view position = .awaits request next)
    (answered : ∀ value, Stands view (next (.ok value)) (continued value))
    (raised : ∀ error, view (next (.error error)) = .ended (.error error)) :
    Stands view position ((call request).bind continued) := by
  apply Stands.awaits viewed
  intro reply
  cases reply with
  | error error => exact .ended (raised error)
  | ok value => exact answered value

/-- Where a script stands that awaits a request. -/
theorem await {rest : Except Error (Reply request) → Script Request Reply Error α}
    (stands : Stands view position (.await request rest)) :
    ∃ next, view position = .awaits request next ∧ ∀ reply, Stands view (next reply) (rest reply) := by
  cases stands with
  | awaits viewed answered => exact ⟨_, viewed, answered⟩

theorem of_awaits {script : Script Request Reply Error α} (stands : Stands view position script)
    (viewed : view position = .awaits request next) :
    ∃ rest, script = .await request rest ∧ ∀ reply, Stands view (next reply) (rest reply) := by
  cases stands with
  | ended same =>
    rw [viewed] at same
    cases same
  | awaits same answered =>
    rw [viewed] at same
    cases same
    exact ⟨_, rfl, answered⟩

theorem done {outcome : Except Error α} (stands : Stands view position (.done outcome)) :
    view position = .ended outcome := by
  cases stands with
  | ended viewed => exact viewed

end Script.Stands

end ProxyPay.Library
