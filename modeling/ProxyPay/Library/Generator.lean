import ProxyPay.Library.Script

/-! Asynchronous functions compiled to generators. The body is a switch over labels; the
driver resumes it at a label, runs it until it hands out an operation, and keeps a stack of
protected regions. Regions with a finalizer, and delegation, are left out. -/

namespace ProxyPay.Library

/-- An entry of the stack `trys`: the first label of a protected region, the label of its
handler, and the first label after both. The handler starts by receiving the exception. -/
structure Region (Error Locals : Type) where
  start : Nat
  handler : Nat
  next : Nat
  caught : Error → Locals → Locals

/-- What a body hands out. The case that follows an awaited request starts by receiving
its answer. -/
inductive Op (Request : Type) (Reply : Request → Type) (Locals α : Type) where
  | ret (value : α)
  | jump (label : Nat)
  | await (request : Request) (received : Reply request → Locals → Locals)

structure Machine (Error Locals : Type) where
  label : Nat
  trys : List (Region Error Locals)
  locals : Locals

/-- The switch: it runs from the current label, and may change the machine as it falls
through further labels, until it hands out an operation or throws. -/
abbrev Body (Request : Type) (Reply : Request → Type) (Error Locals α : Type) :=
  Machine Error Locals → Machine Error Locals × Except Error (Op Request Reply Locals α)

/-- How a body ends when it is resumed a bounded number of times. -/
inductive Driven (α : Type) where
  | exhausted
  | returned (value : α)
  deriving DecidableEq

namespace Machine

variable {Request : Type} {Reply : Request → Type} {Error Locals α : Type}

/-- Regions that do not contain the label are left. -/
def jump (machine : Machine Error Locals) (label : Nat) : Machine Error Locals :=
  { machine with
    label
    trys := machine.trys.dropWhile fun region =>
      !(region.start < label && label < region.next) }

/-- The innermost region whose handler lies ahead receives the exception. -/
def raise (machine : Machine Error Locals) (error : Error) : Option (Machine Error Locals) :=
  match machine.trys.dropWhile fun region => !(machine.label < region.handler) with
  | [] => none
  | region :: outer => some ⟨region.handler, region :: outer, region.caught error machine.locals⟩

/-- The driver, for a number of times that the body is run. -/
def drive (body : Body Request Reply Error Locals α) :
    Nat → Machine Error Locals → Script Request Reply Error (Driven α)
  | 0, _ => .done (.ok .exhausted)
  | fuel + 1, machine =>
    match body machine with
    | (_, .ok (.ret value)) => .done (.ok (.returned value))
    | (machine, .ok (.jump label)) => drive body fuel (machine.jump label)
    | (machine, .ok (.await request received)) =>
      .await request fun
        | .ok value =>
          drive body fuel ⟨machine.label + 1, machine.trys, received value machine.locals⟩
        | .error error =>
          match raise { machine with label := machine.label + 1 } error with
          | some handling => drive body fuel handling
          | none => .done (.error error)
    | (machine, .error error) =>
      match machine.raise error with
      | some handling => drive body fuel handling
      | none => .done (.error error)

section Rules

variable {body : Body Request Reply Error Locals α} {machine after handling : Machine Error Locals}
variable {fuel : Nat}

theorem drive_ret {value : α} (runs : body machine = (after, .ok (.ret value))) :
    drive body (fuel + 1) machine = .done (.ok (.returned value)) := by
  rw [drive, runs]

theorem drive_jump {label : Nat} (runs : body machine = (after, .ok (.jump label))) :
    drive body (fuel + 1) machine = drive body fuel (after.jump label) := by
  rw [drive, runs]

theorem drive_throw {error : Error} (runs : body machine = (after, .error error))
    (caught : after.raise error = some handling) :
    drive body (fuel + 1) machine = drive body fuel handling := by
  rw [drive, runs]
  simp only [caught]

/-- An awaited request in a protected region: the handler receives its exception. -/
theorem drive_await {request : Request} {received : Reply request → Locals → Locals}
    {handler : Error → Machine Error Locals}
    (runs : body machine = (after, .ok (.await request received)))
    (caught : ∀ error, raise { after with label := after.label + 1 } error = some (handler error)) :
    drive body (fuel + 1) machine = .await request fun
      | .ok value => drive body fuel ⟨after.label + 1, after.trys, received value after.locals⟩
      | .error error => drive body fuel (handler error) := by
  rw [drive, runs]
  simp only [caught]

/-- A label that falls through to another one continues as that one does. -/
theorem drive_fallThrough {other : Machine Error Locals} (same : body machine = body other) :
    drive body fuel machine = drive body fuel other := by
  cases fuel with
  | zero => rfl
  | succ fuel => rw [drive, drive, same]

end Rules

end Machine

end ProxyPay.Library
