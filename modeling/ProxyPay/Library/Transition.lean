import Mathlib

/-! Labelled transition systems. A run keeps its labels in the order in which the
steps were taken, so that invariants may speak about the whole history. -/

namespace ProxyPay.Library

universe u v w x

/-- A finite run of `step` from a fixed starting state. -/
inductive Run {State : Type u} {Label : Type v} (step : State → Label → State → Prop)
    (start : State) : List Label → State → Prop where
  | start : Run step start [] start
  | next {trace : List Label} {middle last : State} {label : Label}
      (earlier : Run step start trace middle) (move : step middle label last) :
      Run step start (trace ++ [label]) last

variable {State : Type u} {Label : Type v} {step : State → Label → State → Prop}
variable {start middle last : State} {trace rest : List Label}

theorem Run.eq_of_nil (run : Run step start [] last) : last = start := by
  generalize empty : ([] : List Label) = trace at run
  cases run with
  | start => rfl
  | next _ _ => simp at empty

/-- What holds at the start and is kept by every step holds at the end of every
run, where it may depend on the labels seen so far. -/
theorem Run.invariant (run : Run step start trace last) (holds : List Label → State → Prop) (initially : holds [] start)
    (kept : ∀ trace before label after, holds trace before → step before label after →
      holds (trace ++ [label]) after) : holds trace last := by
  induction run with
  | start => exact initially
  | next earlier move ih => exact kept _ _ _ _ ih move

/-- A reflexive and transitive relation that every step respects links both ends of a run. -/
theorem Run.related (run : Run step start trace last) (relation : State → State → Prop)
    (refl : ∀ state, relation state state)
    (trans : ∀ first second third, relation first second → relation second third → relation first third)
    (moves : ∀ before label after, step before label after → relation before after) :
    relation start last := by
  induction run with
  | start => exact refl _
  | next earlier move ih => exact trans _ _ _ ih (moves _ _ _ move)

theorem Run.append (first : Run step start trace middle) (second : Run step middle rest last) :
    Run step start (trace ++ rest) last := by
  induction second with
  | start => simpa using first
  | next earlier move ih => simpa [List.append_assoc] using Run.next ih move

/-- The steps of a run from its start on. -/
def Steps (step : State → Label → State → Prop) : State → List Label → State → Prop
  | start, [], last => last = start
  | start, label :: rest, last => ∃ middle, step start label middle ∧ Steps step middle rest last

theorem Run.of_steps (steps : Steps step start trace last) : Run step start trace last := by
  induction trace generalizing start with
  | nil =>
    cases steps
    exact .start
  | cons label rest ih =>
    obtain ⟨middle, move, continued⟩ := steps
    exact Run.append (Run.next .start move) (ih continued)

section

variable {next : State → Label → Option State}

/-- The run that a partial function takes along a list of labels. -/
theorem Run.follow (followed : trace.foldlM next start = some last) :
    Run (fun before label after => next before label = some after) start trace last := by
  induction trace generalizing start with
  | nil =>
    cases followed
    exact .start
  | cons label rest ih =>
    rw [List.foldlM_cons, Option.bind_eq_bind, Option.bind_eq_some_iff] at followed
    obtain ⟨middle, moved, continued⟩ := followed
    exact Run.append (Run.next .start moved) (ih continued)

/-- A partial function takes no other run along the labels. -/
theorem Run.followed (run : Run (fun before label after => next before label = some after) start trace last) :
    trace.foldlM next start = some last := by
  induction run with
  | start => rfl
  | next earlier move ih => simp_all

/-- A partial function takes one run along the labels. -/
theorem Run.unique {other : State}
    (first : Run (fun before label after => next before label = some after) start trace last)
    (second : Run (fun before label after => next before label = some after) start trace other) :
    last = other :=
  Option.some.inj (first.followed.symm.trans second.followed)

end

theorem Run.last_step {label : Label} (run : Run step start (trace ++ [label]) last) :
    ∃ middle, Run step start trace middle ∧ step middle label last := by
  generalize whole : trace ++ [label] = labels at run
  cases run with
  | start => simp at whole
  | next earlier move =>
    obtain ⟨rfl, same⟩ := List.append_inj' whole rfl
    cases same
    exact ⟨_, earlier, move⟩

/-- Steps that are determined by their labels take one run along the labels. -/
theorem Run.unique_of {other : State}
    (determined : ∀ before label first second, step before label first → step before label second → first = second)
    (first : Run step start trace last) (second : Run step start trace other) : last = other := by
  induction first generalizing other with
  | start => exact second.eq_of_nil.symm
  | next earlier move ih =>
    obtain ⟨middle, reached, moved⟩ := second.last_step
    obtain rfl := ih reached
    exact determined _ _ _ _ move moved

theorem Run.split (run : Run step start (trace ++ rest) last) :
    ∃ middle, Run step start trace middle ∧ Run step middle rest last := by
  induction rest using List.reverseRecOn generalizing last with
  | nil => exact ⟨last, by simpa using run, .start⟩
  | append_singleton rest label ih =>
    rw [← List.append_assoc] at run
    obtain ⟨before, earlier, move⟩ := run.last_step
    obtain ⟨middle, first, second⟩ := ih earlier
    exact ⟨middle, first, .next second move⟩

/-- Every step that a run takes along the trace is of this kind. -/
def Throughout (step : State → Label → State → Prop) (start : State)
    (holds : State → Label → State → Prop) (trace : List Label) : Prop :=
  ∀ earlier label rest before after, trace = earlier ++ label :: rest →
    Run step start earlier before → step before label after → holds before label after

section Throughout

variable {holds other : State → Label → State → Prop} {label : Label}

theorem throughout_nil : Throughout step start holds [] := by
  intro earlier label rest before after split
  simp at split

theorem throughout_snoc : Throughout step start holds (trace ++ [label]) ↔ Throughout step start holds trace ∧
      ∀ before after, Run step start trace before → step before label after → holds before label after := by
  constructor
  · intro every
    constructor
    · intro earlier next rest before after split
      exact every earlier next (rest ++ [label]) before after (by simp [split])
    · intro before after run move
      exact every trace label [] before after rfl run move
  · rintro ⟨every, final⟩ earlier next rest before after split run move
    rcases List.eq_nil_or_concat rest with rfl | ⟨rest, last, rfl⟩
    · simp_all
    · rw [List.concat_eq_append, ← List.cons_append, ← List.append_assoc] at split
      exact every earlier next rest before after (List.append_inj' split rfl).1 run move

theorem Throughout.before (every : Throughout step start holds (trace ++ rest)) :
    Throughout step start holds trace := by
  intro earlier label later before after split
  exact every earlier label (later ++ rest) before after (by simp [split])

theorem Throughout.after (every : Throughout step start holds (trace ++ rest))
    (run : Run step start trace middle) : Throughout step middle holds rest := by
  intro earlier label later before after split reached
  exact every (trace ++ earlier) label later before after (by simp [split]) (run.append reached)

section

variable (run : Run step start trace last) (every : Throughout step start holds trace)

include run every

/-- A run whose steps are all of a kind is a run of the steps of that kind. -/
theorem Run.restrict :
    Run (fun before label after => step before label after ∧ holds before label after) start trace last := by
  induction run with
  | start => exact .start
  | next earlier move ih =>
    obtain ⟨before, final⟩ := (throughout_snoc).mp every
    exact Run.next (ih before) ⟨move, final _ _ earlier move⟩

/-- What holds at the start and is kept by every step of a kind holds at the end of every run of such steps. -/
theorem Run.kept (keeps : State → Prop) (initially : keeps start)
    (kept : ∀ before label after, keeps before → step before label after → holds before label after → keeps after) :
    keeps last := by
  apply (run.restrict every).invariant (fun _ state => keeps state) initially
  intro _ before label after now move
  exact kept before label after now move.1 move.2

end

/-- The steps that a partial function takes are of a kind that holds of a state and a label if it
was checked along the way. -/
theorem throughout_follow {next : State → Label → Option State} {checks : State → Label → Bool}
    (followed : (trace.foldlM (fun state label =>
      if checks state label then next state label else none) start).isSome = true) :
    Throughout (fun before label after => next before label = some after) start
      (fun before label _ => checks before label = true) trace := by
  intro earlier label rest before after split reached _
  subst split
  rw [List.foldlM_append] at followed
  obtain ⟨last, passed⟩ := Option.isSome_iff_exists.mp followed
  obtain ⟨middle, checked, continued⟩ := Option.bind_eq_some_iff.mp passed
  have same : middle = before := by
    have taken : earlier.foldlM next start = some middle := by
      clear followed passed continued reached
      induction earlier generalizing start with
      | nil => exact checked
      | cons first others ih =>
        obtain ⟨second, moved, onward⟩ := Option.bind_eq_some_iff.mp checked
        change (if checks start first = true then next start first else none) = some second at moved
        by_cases good : checks start first = true
        · simp_all
        · rw [if_neg good] at moved
          cases moved
    rw [reached.followed] at taken
    exact (Option.some.inj taken).symm
  by_cases good : checks before label = true
  · exact good
  · simp_all

theorem throughout_decide {next : State → Label → Option State} {kind : State → Label → Prop}
    [∀ before, DecidablePred (kind before)]
    (followed : (trace.foldlM (fun state label =>
      if decide (kind state label) then next state label else none) start).isSome = true) :
    Throughout (fun before label after => next before label = some after) start
      (fun before label _ => kind before label) trace := by
  intro earlier label rest before after split reached move
  exact of_decide_eq_true (throughout_follow followed earlier label rest before after split reached move)

/-- Two kinds of steps that agree after any run of the first kind agree throughout. -/
theorem throughout_congr (agree : ∀ trace before label after,
      Run (fun before label after => step before label after ∧ holds before label after) start trace before →
      step before label after → (holds before label after ↔ other before label after)) :
    Throughout step start holds trace ↔ Throughout step start other trace := by
  induction trace using List.reverseRecOn with
  | nil => exact ⟨fun _ => throughout_nil, fun _ => throughout_nil⟩
  | append_singleton trace label ih =>
    rw [throughout_snoc, throughout_snoc, ← ih]
    constructor
    · rintro ⟨every, final⟩
      refine ⟨every, fun before after run move => ?_⟩
      exact (agree trace before label after (run.restrict every) move).mp (final before after run move)
    · rintro ⟨every, final⟩
      refine ⟨every, fun before after run move => ?_⟩
      exact (agree trace before label after (run.restrict every) move).mpr
        (final before after run move)

end Throughout

/-- A concrete step as the abstract system sees it: one abstract step with the visible
label, or a stutter. -/
def Shows {Abstract : Type w} {Visible : Type x}
    (abstractStep : Abstract → Visible → Abstract → Prop) (before : Abstract) :
    Option Visible → Abstract → Prop
  | some seen, after => abstractStep before seen after
  | none, after => after = before

/-- Forward simulation along a state function. The abstract trace keeps the visible labels. -/
theorem Run.simulate {Abstract : Type w} {Visible : Type x} {abstractStep : Abstract → Visible → Abstract → Prop}
    (run : Run step start trace last) (abstraction : State → Abstract)
    (visible : Label → Option Visible)
    (moves : ∀ before label after, step before label after →
      Shows abstractStep (abstraction before) (visible label) (abstraction after)) :
    Run abstractStep (abstraction start) (trace.filterMap visible) (abstraction last) := by
  induction run with
  | start => exact .start
  | @next trace middle last label earlier move ih =>
    have simulated := moves middle label last move
    rw [List.filterMap_append]
    cases seen : visible label with
    | none => simp_all [Shows]
    | some value =>
      have shown : abstractStep (abstraction middle) value (abstraction last) := by
        simpa [seen, Shows] using simulated
      simpa [seen] using Run.next ih shown

end ProxyPay.Library
