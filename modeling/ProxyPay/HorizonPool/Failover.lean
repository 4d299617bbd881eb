import Mathlib

/-! The nodes of a Horizon pool: rotation, failover and cooldown. -/

namespace ProxyPay.HorizonPool

/-- A thrown object; `status` is there if it is a number. -/
structure ErrorObject where
  status : Option ℤ
  code : Option String
  name : Option String
  message : Option String

/-- What is thrown; `none` is everything that is no object. -/
abbrev Thrown := Option ErrorObject

/-- `/timeout|network|socket hang up/i` -/
def namesFailure (message : String) : Bool :=
  ["timeout", "network", "socket hang up"].any fun pattern => pattern.toList <:+: message.toList.map Char.toLower

def isFailoverEligible : Thrown → Bool
  | none => false
  | some error =>
    match error.status with
    | some status => status = 429 || status ≥ 500
    | none =>
      ["ECONNREFUSED", "ECONNRESET", "ETIMEDOUT", "ENOTFOUND", "EAI_AGAIN", "EPIPE", "ECONNABORTED"].contains
        (error.code.getD "") || error.name.getD "" = "NetworkError" || namesFailure (error.message.getD "")

structure HorizonNode where
  consecutiveFailures : ℕ
  downUntil : ℤ

structure HorizonPoolConfig where
  maxConsecutiveFailures : ℤ
  cooldownMs : ℤ

/-- The nodes, of which there is one at least, and the cursor. -/
structure Pool (last : ℕ) where
  nodes : Fin (last + 1) → HorizonNode
  cursor : Fin (last + 1)

/-- A node has been asked, and has answered at some time. -/
structure Attempt (last : ℕ) (Value : Type) where
  node : Fin (last + 1)
  time : ℕ
  outcome : Except Thrown Value

variable {last : ℕ} {Value : Type} (config : HorizonPoolConfig)

def Pool.initial : Pool last := ⟨fun _ => ⟨0, 0⟩, 0⟩

def Pool.setNode (pool : Pool last) (node : Fin (last + 1)) (state : HorizonNode) : Pool last :=
  { pool with nodes := Function.update pool.nodes node state }

/-- The nodes from one on. -/
def rotated (start : Fin (last + 1)) : List (Fin (last + 1)) := (List.finRange (last + 1)).map (start + ·)

def Pool.candidateOrder (pool : Pool last) (now : ℕ) : List (Fin (last + 1)) :=
  let rotated := rotated pool.cursor
  let healthy := rotated.filter fun node => (pool.nodes node).downUntil ≤ now
  let down := rotated.filter fun node => (pool.nodes node).downUntil > now
  if healthy.length > 0 then healthy ++ down else rotated

def Pool.markSuccess (pool : Pool last) (node : Fin (last + 1)) : Pool last := pool.setNode node ⟨0, 0⟩

def Pool.markFailure (pool : Pool last) (node : Fin (last + 1)) (now : ℕ) : Pool last :=
  let consecutiveFailures := (pool.nodes node).consecutiveFailures + 1
  pool.setNode node ⟨consecutiveFailures,
    if consecutiveFailures ≥ config.maxConsecutiveFailures then now + config.cooldownMs else (pool.nodes node).downUntil⟩

/-- What an answer does to the pool. -/
def Pool.mark (pool : Pool last) (attempt : Attempt last Value) : Pool last :=
  match attempt.outcome with
  | .ok _ => { pool.markSuccess attempt.node with cursor := attempt.node + 1 }
  | .error error => if isFailoverEligible error then pool.markFailure config attempt.node attempt.time else pool

/-- One call: when it starts, and how and when a node answers after the attempts before it. -/
structure Call (last : ℕ) (Value : Type) where
  now : ℕ
  fn : List (Attempt last Value) → Fin (last + 1) → ℕ × Except Thrown Value

/-- The pool, the attempts of the call and what the call has come to. -/
structure Execution (last : ℕ) (Value : Type) where
  pool : Pool last
  attempts : List (Attempt last Value)
  result : Except Thrown Value

def tryEach (call : Call last Value) : List (Fin (last + 1)) → Execution last Value → Execution last Value
  | [], execution => execution
  | node :: rest, execution =>
    let (time, outcome) := call.fn execution.attempts node
    let attempt : Attempt last Value := ⟨node, time, outcome⟩
    let next := ⟨execution.pool.mark config attempt, execution.attempts ++ [attempt], outcome⟩
    match outcome with
    | .ok _ => next
    | .error error => if isFailoverEligible error then tryEach call rest next else next

def execute (pool : Pool last) (call : Call last Value) : Execution last Value :=
  tryEach config call (pool.candidateOrder call.now) ⟨pool, [], .error none⟩

/-- The pool after the calls, and all their attempts. -/
def serve (calls : List (Call last Value)) : Pool last × List (Attempt last Value) :=
  calls.foldl (fun served call =>
    let execution := execute config served.1 call
    (execution.pool, served.2 ++ execution.attempts)) (.initial, [])

/-! What the attempts say of the nodes. -/

/-- The node after the last one that served. -/
def startAfter (attempts : List (Attempt last Value)) : Fin (last + 1) :=
  attempts.foldl (fun start attempt => if attempt.outcome.isOk then attempt.node + 1 else start) 0

/-- The times of the eligible failures of a node since its last success, the last one first. -/
def failuresOf (attempts : List (Attempt last Value)) (node : Fin (last + 1)) : List ℕ :=
  attempts.foldl (fun times attempt =>
    if attempt.node = node then
      match attempt.outcome with
      | .ok _ => []
      | .error error => if isFailoverEligible error then attempt.time :: times else times
    else times) []

/-- The failures since the last success are enough of them, and the last one is less than `cooldownMs` ago. -/
def inCooldown (attempts : List (Attempt last Value)) (now : ℕ) (node : Fin (last + 1)) : Bool :=
  match failuresOf attempts node with
  | [] => false
  | time :: times => (times.length + 1 : ℤ) ≥ config.maxConsecutiveFailures && now < time + config.cooldownMs

/-- The nodes that are not in cooldown, then those that are, each in turn from the node after the last that served. -/
def roundRobin (attempts : List (Attempt last Value)) (now : ℕ) : List (Fin (last + 1)) :=
  let nodes := rotated (startAfter attempts)
  nodes.filter (fun node => !inCooldown config attempts now node) ++ nodes.filter (inCooldown config attempts now)

def Failed (attempt : Attempt last Value) : Prop :=
  ∃ error, attempt.outcome = .error error ∧ isFailoverEligible error = true

/-- The attempts before the last one have failed; the last one gives the result, and has not failed unless every node
was tried. -/
structure Answers (order : List (Fin (last + 1))) (attempts : List (Attempt last Value))
    (result : Except Thrown Value) : Prop where
  tried : attempts.map Attempt.node <+: order
  answered : ∃ failed final, attempts = failed ++ [final] ∧ final.outcome = result ∧
    (∀ attempt ∈ failed, Failed attempt) ∧ (Failed final → attempts.map Attempt.node = order)

/-- A node that has failed at the given times since its last success. -/
def health (times : List ℕ) : HorizonNode where
  consecutiveFailures := times.length
  downUntil := match times with
    | [] => 0
    | time :: rest => if (rest.length + 1 : ℤ) ≥ config.maxConsecutiveFailures then time + config.cooldownMs else 0

/-- The pool is as the attempts say. -/
structure Reflects (pool : Pool last) (attempts : List (Attempt last Value)) : Prop where
  cursor : pool.cursor = startAfter attempts
  nodes : ∀ node, pool.nodes node = health config (failuresOf attempts node)

section

variable {config} {pool : Pool last} {attempts : List (Attempt last Value)}

theorem nodes_setNode (node other : Fin (last + 1)) (state : HorizonNode) :
    (pool.setNode node state).nodes other = if node = other then state else pool.nodes other := by
  simp [Pool.setNode, Function.update, eq_comm]

theorem nodes_markFailure {times : List ℕ} {node : Fin (last + 1)} (healthy : pool.nodes node = health config times)
    (now : ℕ) : (pool.markFailure config node now).nodes node = health config (now :: times) := by
  rw [Pool.markFailure, nodes_setNode, if_pos rfl, healthy]
  cases times with
  | nil => rfl
  | cons time rest =>
    by_cases enough : config.maxConsecutiveFailures ≤ (rest.length + 1 + 1 : ℤ)
    · simp [health, enough]
    · have few : ¬config.maxConsecutiveFailures ≤ (rest.length + 1 : ℤ) := by omega
      simp [health, enough, few]

section

variable (reflects : Reflects config pool attempts)

include reflects

theorem Reflects.mark (attempt : Attempt last Value) :
    Reflects config (pool.mark config attempt) (attempts ++ [attempt]) := by
  obtain ⟨cursor, nodes⟩ := reflects
  have started : startAfter (attempts ++ [attempt]) =
      if attempt.outcome.isOk then attempt.node + 1 else startAfter attempts := by
    simp [startAfter]
  have failed (node : Fin (last + 1)) : failuresOf (attempts ++ [attempt]) node =
      if attempt.node = node then
        match attempt.outcome with
        | .ok _ => []
        | .error error => if isFailoverEligible error then attempt.time :: failuresOf attempts node else failuresOf attempts node
      else failuresOf attempts node := by
    simp [failuresOf]
  unfold Pool.mark
  cases outcome : attempt.outcome with
  | ok value =>
    rw [outcome] at failed started
    refine ⟨started.symm, fun node => ?_⟩
    rw [failed]
    by_cases same : attempt.node = node
    · simp [Pool.markSuccess, nodes_setNode, same, health]
    · simp [Pool.markSuccess, nodes_setNode, same, nodes]
  | error error =>
    rw [outcome] at failed started
    by_cases eligible : isFailoverEligible error = true
    · simp only [eligible, if_true] at failed ⊢
      refine ⟨cursor.trans started.symm, fun node => ?_⟩
      rw [failed]
      by_cases same : attempt.node = node
      · rw [if_pos same, ← same]
        exact nodes_markFailure (nodes attempt.node) attempt.time
      · rw [if_neg same, Pool.markFailure, nodes_setNode, if_neg same, nodes]
    · simp only [eligible] at failed ⊢
      refine ⟨cursor.trans started.symm, fun node => ?_⟩
      rw [failed]
      simp [nodes]

theorem Reflects.down_iff (node : Fin (last + 1)) (now : ℕ) :
    (pool.nodes node).downUntil > now ↔ inCooldown config attempts now node = true := by
  rw [reflects.nodes]
  unfold health inCooldown
  cases failuresOf attempts node with
  | nil => simp
  | cons time times =>
    by_cases enough : (times.length + 1 : ℤ) ≥ config.maxConsecutiveFailures
    · simp [enough]
    · simp [enough]

theorem Reflects.candidateOrder_eq (now : ℕ) : pool.candidateOrder now = roundRobin config attempts now := by
  have down : (fun node => decide ((pool.nodes node).downUntil > now)) = inCooldown config attempts now := by
    funext node
    rw [Bool.eq_iff_iff, decide_eq_true_iff, reflects.down_iff]
  have healthy : (fun node => decide ((pool.nodes node).downUntil ≤ now)) = fun node => !inCooldown config attempts now node := by
    funext node
    simp only [← down, ← decide_not, gt_iff_lt, not_lt]
  simp only [Pool.candidateOrder, roundRobin, down, healthy, reflects.cursor]
  split
  · rfl
  · rename_i none_healthy
    have every : ∀ node ∈ rotated (startAfter attempts), inCooldown config attempts now node = true := by
      simpa using none_healthy
    rw [List.filter_eq_self.mpr every, List.eq_nil_of_length_eq_zero (Nat.eq_zero_of_not_pos none_healthy), List.nil_append]

end

end

theorem roundRobin_perm (attempts : List (Attempt last Value)) (now : ℕ) :
    (roundRobin config attempts now).Perm (List.finRange (last + 1)) := by
  have every : (rotated (startAfter attempts)).Perm (List.finRange (last + 1)) :=
    Equiv.Perm.map_finRange_perm (Equiv.addLeft (startAfter attempts))
  exact (List.perm_append_comm.trans (List.filter_append_perm ..)).trans every

theorem tryEach_spec (call : Call last Value) (before : List (Attempt last Value)) (candidates : List (Fin (last + 1)))
    (some_node : candidates ≠ []) (execution : Execution last Value)
    (reflects : Reflects config execution.pool (before ++ execution.attempts)) :
    Reflects config (tryEach config call candidates execution).pool
        (before ++ (tryEach config call candidates execution).attempts) ∧
      ∃ attempts, (tryEach config call candidates execution).attempts = execution.attempts ++ attempts ∧
        Answers candidates attempts (tryEach config call candidates execution).result := by
  induction candidates generalizing execution with
  | nil => exact absurd rfl some_node
  | cons node rest ih =>
    cases answer : call.fn execution.attempts node with
    | mk time outcome =>
      have marked := reflects.mark ⟨node, time, outcome⟩
      rw [List.append_assoc] at marked
      cases outcome with
      | ok value =>
        simp only [tryEach, answer]
        refine ⟨marked, _, rfl, ⟨rest, rfl⟩, [], _, rfl, rfl, nofun, ?_⟩
        rintro ⟨_, ⟨⟩, _⟩
      | error error =>
        by_cases eligible : isFailoverEligible error = true
        · let attempt : Attempt last Value := ⟨node, time, .error error⟩
          simp only [tryEach, answer, eligible, if_true]
          cases rest with
          | nil => exact ⟨marked, _, rfl, ⟨[], rfl⟩, [], _, rfl, rfl, nofun, fun _ => rfl⟩
          | cons following rest =>
            obtain ⟨onward, attempts, more, tried, failed, final, split, same, before_final, all_tried⟩ :=
              ih (List.cons_ne_nil _ _) ⟨execution.pool.mark config attempt, execution.attempts ++ [attempt], .error error⟩ marked
            refine ⟨onward, attempt :: attempts, by rw [more, List.append_assoc]; rfl,
              (List.prefix_cons_inj node).mpr tried, attempt :: failed, final, by rw [split]; rfl, same, ?_,
              fun also => congrArg (node :: ·) (all_tried also)⟩
            exact List.forall_mem_cons.mpr ⟨⟨error, rfl, eligible⟩, before_final⟩
        · simp only [tryEach, answer, eligible]
          refine ⟨marked, _, rfl, ⟨rest, rfl⟩, [], _, rfl, rfl, nofun, ?_⟩
          rintro ⟨_, ⟨⟩, also⟩
          exact absurd also eligible

/-- After any calls, one more call asks every node at most once, in the order that the attempts so far say, until one
of them serves or refuses; and a node is down after it exactly if it is in cooldown. -/
theorem execute_spec (calls : List (Call last Value)) (call : Call last Value) :
    let (pool, attempts) := serve config calls
    let after := execute config pool call
    (after.attempts.map Attempt.node).Nodup ∧
      (roundRobin config attempts call.now).Perm (List.finRange (last + 1)) ∧
      Answers (roundRobin config attempts call.now) after.attempts after.result ∧
      ∀ node (now : ℕ), (after.pool.nodes node).downUntil > now ↔ inCooldown config (attempts ++ after.attempts) now node = true := by
  have served (pool : Pool last) (attempts : List (Attempt last Value)) (reflects : Reflects config pool attempts)
      (call : Call last Value) : Reflects config (execute config pool call).pool (attempts ++ (execute config pool call).attempts) ∧
        Answers (roundRobin config attempts call.now) (execute config pool call).attempts (execute config pool call).result := by
    have perm := roundRobin_perm config attempts call.now
    have some_node : roundRobin config attempts call.now ≠ [] := by
      rintro none_there
      rw [none_there] at perm
      simpa using perm.length_eq
    unfold execute
    rw [reflects.candidateOrder_eq]
    obtain ⟨onward, tried, same, answers⟩ := tryEach_spec config call attempts _ some_node ⟨pool, [], .error none⟩
      (by simpa using reflects)
    exact ⟨onward, by rwa [same]⟩
  have reached : Reflects config (serve config calls).1 (serve config calls).2 := by
    induction calls using List.reverseRecOn with
    | nil => exact ⟨rfl, fun _ => rfl⟩
    | append_singleton calls call ih =>
      rw [serve, List.foldl_append]
      exact (served _ _ ih call).1
  obtain ⟨onward, answers⟩ := served _ _ reached call
  have perm := roundRobin_perm config (serve config calls).2 call.now
  exact ⟨answers.tried.sublist.nodup (perm.nodup_iff.mpr (List.nodup_finRange _)), perm, answers, onward.down_iff⟩

/-- A call that the node in turn answers, while none is down. -/
theorem execute_answered {pool : Pool last} {call : Call last Value} (up : ∀ node, (pool.nodes node).downUntil ≤ call.now)
    (answers : ∀ node, (call.fn [] node).2.isOk) : ∃ attempt, attempt.node = pool.cursor ∧ execute config pool call =
      ⟨{ pool.markSuccess pool.cursor with cursor := pool.cursor + 1 }, [attempt], attempt.outcome⟩ := by
  have healthy : pool.candidateOrder call.now = rotated pool.cursor := by
    simp [Pool.candidateOrder, up, not_lt.mpr (up _)]
  have answer := answers pool.cursor
  rw [execute, healthy, rotated, List.finRange_succ, List.map_cons, add_zero, tryEach]
  cases given : call.fn [] pool.cursor with
  | mk time outcome =>
    cases outcome with
    | ok value => exact ⟨⟨pool.cursor, time, .ok value⟩, rfl, rfl⟩
    | error error => simp [given, Except.isOk, Except.toBool] at answer

/-- While no node is down and every call is answered by the node that it asks first, the nodes serve in turn. -/
theorem serve_in_turn (before calls : List (Call last Value))
    (up : ∀ call ∈ calls, ∀ node, ((serve config before).1.nodes node).downUntil ≤ call.now)
    (answers : ∀ call ∈ calls, ∀ node, (call.fn [] node).2.isOk) :
    (serve config (before ++ calls)).2.map Attempt.node = (serve config before).2.map Attempt.node ++
      List.iterate (· + 1) (serve config before).1.cursor calls.length := by
  induction calls generalizing before with
  | nil => simp
  | cons call calls ih =>
    obtain ⟨upNow, upLater⟩ := List.forall_mem_cons.mp up
    obtain ⟨answersNow, answersLater⟩ := List.forall_mem_cons.mp answers
    obtain ⟨attempt, cursor, served⟩ := execute_answered config upNow answersNow
    have after : serve config (before ++ [call]) = ({ (serve config before).1.markSuccess (serve config before).1.cursor with
        cursor := (serve config before).1.cursor + 1 }, (serve config before).2 ++ [attempt]) := by
      rw [serve, List.foldl_append, ← serve, List.foldl_cons, List.foldl_nil, served]
    rw [List.append_cons, ih, after]
    · simp [cursor, List.iterate]
    · intro later member node
      rw [after]
      dsimp only
      rw [Pool.markSuccess, nodes_setNode]
      split
      · exact Int.natCast_nonneg _
      · exact upLater later member node
    · exact answersLater

def answering (now : ℕ) : Call 1 Unit := ⟨now, fun _ _ => (now, .ok ())⟩

theorem three_in_turn : (serve ⟨1, 1000⟩ [answering 5, answering 6, answering 7]).2.map Attempt.node = [0, 1, 0] :=
  serve_in_turn ⟨1, 1000⟩ [] [answering 5, answering 6, answering 7]
    (fun call _ _ => Int.natCast_nonneg call.now) (by simp [answering, Except.isOk, Except.toBool])

end ProxyPay.HorizonPool
