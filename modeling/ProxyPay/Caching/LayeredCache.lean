import ProxyPay.Library.InsertionMap

/-! `LayeredCache` on any number of instances over one Redis: its calls step by step, the channel of the
invalidations, and what each call supersedes or removes. Redis is available, and keys expire at any time. -/

namespace ProxyPay.Caching

open ProxyPay.Library

/-- A value in Redis, with the call of `set` that wrote it. -/
structure Item (Value : Type) where
  value : Value
  set : ℕ
  deriving DecidableEq

/-- A value in the memory of an instance, with the calls that wrote it and put it there. -/
structure Copy (Value : Type) where
  value : Value
  set : ℕ
  call : ℕ
  deriving DecidableEq

/-- A message of the channel, with the call that published it. -/
structure Message where
  key : String
  call : ℕ
  deriving DecidableEq

structure Instance (Value : Type) where
  l1 : InsertionMap String (Copy Value)
  inbox : List Message

/-- What a call supersedes or removes: the value of a key that a call of `set` wrote, or a copy in memory. -/
inductive Mark where
  | item (key : String) (set : ℕ)
  | copy (call : ℕ)
  deriving DecidableEq

/-- Where a call stands, or how it ended; `home` is the instance that makes it. -/
inductive Call (Value : Type) where
  | fetching (home : ℕ) (key : String)
  | filling (home : ℕ) (key : String) (item : Item Value)
  | answered (value : Option Value)
  | storing (home : ℕ) (key : String) (value : Value)
  | matching (home : ℕ) (pattern : String)
  | removing (home : ℕ) (keys : List String) (drops : Bool) (retired : List Mark)
  | dropping (home : ℕ) (keys : List String) (retired : List Mark)
  | publishing (home : ℕ) (keys : List String) (drops : Bool) (retired : List Mark)
  | returned (retired : List Mark)

structure Caches (Value : Type) where
  redis : InsertionMap String (Item Value)
  instances : List (Instance Value)
  calls : List (Call Value)
  /-- The values that Redis has been given so far. -/
  written : List (String × ℕ)

def Caches.empty (Value : Type) (count : ℕ) : Caches Value :=
  ⟨.empty, List.replicate count ⟨.empty, []⟩, [], []⟩

inductive Label (Value : Type) where
  | get (home : ℕ) (key : String)
  | fetch (call : ℕ)
  | fill (call : ℕ) (kept : Bool)
  | set (home : ℕ) (key : String) (value : Value)
  | store (call : ℕ)
  | del (home : ℕ) (key : String)
  | delPattern (home : ℕ) (pattern : String)
  | keys (call : ℕ)
  | remove (call : ℕ)
  | drop (call : ℕ)
  | invalidateAll (home : ℕ)
  | publish (call : ℕ)
  | deliver (home : ℕ)
  | expire (key : String)
  | evict (home : ℕ) (key : String)

variable {Value : Type}

def Instance.put (key : String) (copy : Copy Value) (cache : Instance Value) : Instance Value :=
  { cache with l1 := cache.l1.set key copy }

def Instance.forget (key : String) (cache : Instance Value) : Instance Value :=
  { cache with l1 := cache.l1.erase key }

variable (cache : Instance Value)

def Instance.flushAll : Instance Value :=
  { cache with l1 := .empty }

def Instance.receive (message : Message) (cache : Instance Value) : Instance Value :=
  { cache with inbox := cache.inbox ++ [message] }

/-- The subscriber deletes the key that the message names. -/
def Instance.handle : Option (Instance Value) :=
  match cache.inbox with
  | [] => none
  | message :: inbox => some { cache.forget message.key with inbox := inbox }

variable (caches : Caches Value)

def Caches.become (call : ℕ) (next : Call Value) : Caches Value :=
  { caches with calls := caches.calls.set call next }

def Caches.start (call : Call Value) : Caches Value :=
  { caches with calls := caches.calls ++ [call] }

def Caches.change (home : ℕ) (action : Instance Value → Instance Value) : Caches Value :=
  { caches with instances := caches.instances.modify home action }

/-- The values written under these keys. -/
def Caches.marks (keys : List String) : List Mark :=
  (caches.written.filter fun entry => keys.contains entry.1).map fun entry => .item entry.1 entry.2

variable (matching : String → String → Bool)

/-- The values written under keys of the pattern that Redis does not have. -/
def Caches.unlisted (caches : Caches Value) (pattern : String) : List Mark :=
  (caches.written.filter fun entry => matching pattern entry.1 && (caches.redis.get? entry.1).isNone).map fun entry =>
    .item entry.1 entry.2

def Caches.copies : List Mark :=
  caches.instances.flatMap fun cache => cache.l1.entries.map fun entry => .copy entry.2.call

variable (home : ℕ)

def continueRemoving (keys : List String) (retired : List Mark) : Call Value :=
  if keys.isEmpty then .returned retired else .removing home keys true retired

def startPublishing (keys : List String) (drops : Bool) (retired : List Mark) : Call Value :=
  if drops then .dropping home keys retired else .publishing home keys false retired

def continuePublishing (keys : List String) (drops : Bool) (retired : List Mark) : Call Value :=
  if keys.isEmpty then .returned retired else startPublishing home keys drops retired

/-- `matching` is how Redis reads a pattern. A fill that the memory has no room for is not kept. -/
def Caches.perform (caches : Caches Value) : Label Value → Option (Caches Value)
  | .get home key =>
    match caches.instances[home]? with
    | none => none
    | some cache =>
      match cache.l1.get? key with
      | some copy => some (caches.start (.answered (some copy.value)))
      | none => some (caches.start (.fetching home key))
  | .fetch call =>
    match caches.calls[call]? with
    | some (.fetching home key) =>
      match caches.redis.get? key with
      | none => some (caches.become call (.answered none))
      | some item => some (caches.become call (.filling home key item))
    | _ => none
  | .fill call kept =>
    match caches.calls[call]? with
    | some (.filling home key item) =>
      if caches.instances.length ≤ home then none
      else if kept then
        some ((caches.become call (.answered (some item.value))).change home (Instance.put key ⟨item.value, item.set, call⟩))
      else some (caches.become call (.answered none))
    | _ => none
  | .set home key value =>
    let call := caches.calls.length
    some ((caches.start (.storing home key value)).change home (Instance.put key ⟨value, call, call⟩))
  | .store call =>
    match caches.calls[call]? with
    | some (.storing home key value) =>
      some { caches.become call (.publishing home [key] false (caches.marks [key])) with
        redis := caches.redis.set key ⟨value, call⟩
        written := caches.written ++ [(key, call)] }
    | _ => none
  | .del home key => some ((caches.start (.removing home [key] false [])).change home (Instance.forget key))
  | .delPattern home pattern => some (caches.start (.matching home pattern))
  | .keys call =>
    match caches.calls[call]? with
    | some (.matching home pattern) =>
      let keys := (caches.redis.entries.map Prod.fst).filter (matching pattern)
      some (caches.become call (continueRemoving home keys (caches.unlisted matching pattern)))
    | _ => none
  | .remove call =>
    match caches.calls[call]? with
    | some (.removing home keys drops retired) =>
      some { caches.become call (startPublishing home keys drops (retired ++ caches.marks keys)) with
        redis := keys.foldl InsertionMap.erase caches.redis }
    | _ => none
  | .drop call =>
    match caches.calls[call]? with
    | some (.dropping home (key :: keys) retired) =>
      some ((caches.become call (.publishing home (key :: keys) true retired)).change home (Instance.forget key))
    | _ => none
  | .invalidateAll home =>
    some ((caches.start (.publishing home ["__FLUSH_ALL__"] false caches.copies)).change home Instance.flushAll)
  | .publish call =>
    match caches.calls[call]? with
    | some (.publishing home (key :: keys) drops retired) =>
      some { caches.become call (continuePublishing home keys drops retired) with
        instances := caches.instances.map (Instance.receive ⟨key, call⟩) }
    | _ => none
  | .deliver home =>
    match caches.instances[home]? with
    | none => none
    | some cache => cache.handle.map fun cache => { caches with instances := caches.instances.set home cache }
  | .expire key => some { caches with redis := caches.redis.erase key }
  | .evict home key => some (caches.change home (Instance.forget key))

def step (before : Caches Value) (label : Label Value) (after : Caches Value) :
    Prop :=
  before.perform matching label = some after

def Call.retired : Call Value → List Mark
  | .removing _ _ _ retired => retired
  | .dropping _ _ retired => retired
  | .publishing _ _ _ retired => retired
  | .returned retired => retired
  | _ => []

/-- The call has returned and its messages are delivered. -/
def Caches.IsComplete (call : ℕ) : Prop :=
  (∃ retired, caches.calls[call]? = some (.returned retired)) ∧
    ∀ cache ∈ caches.instances, ∀ message ∈ cache.inbox, message.call ≠ call

/-- The value that a step gives back from a `get`. -/
def Caches.answer : Label Value → List Mark
  | .get home key =>
    match caches.instances[home]? with
    | none => []
    | some cache =>
      match cache.l1.get? key with
      | some copy => [.item key copy.set, .copy copy.call]
      | none => []
  | .fill call kept =>
    match caches.calls[call]? with
    | some (.filling _ key item) => if kept then [.item key item.set] else []
    | _ => []
  | _ => []

/-- No `get` gives back what a call has superseded or removed that is complete. -/
def Fresh (before : Caches Value) (label : Label Value) : Prop :=
  ∀ (index : ℕ) (call : Call Value), before.calls[index]? = some call → before.IsComplete index →
    ∀ mark ∈ before.answer label, mark ∉ call.retired

end ProxyPay.Caching
