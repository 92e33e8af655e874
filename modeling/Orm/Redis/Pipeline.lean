import Orm.Core.Value

/-!
# The Redis pipeline

`RedisPipeLine` (`redis_pipeline.go`) wraps a go-redis pipeliner. Each command method counts
the command, logs its words when the engine has a Redis logger, queues it, and returns a
handle. `Exec` runs the queue once: a second `Exec` panics. Every handle's `Result` first
checks that the pipeline has run.

go-redis is not in src. Its pipeline is modelled from its code: `Exec` sends the queued
commands in order, the server runs each one whatever happened to the ones before, and
`Exec` returns the first command's error. The server is a parameter, a function from its
state and a command to its new state and the reply. A handle reads the outcome of its
command; a command that never ran reads as go-redis's zero value with no error.

`Exec` turns a `redis.Nil` error into no error; since go-redis returns only the first error, a
`GET` of a missing key ahead of a failing command hides that failure.

Over every run of calls from a new pipeline, with panics included, the server's state is what
sending a prefix of the queued commands one at a time gives, and each outcome read back is
that sequence's reply (`run_consistent`). So no command is sent twice, none is sent out of
order, and none is sent after `Exec`.
-/

namespace Orm

/-- A command of `RedisPipeLine`, with what the server reads of it. The values of `SET`, `HSET`
and `XADD` are in their encoded form. -/
inductive RedisCmd where
  | del (keys : List String)
  | get (key : String)
  | set (key value : String) (expiration : Nat)
  | expire (key : String) (expiration : Nat)
  | hIncrBy (key field : String) (incr : Int)
  | hSet (key : String) (values : List String)
  | hDel (key : String) (fields : List String)
  | xAdd (stream : String) (values : List String)
  deriving DecidableEq, Repr

/-- The words a command method appends to `rp.log`. -/
def RedisCmd.logWords : RedisCmd → List String
  | .del keys => "DEL" :: keys
  | .get key => ["GET", key]
  | .set key _ _ => ["SET", key]
  | .expire key _ => ["EXPIRE", key]
  | .hIncrBy key _ _ => ["HIncrBy", key]
  | .hSet key _ => ["HSet", key]
  | .hDel key _ => ["HDel", key]
  | .xAdd stream _ => ["XAdd", stream]

/-- A command's error: `redis.Nil`, the answer to a read of a missing key, or another one. -/
inductive RedisErr where
  | nil
  | other (msg : String)
  deriving DecidableEq, Repr

/-- The error's text, the message of the panic that `checkError` raises. -/
def RedisErr.text : RedisErr → String
  | .nil => "redis: nil"
  | .other msg => msg

/-- A command's reply, as go-redis reads it. -/
inductive RedisReply where
  | str (s : String)
  | int (n : Int)
  | bool (b : Bool)
  | status (s : String)
  deriving DecidableEq, Repr

/-- A command and, once the server ran it, its outcome. -/
structure QueuedCmd where
  cmd : RedisCmd
  outcome : Option (Except RedisErr RedisReply)

/-- `RedisPipeLine`: the engine's logger flag, the pool, go-redis's command objects (one per
handle, in queue order), `executed`, `commands` and `log`. The `[ORM][REDIS][EXEC]` lines are
kept with the commands logged and the error. -/
structure RedisPipeLine where
  hasLogger : Bool
  pool : String
  cmds : List QueuedCmd
  executed : Bool
  commands : Nat
  log : List String
  execLog : List (List String × Option RedisErr)

/-- A new pipeline of a pool. -/
def RedisPipeLine.new (hasLogger : Bool) (pool : String) : RedisPipeLine :=
  ⟨hasLogger, pool, [], false, 0, [], []⟩

/-- A computation on a pipeline and its server's state; a panic keeps the state. -/
abbrev PipeM (σ : Type) := EStateM Fault (RedisPipeLine × σ)

section Server

variable {σ : Type} (server : σ → RedisCmd → σ × Except RedisErr RedisReply)

/-- The commands sent one at a time: the server's state after them, and their replies. -/
def serverRun : σ → List RedisCmd → σ × List (Except RedisErr RedisReply)
  | s, [] => (s, [])
  | s, c :: cs =>
    let (s₁, r) := server s c
    let (s₂, rs) := serverRun s₁ cs
    (s₂, r :: rs)

/-- go-redis's `cmdsFirstErr`: the error of the first command that failed. -/
def firstError (replies : List (Except RedisErr RedisReply)) : Option RedisErr :=
  replies.findSome? fun r => match r with
    | .error e => some e
    | .ok _ => none

namespace RedisPipeLine

/-- A command method: count the command, log its words, queue it, return its handle. -/
def queue (c : RedisCmd) : PipeM σ Nat := fun st =>
  let rp := st.1
  .ok rp.cmds.length ({ rp with
    cmds := rp.cmds ++ [⟨c, none⟩]
    commands := rp.commands + 1
    log := if rp.hasLogger then rp.log ++ c.logWords else rp.log }, st.2)

/-- `Del(keys...)`: queue `DEL` of the keys. -/
def del (keys : List String) : PipeM σ Nat := queue (.del keys)

/-- `Get(key)`: queue `GET` of the key. -/
def get (key : String) : PipeM σ Nat := queue (.get key)

/-- `Set(key, value, expiration)`: queue `SET` of the key. -/
def set (key value : String) (expiration : Nat) : PipeM σ Nat := queue (.set key value expiration)

/-- `Expire(key, expiration)`: queue `EXPIRE` of the key. -/
def expire (key : String) (expiration : Nat) : PipeM σ Nat := queue (.expire key expiration)

/-- `HIncrBy(key, field, incr)`: queue `HINCRBY` of the field. -/
def hIncrBy (key field : String) (incr : Int) : PipeM σ Nat := queue (.hIncrBy key field incr)

/-- `HSet(key, values...)`: queue `HSET` of the fields and values. -/
def hSet (key : String) (values : List String) : PipeM σ Nat := queue (.hSet key values)

/-- `HDel(key, fields...)`: queue `HDEL` of the fields. -/
def hDel (key : String) (fields : List String) : PipeM σ Nat := queue (.hDel key fields)

/-- `XAdd(stream, values)`: queue `XADD` of an event to the stream. -/
def xAdd (stream : String) (values : List String) : PipeM σ Nat := queue (.xAdd stream values)

/-- `Exec`: panics on a pipeline already run; otherwise sends every queued command, sets
`executed`, turns a `redis.Nil` error into none, logs, and panics on the error that is left. -/
def exec : PipeM σ Unit := fun st =>
  let rp := st.1
  if rp.executed then .error (.panic "pipeline is already executed") st
  else
    let run := serverRun server st.2 (rp.cmds.map (·.cmd))
    let err := match firstError run.2 with
      | some .nil => none
      | e => e
    let rp' := { rp with
      cmds := List.zipWith (fun q r => ⟨q.cmd, some r⟩) rp.cmds run.2
      executed := true
      execLog := if rp.hasLogger then rp.execLog ++ [(rp.log, err)] else rp.execLog }
    match err with
    | some e => .error (.panic e.text) (rp', run.1)
    | none => .ok () (rp', run.1)

/-- `Executed()`: whether `Exec` has run. -/
def getExecuted : PipeM σ Bool := fun st => .ok st.1.executed st

end RedisPipeLine

end Server

/-- `checkExecuted`, then the outcome of the command behind a handle: `none` for a command that
never ran. -/
def pipeOutcome {σ : Type} (handle : Nat) : PipeM σ (Option (Except RedisErr RedisReply)) :=
  fun st =>
    if st.1.executed then .ok ((st.1.cmds.get? handle).bind (·.outcome)) st
    else .error (.panic "pipeline must be executed first") st

/-- The string of a reply; go-redis's zero value for another one. -/
def RedisReply.string : RedisReply → String
  | .str s => s
  | .status s => s
  | _ => ""

/-- The integer of a reply. -/
def RedisReply.integer : RedisReply → Int
  | .int n => n
  | _ => 0

/-- The boolean of a reply. -/
def RedisReply.boolean : RedisReply → Bool
  | .bool b => b
  | _ => false

/-- A typed `cmd.Result()`: the value and the error, the zero value where there is no reply. -/
def typedResult {α : Type} (zero : α) (read : RedisReply → α) :
    Option (Except RedisErr RedisReply) → α × Option RedisErr
  | some (.ok r) => (read r, none)
  | some (.error e) => (zero, some e)
  | none => (zero, none)

section Results

variable {σ : Type}

/-- `PipeLineGet.Result`: `redis.Nil` reads as not found and no error. -/
def PipeLineGet.result (handle : Nat) : PipeM σ (String × Bool × Option RedisErr) := do
  let (val, err) := typedResult "" RedisReply.string (← pipeOutcome handle)
  pure (if err = some .nil then (val, false, none) else (val, true, err))

/-- `PipeLineString.Result()`: the reply's text, or `""` with the error. -/
def PipeLineString.result (handle : Nat) : PipeM σ (String × Option RedisErr) := do
  pure (typedResult "" RedisReply.string (← pipeOutcome handle))

/-- `PipeLineInt.Result()`: the reply's integer, or `0` with the error. -/
def PipeLineInt.result (handle : Nat) : PipeM σ (Int × Option RedisErr) := do
  pure (typedResult 0 RedisReply.integer (← pipeOutcome handle))

/-- `PipeLineBool.Result()`: the reply's bool, or `false` with the error. -/
def PipeLineBool.result (handle : Nat) : PipeM σ (Bool × Option RedisErr) := do
  pure (typedResult false RedisReply.boolean (← pipeOutcome handle))

/-- `PipeLineStatus.Result()`: the error of the command, if any. -/
def PipeLineStatus.result (handle : Nat) : PipeM σ (Option RedisErr) := do
  pure (typedResult () (fun _ => ()) (← pipeOutcome handle)).2

end Results

/-! ### Runs of calls -/

/-- A call on a pipeline: a command method, `Exec`, or the `Result` of a handle (every kind of
handle reads its command's outcome the same way). -/
inductive PipeOp where
  | cmd (c : RedisCmd)
  | exec
  | result (handle : Nat)

section Runs

variable {σ : Type} (server : σ → RedisCmd → σ × Except RedisErr RedisReply)

/-- A call, its value dropped. -/
def PipeOp.run : PipeOp → PipeM σ Unit
  | .cmd c => do let _ ← RedisPipeLine.queue c; pure ()
  | .exec => RedisPipeLine.exec server
  | .result handle => do let _ ← pipeOutcome handle; pure ()

/-- A run of calls; it stops at the first panic. -/
def pipeRun (ops : List PipeOp) : PipeM σ Unit :=
  ops.forM (PipeOp.run server)

theorem length_serverRun (s : σ) (cs : List RedisCmd) :
    (serverRun server s cs).2.length = cs.length := by
  induction cs generalizing s with
  | nil => rfl
  | cons c cs ih => simp [serverRun, ih]

/-- `Exec` of a pipeline not yet run: every command gets its reply. -/
theorem finalState_exec (rp : RedisPipeLine) (s : σ) :
    finalState (RedisPipeLine.exec server (rp, s)) =
      if rp.executed then (rp, s) else
      ({ rp with
        cmds := List.zipWith (fun q r => ⟨q.cmd, some r⟩) rp.cmds
          (serverRun server s (rp.cmds.map (·.cmd))).2
        executed := true
        execLog := if rp.hasLogger then rp.execLog ++ [(rp.log, match firstError
          (serverRun server s (rp.cmds.map (·.cmd))).2 with
            | some .nil => none
            | e => e)] else rp.execLog },
        (serverRun server s (rp.cmds.map (·.cmd))).1) := by
  unfold RedisPipeLine.exec
  dsimp only
  split
  · rfl
  · split <;> rfl

theorem map_cmd_zipWith (cmds : List QueuedCmd) (replies : List (Except RedisErr RedisReply))
    (h : replies.length = cmds.length) :
    (List.zipWith (fun q r => (⟨q.cmd, some r⟩ : QueuedCmd)) cmds replies).map (·.cmd) =
      cmds.map (·.cmd) ∧
    (List.zipWith (fun q r => (⟨q.cmd, some r⟩ : QueuedCmd)) cmds replies).map (·.outcome) =
      replies.map some := by
  induction cmds generalizing replies with
  | nil => cases replies <;> simp_all
  | cons q cmds ih =>
    cases replies with
    | nil => simp at h
    | cons r replies =>
      obtain ⟨h₁, h₂⟩ := ih replies (by simpa using h)
      simp [h₁, h₂]

/-- What a pipeline and its server's state are after any run from a new pipeline on the server
state `s₀`. The counter and the log match the queue. The first `k` commands, and no other, have
run: the server's state is what sending them one at a time gives, and their outcomes are that
sequence's replies. Before `Exec`, `k` is `0`. -/
structure Consistent (s₀ : σ) (st : RedisPipeLine × σ) : Prop where
  commands : st.1.commands = st.1.cmds.length
  log : st.1.log =
    if st.1.hasLogger then (st.1.cmds.map (·.cmd)).flatMap RedisCmd.logWords else []
  ran : ∃ k ≤ st.1.cmds.length, (st.1.executed = false → k = 0) ∧
    (∀ q ∈ st.1.cmds.drop k, q.outcome = none) ∧
    (serverRun server s₀ ((st.1.cmds.take k).map (·.cmd))).1 = st.2 ∧
    (serverRun server s₀ ((st.1.cmds.take k).map (·.cmd))).2.map some =
      (st.1.cmds.take k).map (·.outcome)

theorem consistent_new (hasLogger : Bool) (pool : String) (s₀ : σ) :
    Consistent server s₀ (RedisPipeLine.new hasLogger pool, s₀) :=
  ⟨rfl, by cases hasLogger <;> rfl, ⟨0, le_rfl, fun _ => rfl, by simp [RedisPipeLine.new], rfl, rfl⟩⟩

theorem Consistent.queue {s₀ : σ} {st : RedisPipeLine × σ} (h : Consistent server s₀ st)
    (c : RedisCmd) : Consistent server s₀ (finalState (RedisPipeLine.queue c st)) := by
  obtain ⟨rp, s⟩ := st
  obtain ⟨hc, hl, k, hk, hex, hdrop, hs, ho⟩ := h
  dsimp only at hc hl hk hex hdrop hs ho
  refine ⟨by simp [RedisPipeLine.queue, finalState, hc], ?_, k, ?_, hex, ?_, ?_, ?_⟩ <;>
    simp only [RedisPipeLine.queue, finalState, List.length_append, List.take_append_of_le_length hk,
      List.drop_append_of_le_length hk]
  · cases hb : rp.hasLogger <;> simp [hl, hb]
  · omega
  · intro q hq
    rcases List.mem_append.1 hq with hq | hq
    · exact hdrop q hq
    · simp at hq; rw [hq]
  · exact hs
  · exact ho

theorem Consistent.exec {s₀ : σ} {st : RedisPipeLine × σ} (h : Consistent server s₀ st) :
    Consistent server s₀ (finalState (RedisPipeLine.exec server st)) := by
  obtain ⟨rp, s⟩ := st
  rw [finalState_exec]
  split
  · exact h
  case isFalse hne =>
    obtain ⟨k, -, hex, -, hs, -⟩ := h.ran
    obtain rfl : k = 0 := hex (by simpa using hne)
    obtain rfl : s₀ = s := by simpa [serverRun] using hs
    have hz := map_cmd_zipWith rp.cmds _ (by simpa using length_serverRun server s₀ (rp.cmds.map (·.cmd)))
    have hlen : (List.zipWith (fun q r => (⟨q.cmd, some r⟩ : QueuedCmd)) rp.cmds
        (serverRun server s₀ (rp.cmds.map (·.cmd))).2).length = rp.cmds.length := by
      simpa using congrArg List.length hz.1
    refine ⟨by simpa [hlen] using h.commands, by simpa [hz.1] using h.log, rp.cmds.length,
      by dsimp only; rw [hlen], fun hf => by simp at hf, ?_⟩
    rw [← hlen, List.take_length, List.drop_length, hz.1, hz.2]
    exact ⟨by simp, rfl, rfl⟩

theorem Consistent.outcome {s₀ : σ} {st : RedisPipeLine × σ} (h : Consistent server s₀ st)
    (handle : Nat) : Consistent server s₀ (finalState (pipeOutcome handle st)) := by
  unfold pipeOutcome; split <;> exact h

theorem Consistent.run {s₀ : σ} {st : RedisPipeLine × σ} (h : Consistent server s₀ st) :
    ∀ op : PipeOp, Consistent server s₀ (finalState (op.run server st))
  | .cmd c => by
    rw [PipeOp.run, finalState_bind]
    have := h.queue server c
    revert this; cases RedisPipeLine.queue c st <;> exact id
  | .exec => h.exec server
  | .result handle => by
    rw [PipeOp.run, finalState_bind]
    have := h.outcome server handle
    revert this; cases pipeOutcome handle st <;> exact id

/-- **Every run of a pipeline sends a prefix of its queue, once, in order.** From a new
pipeline, whatever calls are made and wherever a panic stops the run: the counter and the log
match the commands queued, the server's state is what sending the first `k` commands one at a
time gives, their outcomes are that sequence's replies, and no later command was sent; before
`Exec`, `k` is `0`. -/
theorem run_consistent (hasLogger : Bool) (pool : String) (s₀ : σ) (ops : List PipeOp) :
    Consistent server s₀ (finalState (pipeRun server ops (RedisPipeLine.new hasLogger pool, s₀))) :=
  finalState_forM (fun op _ h => h.run server op) ops _ (consistent_new server hasLogger pool s₀)

end Runs

end Orm
