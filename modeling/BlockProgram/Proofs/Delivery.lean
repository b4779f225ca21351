import Mathlib.Data.List.TakeWhile
import BlockProgram.Delivery.Executor
import BlockProgram.Proofs.CommandQueue
import BlockProgram.Proofs.Retry

/-! # Delivering over the scripted link

What each way of running a program does on a `MemoryLink`, for every sequence and every
scripted state. Both ways settle an empty sequence, then a sequence with no command (two
delays or more and nothing else), then a missing device, in that order and without touching
the link. After that every line is tried `k = max attempts 1` times: the scripted failures
are used up first, so the first line goes out on attempt `f + 1` when fewer than `k`
failures are scripted, and not at all otherwise. The tries are the rounds of the retry loop
`Delivery.Rounds`, whose one run from the first attempt `sendWithRetry` ends; while
disconnected every round is refused. Stopping sends the line `stop()` the same way.

`runSequence` then sends the whole queue as one line (`Delivery.runSequence_memory`);
`runStepwise` sends the queue entry by entry and stops at the first acknowledgement that
does not come (`Delivery.runStepwise_memory`). The lines it sends, joined, are the line
`runSequence` sends.
-/

namespace BlockProgram

namespace Delivery

section Run

variable {τ : Type}

theorem runOn_bind {α β : Type} (d : Delivery τ α) (f : α → Delivery τ β) (l : τ) :
    (d >>= f).runOn l =
      match d.runOn l with
      | (.ok a, l') => (f a).runOn l'
      | (.error e, l') => (.error e, l') := by
  simp only [runOn, ExceptT.run_bind, StateT.run_bind]
  rcases d.run.run l with ⟨_ | a, l'⟩ <;> rfl

theorem runOn_pure {α : Type} (a : α) (l : τ) : (pure a : Delivery τ α).runOn l = (.ok a, l) :=
  rfl

theorem runOn_get (l : τ) : (get : Delivery τ τ).runOn l = (.ok l, l) := rfl

theorem runOn_throw {α : Type} (e : Error) (l : τ) :
    (throw e : Delivery τ α).runOn l = (.error e, l) := rfl

theorem runOn_lift {α : Type} (f : τ → Except Error α × τ) (l : τ) : (lift f).runOn l = f l := rfl

variable [Link τ]

theorem runOn_ensureConnected (l : τ) :
    (ensureConnected : Delivery τ Unit).runOn l =
      if Link.isConnected l then (.ok (), l) else (.error .notConnected, l) := by
  unfold ensureConnected
  rw [runOn_bind, runOn_get]
  by_cases connected : Link.isConnected l <;> simp [connected, runOn_pure, runOn_throw]

end Run

section Retry

/-! Sending with retries over the scripted link: the loop's run is known in full
(`Delivery.rounds_memory`), and the code's answer is its answer. -/

variable (line : String) (cfg : DeliveryConfig)

theorem sendWithRetry_memory {l : MemoryLink} (connected : l.connected = true) :
    (sendWithRetry cfg line : Delivery MemoryLink Nat).runOn l =
      if l.failuresLeft < max cfg.attempts.toNat 1 then
        (.ok (l.failuresLeft + 1), { l with failuresLeft := 0, sent := l.sent ++ [line] })
      else
        (.error (.transport "simulated send failure"),
          { l with failuresLeft := l.failuresLeft - max cfg.attempts.toNat 1 }) := by
  rw [sendWithRetry_memory_answer, if_pos connected]

/-- The stop command goes out as any line does, its attempt number dropped. -/
theorem stop_runOn {τ : Type} [Link τ] (l : τ) :
    (stop cfg).runOn l =
      match (sendWithRetry cfg Command.stop.render : Delivery τ Nat).runOn l with
      | (.ok _, l') => (.ok (), l')
      | (.error e, l') => (.error e, l') := by
  rw [stop, runOn_bind]
  rcases (sendWithRetry cfg Command.stop.render : Delivery τ Nat).runOn l with ⟨_ | _, l'⟩ <;> rfl

/-- Sending a line with retries over the scripted link, for every line, every attempt
setting and every script, with `k = max attempts 1` and `f` scripted failures: the loop
from the first attempt has one run, which the code's answer ends. Connected, it makes
`min (f + 1) k` rounds and sends the line on attempt `f + 1` when `f < k`, else gives up
with the transport's refusal and `f - k` failures left; disconnected, it makes `k` rounds,
each refused, and leaves the link as it was. Every attempt counter lies in `1..k`, a 32-bit
value. Stopping is this loop on the line `stop()`. -/
theorem sendWithRetry_rounds_memory (l : MemoryLink) :
    let k := max cfg.attempts.toNat 1
    (∀ counters r, Rounds line k 1 l counters r ↔
      counters = List.range' 1 (if l.connected then min (l.failuresLeft + 1) k else k) ∧
      r = (sendWithRetry cfg line).runOn l) ∧
    (∀ counters r, Rounds line k 1 l counters r →
      ∀ c ∈ counters, 1 ≤ c ∧ c ≤ k ∧ c < UInt32.size) ∧
    (sendWithRetry cfg line).runOn l =
      (if l.connected then
        if l.failuresLeft < k then
          (.ok (l.failuresLeft + 1), { l with failuresLeft := 0, sent := l.sent ++ [line] })
        else
          (.error (.transport "simulated send failure"),
            { l with failuresLeft := l.failuresLeft - k })
      else (.error .notConnected, l)) ∧
    (stop cfg).runOn l =
      match (sendWithRetry cfg "stop()" : Delivery MemoryLink Nat).runOn l with
      | (.ok _, l') => (.ok (), l')
      | (.error e, l') => (.error e, l') := by
  intro k
  have once : 1 ≤ k := Nat.le_max_right _ _
  have memory := rounds_memory line once l
  have answer := sendWithRetry_memory_answer cfg line l
  refine ⟨fun counters r => ⟨fun run => ?_, ?_⟩, fun counters r run c member => ?_, answer, ?_⟩
  · -- a run from the first attempt is the one the scripted link makes
    obtain ⟨rfl, rfl⟩ := run.unique memory
    exact ⟨rfl, answer.symm⟩
  · rintro ⟨rfl, rfl⟩
    rwa [answer]
  · have within := run.counter_mem once c member
    have small : k < UInt32.size := max_lt cfg.attempts.toNat_lt_size (by decide)
    omega
  · have rendered : Command.stop.render = "stop()" := rfl
    rw [stop_runOn cfg, rendered]
    rcases (sendWithRetry cfg "stop()" : Delivery MemoryLink Nat).runOn l with ⟨_ | _, l'⟩ <;> rfl

/-- Two scripted failures and the default three attempts: the rounds are `1, 2, 3`, and the
line goes out once, on the third. -/
theorem sendWithRetry_after_two_failures :
    Rounds "up(3)_down(0)" 3 1 ({ failuresLeft := 2 } : MemoryLink) [1, 2, 3]
        (.ok 3, { sent := ["up(3)_down(0)"] }) ∧
      (sendWithRetry {} "up(3)_down(0)" : Delivery MemoryLink Nat).runOn { failuresLeft := 2 } =
        (.ok 3, { sent := ["up(3)_down(0)"] }) ∧
      (1 ≤ 3 ∧ 3 ≤ 3 ∧ 3 < UInt32.size) := by
  obtain ⟨rounds, counters, answer, -⟩ :=
    sendWithRetry_rounds_memory "up(3)_down(0)" {} { failuresLeft := 2 }
  have three : max ({} : DeliveryConfig).attempts.toNat 1 = 3 := rfl
  have sent :
      (sendWithRetry {} "up(3)_down(0)" : Delivery MemoryLink Nat).runOn { failuresLeft := 2 } =
        (.ok 3, { sent := ["up(3)_down(0)"] }) := by
    simpa [three] using answer
  have run := (rounds _ _).mpr ⟨rfl, rfl⟩
  rw [sent, three] at run
  refine ⟨run, sent, counters _ _ run 3 ?_⟩
  simp

end Retry

section Sequence

variable {τ : Type} [Link τ] (o : CompileOptions) (cfg : DeliveryConfig) (s : List Block)

theorem commandQueue_eq_nil_iff_delays (blocks : s ≠ []) :
    commandQueue o s = [] ↔ 2 ≤ s.length ∧ ∀ b ∈ s, b.type = .delay := by
  simp [CommandQueue.commandQueue_eq_nil_iff, blocks, CommandQueue.isDelay_iff]

/-- The three checks both ways of running make before sending, read on the scripted link:
what comes after them only matters once the queue has entries and a device is reachable. -/
theorem checks_memory {β : Type} (l : MemoryLink) {empty noCommands notConnected go go' : β}
    (same : s ≠ [] → commandQueue o s ≠ [] → l.connected = true → go = go') :
    (if s = [] then empty else if commandQueue o s = [] then noCommands
      else if Link.isConnected l then go else notConnected) =
    (if s = [] then empty else if 2 ≤ s.length ∧ ∀ b ∈ s, b.type = .delay then noCommands
      else if l.connected = false then notConnected else go') := by
  by_cases blocks : s = []
  · simp [blocks]
  have none := commandQueue_eq_nil_iff_delays o s blocks
  by_cases nothing : commandQueue o s = []
  · rw [if_neg blocks, if_neg blocks, if_pos nothing, if_pos (none.mp nothing)]
  have queued : ¬ (2 ≤ s.length ∧ ∀ b ∈ s, b.type = .delay) := mt none.mpr nothing
  have reachable : Link.isConnected l = l.connected := rfl
  cases connected : l.connected with
  | false => simp [blocks, nothing, queued, reachable, connected]
  | true => simp [blocks, nothing, queued, reachable, connected, same blocks nothing connected]

/-- `runSequence` on any link: the checks in their order, then one line with retries. -/
theorem runSequence_runOn (l : τ) :
    (runSequence o cfg s).runOn l =
      if s = [] then (.ok .empty, l)
      else if commandQueue o s = [] then (.ok .noCommands, l)
      else if Link.isConnected l then
        match (sendWithRetry cfg (renderLine ((commandQueue o s).map (·.command)))).runOn l with
        | (.ok n, l') => (.ok (.sent (renderLine ((commandQueue o s).map (·.command))) n), l')
        | (.error e, l') => (.error e, l')
      else (.error .notConnected, l) := by
  by_cases empty : s = []
  · subst empty
    rfl
  rw [if_neg empty]
  have compiled : compile o s = some ((commandQueue o s).map (·.command)) := by
    simp [compile, empty]
  cases queued : commandQueue o s with
  | nil => simp [runSequence, compiled, queued, runOn_pure]
  | cons q rest =>
      simp only [runSequence, compiled, queued, reduceCtorEq, if_false, List.map_cons]
      rw [runOn_bind, runOn_ensureConnected]
      by_cases connected : Link.isConnected l
      · simp only [connected, if_true]
        rw [runOn_bind]
        cases (sendWithRetry cfg _ : Delivery τ Nat).runOn l with
        | mk r l' => cases r <;> rfl
      · simp [connected]

/-- `runSequence` on the scripted link, for every sequence and every script: the three
checks leave the link as it was; then the queue goes out as one line, on the try after the
last scripted failure, or every try fails. A snapshot is sent as its execution order is. -/
theorem runSequence_memory (l : MemoryLink) :
    (runSequence o cfg s).runOn l =
      (if s = [] then (.ok .empty, l)
      else if 2 ≤ s.length ∧ ∀ b ∈ s, b.type = .delay then (.ok .noCommands, l)
      else if l.connected = false then (.error .notConnected, l)
      else if max cfg.attempts.toNat 1 ≤ l.failuresLeft then
        (.error (.transport "simulated send failure"),
          { l with failuresLeft := l.failuresLeft - max cfg.attempts.toNat 1 })
      else
        (.ok (.sent (renderLine ((commandQueue o s).map (·.command))) (l.failuresLeft + 1)),
          { l with failuresLeft := 0,
                   sent := l.sent ++ [renderLine ((commandQueue o s).map (·.command))] })) ∧
    (runSnapshot o cfg s).runOn l = (runSequence o cfg (Chain.linearize s)).runOn l := by
  refine ⟨?_, rfl⟩
  rw [runSequence_runOn]
  apply checks_memory
  intro _ _ connected
  rw [sendWithRetry_memory _ cfg connected]
  by_cases fails : max cfg.attempts.toNat 1 ≤ l.failuresLeft
  · rw [if_neg (Nat.not_lt.mpr fails), if_pos fails]
  · rw [if_pos (Nat.lt_of_not_le fails), if_neg fails]

end Sequence

section Stepwise

variable {τ : Type} [Link τ] (o : CompileOptions) (cfg : DeliveryConfig) (s : List Block)

/-- `runStepwise` on any link: the same checks as `runSequence`, then the queue entry by
entry. -/
theorem runStepwise_runOn (l : τ) :
    (runStepwise o cfg s).runOn l =
      if s = [] then (.ok .empty, l)
      else if commandQueue o s = [] then (.ok .noCommands, l)
      else if Link.isConnected l then
        match ((commandQueue o s).mapM (sendStep cfg)).runOn l with
        | (.ok ids, l') => (.ok (.stepped ids), l')
        | (.error e, l') => (.error e, l')
      else (.error .notConnected, l) := by
  by_cases empty : s = []
  · subst empty
    rfl
  by_cases none : commandQueue o s = []
  · simp [runStepwise, empty, none, runOn_pure]
  simp only [runStepwise, empty, none, List.isEmpty_iff, if_false]
  rw [runOn_bind, runOn_ensureConnected]
  by_cases connected : Link.isConnected l
  · simp only [connected, if_true]
    rw [runOn_bind]
    cases ((commandQueue o s).mapM (sendStep cfg) : Delivery τ (List String)).runOn l with
    | mk r l' => cases r <;> rfl
  · simp [connected]

theorem sendStep_memory (q : QueuedCommand) {l : MemoryLink} (connected : l.connected = true) :
    (sendStep cfg q).runOn l =
      if l.failuresLeft < max cfg.attempts.toNat 1 then
        match MemoryLink.awaitOk cfg.ackTimeoutMs.toNat
            { l with failuresLeft := 0, sent := l.sent ++ [q.command.render] } with
        | (.ok (), l') => (.ok q.blockId, l')
        | (.error e, l') => (.error e, l')
      else
        (.error (.transport "simulated send failure"),
          { l with failuresLeft := l.failuresLeft - max cfg.attempts.toNat 1 }) := by
  rw [sendStep, runOn_bind, sendWithRetry_memory _ cfg connected]
  by_cases sent : l.failuresLeft < max cfg.attempts.toNat 1
  · rw [if_pos sent, if_pos sent]
    dsimp only
    rw [runOn_bind, runOn_lift, show Link.awaitOk = MemoryLink.awaitOk from rfl]
    cases MemoryLink.awaitOk cfg.ackTimeoutMs.toNat
      { l with failuresLeft := 0, sent := l.sent ++ [q.command.render] } with
    | mk r l' => cases r <;> rfl
  · rw [if_neg sent, if_neg sent]

/-- Once no failures are left, the queue goes out entry by entry until the
acknowledgements run out: the entry that finds none is sent, and the run stops there. -/
theorem mapM_sendStep_memory (queue : List QueuedCommand) {l : MemoryLink}
    (connected : l.connected = true) (clear : l.failuresLeft = 0) :
    (queue.mapM (sendStep cfg)).runOn l =
      match l.acksLeft with
      | none => (.ok (queue.map (·.blockId)), { l with sent := l.sent ++ queue.map (·.command.render) })
      | some a =>
          if a < queue.length then
            (.error (.ackTimeout cfg.ackTimeoutMs.toNat),
              { l with acksLeft := some 0,
                       sent := l.sent ++ (queue.take (a + 1)).map (·.command.render) })
          else
            (.ok (queue.map (·.blockId)),
              { l with acksLeft := some (a - queue.length),
                       sent := l.sent ++ queue.map (·.command.render) }) := by
  have once : 0 < max cfg.attempts.toNat 1 := by omega
  rcases l with ⟨c, f, acks, sent⟩
  simp only at connected clear
  subst connected clear
  induction queue generalizing acks sent with
  | nil => cases acks <;> simp [runOn_pure]
  | cons q rest ih =>
      rw [List.mapM_cons, runOn_bind, sendStep_memory cfg q rfl]
      dsimp only
      rw [if_pos once]
      -- the entry is sent; what follows depends on the acknowledgements left
      cases acks with
      | none =>
          simp only [MemoryLink.awaitOk]
          rw [runOn_bind, ih]
          simp [runOn_pure]
      | some a =>
          cases a with
          | zero => simp [MemoryLink.awaitOk]
          | succ a =>
              simp only [MemoryLink.awaitOk]
              rw [runOn_bind, ih]
              by_cases short : a < rest.length
              · simp [short]
              · simp [short, runOn_pure]

/-- Before the first entry goes out the scripted failures are used up: with fewer than `k`
of them the run goes on as on a link with none left, and otherwise nothing is sent. -/
theorem mapM_sendStep_cons_memory (q : QueuedCommand) (rest : List QueuedCommand)
    {l : MemoryLink} (connected : l.connected = true) :
    ((q :: rest).mapM (sendStep cfg)).runOn l =
      if l.failuresLeft < max cfg.attempts.toNat 1 then
        ((q :: rest).mapM (sendStep cfg)).runOn { l with failuresLeft := 0 }
      else
        (.error (.transport "simulated send failure"),
          { l with failuresLeft := l.failuresLeft - max cfg.attempts.toNat 1 }) := by
  have once : 0 < max cfg.attempts.toNat 1 := by omega
  rw [List.mapM_cons, runOn_bind, runOn_bind, sendStep_memory cfg q connected]
  by_cases sent : l.failuresLeft < max cfg.attempts.toNat 1
  · have cleared : ({ l with failuresLeft := 0 } : MemoryLink).connected = true := connected
    rw [if_pos sent, if_pos sent, sendStep_memory cfg q cleared, if_pos once]
  · rw [if_neg sent, if_neg sent]

/-- Whenever `runSequence` sends a line, it is the queue's entries rendered and joined. -/
theorem runSequence_sent_line {l l' : τ} {line : String} {n : Nat}
    (sent : (runSequence o cfg s).runOn l = (.ok (.sent line n), l')) :
    line = commandSeparator.intercalate ((commandQueue o s).map (·.command.render)) := by
  rw [runSequence_runOn] at sent
  -- only the branch that sends gives `sent`
  split_ifs at sent
  · simp at sent
  · simp at sent
  · rcases attempt : (sendWithRetry cfg (renderLine ((commandQueue o s).map (·.command)))).runOn l
      with ⟨_ | n, l''⟩ <;> rw [attempt] at sent
    · simp at sent
    · simp only [Prod.mk.injEq, Except.ok.injEq, Outcome.sent.injEq] at sent
      rw [← sent.1.1, renderLine, List.map_map]
      rfl
  · simp at sent

/-- `runStepwise` on the scripted link, for every sequence and every script: the same three
checks as `runSequence`, then the first entry is tried as the single line is, and once it
is out the entries follow one by one until the acknowledgements run out. The lines sent,
joined, are the line `runSequence` sends. -/
theorem runStepwise_memory (l : MemoryLink) :
    ((runStepwise o cfg s).runOn l =
      if s = [] then (.ok .empty, l)
      else if 2 ≤ s.length ∧ ∀ b ∈ s, b.type = .delay then (.ok .noCommands, l)
      else if l.connected = false then (.error .notConnected, l)
      else if max cfg.attempts.toNat 1 ≤ l.failuresLeft then
        (.error (.transport "simulated send failure"),
          { l with failuresLeft := l.failuresLeft - max cfg.attempts.toNat 1 })
      else
        match l.acksLeft with
        | none =>
            (.ok (.stepped ((commandQueue o s).map (·.blockId))),
              { l with failuresLeft := 0,
                       sent := l.sent ++ (commandQueue o s).map (·.command.render) })
        | some a =>
            if a < (commandQueue o s).length then
              (.error (.ackTimeout cfg.ackTimeoutMs.toNat),
                { l with failuresLeft := 0, acksLeft := some 0,
                         sent := l.sent ++ ((commandQueue o s).take (a + 1)).map (·.command.render) })
            else
              (.ok (.stepped ((commandQueue o s).map (·.blockId))),
                { l with failuresLeft := 0, acksLeft := some (a - (commandQueue o s).length),
                         sent := l.sent ++ (commandQueue o s).map (·.command.render) })) ∧
    ∀ (l' l'' : MemoryLink) line n, (runSequence o cfg s).runOn l' = (.ok (.sent line n), l'') →
      line = commandSeparator.intercalate ((commandQueue o s).map (·.command.render)) := by
  refine ⟨?_, fun _ _ _ _ => runSequence_sent_line o cfg s⟩
  rw [runStepwise_runOn]
  apply checks_memory
  intro _ queued connected
  obtain ⟨q, rest, split⟩ := List.exists_cons_of_ne_nil queued
  rw [split, mapM_sendStep_cons_memory cfg q rest connected]
  by_cases fails : max cfg.attempts.toNat 1 ≤ l.failuresLeft
  · rw [if_neg (Nat.not_lt.mpr fails), if_pos fails]
  have cleared : ({ l with failuresLeft := 0 } : MemoryLink).connected = true := connected
  rw [if_pos (Nat.lt_of_not_le fails), if_neg fails, mapM_sendStep_memory cfg (q :: rest) cleared rfl]
  -- the acknowledgements left decide where the run stops
  cases l.acksLeft with
  | none => rfl
  | some a =>
      dsimp only
      by_cases short : a < (q :: rest).length
      · rw [if_pos short, if_pos short]
      · rw [if_neg short, if_neg short]

end Stepwise

end Delivery

end BlockProgram
