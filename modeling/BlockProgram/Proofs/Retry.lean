import BlockProgram.Delivery.Executor

/-! # The retry loop

Sending a line with retries is a loop: each round sends the line once, with the attempt
counter at its value; a refused line is sent again, the counter one up, while the counter is
below `k = max attempts 1`, and otherwise the last refusal is the answer. `Delivery.Rounds`
is that loop as a relation, one constructor a round, with the counters of its rounds; it
has at most one run from a state (`Rounds.unique`).

`retry`, started on counter `1` with `k` rounds of fuel, is a whole run of that loop on any
link: the fuel never runs out before the loop stops (`Delivery.rounds_retry`). From counter
`1` every round's counter lies in `1..k`, so a 32-bit counter never wraps
(`Rounds.counter_mem`). On the scripted link the run is known in full: while connected the
scripted failures are used up one a round until the line goes out, and while disconnected
every one of the `k` rounds is refused and the link is left as it was
(`Delivery.rounds_memory_connected`, `Delivery.rounds_memory_disconnected`). What
`sendWithRetry` answers there is read off that run (`Delivery.sendWithRetry_memory_answer`).
-/

namespace BlockProgram

namespace Delivery

section Rounds

variable {τ : Type} [Link τ] (line : String) (k : Nat)

/-- The retry loop of one line, run to its end. `Rounds line k a l counters r`: from counter
`a` on link `l`, the loop makes a round with each counter of `counters`, in order, each
round sending `line` once, and it answers `r` with the link it leaves. -/
inductive Rounds : Nat → τ → List Nat → Except Error Nat × τ → Prop
  /-- The line goes out: the answer is the counter. -/
  | sent {a : Nat} {l l' : τ} (accepted : Link.send line l = (.ok (), l')) :
      Rounds a l [a] (.ok a, l')
  /-- The line is refused with rounds left: the next round comes with the counter one up. -/
  | retried {a : Nat} {l l' : τ} {e : Error} {counters : List Nat} {r : Except Error Nat × τ}
      (refused : Link.send line l = (.error e, l')) (left : a < k)
      (next : Rounds (a + 1) l' counters r) : Rounds a l (a :: counters) r
  /-- The line is refused in the last round: the refusal is the answer. -/
  | gaveUp {a : Nat} {l l' : τ} {e : Error} (refused : Link.send line l = (.error e, l'))
      (last : ¬ a < k) : Rounds a l [a] (.error e, l')

variable {line k}

/-- The loop is deterministic: from one state it has at most one run. -/
theorem Rounds.unique {a : Nat} {l : τ} {counters counters' : List Nat}
    {r r' : Except Error Nat × τ} (run : Rounds line k a l counters r)
    (run' : Rounds line k a l counters' r') : counters = counters' ∧ r = r' := by
  -- both runs make the same first send; its one outcome picks the same constructor
  induction run generalizing counters' r' with
  | sent accepted =>
      cases run' with
      | sent accepted' => simp_all
      | retried refused' => simp_all
      | gaveUp refused' => simp_all
  | retried refused left _ ih =>
      cases run' with
      | sent accepted' => simp_all
      | retried refused' _ next' =>
          rw [refused] at refused'
          obtain ⟨-, rfl⟩ := Prod.mk.inj refused'
          obtain ⟨rfl, rfl⟩ := ih next'
          exact ⟨rfl, rfl⟩
      | gaveUp _ last' => exact absurd left last'
  | gaveUp refused last =>
      cases run' with
      | sent accepted' => simp_all
      | retried _ left' => exact absurd left' last
      | gaveUp refused' => simp_all

/-- Every round's counter lies between the first one and `k`, when the first is at most
`k`: the counter goes up only while it is below `k`. -/
theorem Rounds.counter_mem {a : Nat} {l : τ} {counters : List Nat} {r : Except Error Nat × τ}
    (run : Rounds line k a l counters r) (first : a ≤ k) : ∀ c ∈ counters, a ≤ c ∧ c ≤ k := by
  induction run with
  | sent => simpa using first
  | gaveUp => simpa using first
  | retried _ left _ ih =>
      intro c member
      rcases List.mem_cons.mp member with rfl | later
      · exact ⟨Nat.le_refl c, first⟩
      · have := ih left c later
        omega

/-- With fuel for the rounds from counter `a` up to `k`, `retry` is a run of the loop: the
fuel never runs out first. -/
theorem rounds_retry (l : τ) {a n : Nat} (first : a ≤ k) (fuel : a + n = k + 1) :
    ∃ counters, Rounds line k a l counters (retry line k a n l) := by
  -- one round for each unit of fuel, the counter one up each time
  induction n generalizing a l with
  | zero => omega
  | succ n ih =>
      rw [retry]
      rcases sending : Link.send line l with ⟨e | ⟨⟩, l'⟩
      · dsimp only
        by_cases left : a < k
        · rw [if_pos left]
          obtain ⟨counters, run⟩ := ih l' (a := a + 1) left (by omega)
          exact ⟨a :: counters, .retried sending left run⟩
        · rw [if_neg left]
          exact ⟨[a], .gaveUp sending left⟩
      · exact ⟨[a], .sent sending⟩

end Rounds

section Memory

/-! The rounds on the scripted link. -/

variable (line : String) {k : Nat}

theorem send_memory_disconnected {l : MemoryLink} (disconnected : l.connected = false) :
    Link.send line l = (.error .notConnected, l) := by
  simp [Link.send, MemoryLink.send, disconnected]

theorem send_memory_refused {l : MemoryLink} (connected : l.connected = true)
    (failing : 0 < l.failuresLeft) :
    Link.send line l =
      (.error (.transport "simulated send failure"), { l with failuresLeft := l.failuresLeft - 1 }) := by
  simp [Link.send, MemoryLink.send, connected, failing]

theorem send_memory_accepted {l : MemoryLink} (connected : l.connected = true)
    (clear : l.failuresLeft = 0) : Link.send line l = (.ok (), { l with sent := l.sent ++ [line] }) := by
  simp [Link.send, MemoryLink.send, connected, clear]

/-- While disconnected every round is refused and the link kept: the loop makes every round
from `a` to `k`. -/
theorem rounds_memory_disconnected {a n : Nat} {l : MemoryLink} (disconnected : l.connected = false)
    (last : a + n = k) : Rounds line k a l (List.range' a (n + 1)) (.error .notConnected, l) := by
  induction n generalizing a with
  | zero => exact .gaveUp (send_memory_disconnected line disconnected) (by omega)
  | succ n ih =>
      rw [List.range'_succ]
      exact .retried (send_memory_disconnected line disconnected) (by omega) (ih (by omega))

/-- While connected, a round uses up one scripted failure: the line goes out in the round
after the last failure if that round comes by `k`, and otherwise every round is refused. -/
theorem rounds_memory_connected {a n : Nat} {l : MemoryLink} (connected : l.connected = true)
    (last : a + n = k) :
    Rounds line k a l (List.range' a (min (l.failuresLeft + 1) (n + 1)))
      (if l.failuresLeft ≤ n then
        (.ok (a + l.failuresLeft), { l with failuresLeft := 0, sent := l.sent ++ [line] })
      else
        (.error (.transport "simulated send failure"),
          { l with failuresLeft := l.failuresLeft - (n + 1) })) := by
  induction n generalizing a l with
  | zero =>
      rcases l with ⟨c, _ | f, acks, sent⟩
      · exact .sent (send_memory_accepted line connected rfl)
      · exact .gaveUp (send_memory_refused line connected (Nat.succ_pos f)) (by omega)
  | succ n ih =>
      rcases l with ⟨c, _ | f, acks, sent⟩
      · exact .sent (send_memory_accepted line connected rfl)
      · -- a failure is used up and the next round follows with `f` failures left
        have run := ih (a := a + 1) (l := ⟨c, f, acks, sent⟩) connected (by omega)
        have rounds : min (f + 1 + 1) (n + 1 + 1) = min (f + 1) (n + 1) + 1 := by omega
        dsimp only at run ⊢
        rw [rounds, List.range'_succ]
        by_cases fits : f ≤ n
        · rw [if_pos fits] at run
          rw [if_pos (by omega), show a + (f + 1) = a + 1 + f by omega]
          exact .retried (send_memory_refused line connected (Nat.succ_pos f)) (by omega) run
        · rw [if_neg fits] at run
          rw [if_neg (by omega), show f + 1 - (n + 1 + 1) = f - (n + 1) by omega]
          exact .retried (send_memory_refused line connected (Nat.succ_pos f)) (by omega) run

/-- The whole run from the first round, `k` rounds allowed. -/
theorem rounds_memory (once : 1 ≤ k) (l : MemoryLink) :
    Rounds line k 1 l (List.range' 1 (if l.connected then min (l.failuresLeft + 1) k else k))
      (if l.connected then
        if l.failuresLeft < k then
          (.ok (l.failuresLeft + 1), { l with failuresLeft := 0, sent := l.sent ++ [line] })
        else
          (.error (.transport "simulated send failure"),
            { l with failuresLeft := l.failuresLeft - k })
      else (.error .notConnected, l)) := by
  obtain ⟨n, rfl⟩ : ∃ n, k = n + 1 := ⟨k - 1, by omega⟩
  cases connected : l.connected with
  | false => simpa using rounds_memory_disconnected line connected (Nat.add_comm 1 n)
  | true =>
      have run := rounds_memory_connected line connected (Nat.add_comm 1 n)
      by_cases fits : l.failuresLeft ≤ n
      · rw [if_pos fits, Nat.add_comm 1] at run
        simpa [Nat.lt_succ_iff.mpr fits, connected] using run
      · rw [if_neg fits] at run
        simpa [show ¬ l.failuresLeft < n + 1 by omega, connected] using run

end Memory

/-- On any link, sending with retries is a run of the loop from the first attempt. -/
theorem rounds_sendWithRetry {τ : Type} [Link τ] (cfg : DeliveryConfig) (line : String) (l : τ) :
    ∃ counters, Rounds line (max cfg.attempts.toNat 1) 1 l counters
      ((sendWithRetry cfg line : Delivery τ Nat).runOn l) :=
  rounds_retry l (Nat.le_max_right _ _) (Nat.add_comm 1 _)

/-- Sending with retries over the scripted link answers as its one run does. -/
theorem sendWithRetry_memory_answer (cfg : DeliveryConfig) (line : String) (l : MemoryLink) :
    (sendWithRetry cfg line : Delivery MemoryLink Nat).runOn l =
      if l.connected then
        if l.failuresLeft < max cfg.attempts.toNat 1 then
          (.ok (l.failuresLeft + 1), { l with failuresLeft := 0, sent := l.sent ++ [line] })
        else
          (.error (.transport "simulated send failure"),
            { l with failuresLeft := l.failuresLeft - max cfg.attempts.toNat 1 })
      else (.error .notConnected, l) := by
  obtain ⟨_, code⟩ := rounds_sendWithRetry cfg line l
  exact (code.unique (rounds_memory line (Nat.le_max_right _ _) l)).2

end Delivery

end BlockProgram
