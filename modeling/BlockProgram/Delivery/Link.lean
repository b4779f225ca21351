import BlockProgram.Error

/-! # Links to a device

A link reports whether a device is reachable, takes one line of text at a time, and may
wait for the device to acknowledge the last command. Two links are provided: a scripted
in-memory link, whose connectivity, send failures and acknowledgements are set up in
advance, and a writer link that collects every line as text and never fails. Each
operation returns the link's next state along with its outcome.
-/

namespace BlockProgram

/-- A link to a device. -/
class Link (τ : Type) where
  /-- Whether a device is reachable. -/
  isConnected : τ → Bool
  /-- Sends one line. -/
  send : String → τ → Except Error Unit × τ
  /-- Waits for the device's acknowledgement, with a time limit in milliseconds. -/
  awaitOk : Nat → τ → Except Error Unit × τ

/-- A scripted link kept in memory: it records every accepted line. -/
structure MemoryLink where
  /-- Whether a device is reachable. -/
  connected : Bool := true
  /-- How many of the next sends, made while connected, fail. -/
  failuresLeft : Nat := 0
  /-- How many more waits for an acknowledgement succeed; `none` for all of them. -/
  acksLeft : Option Nat := none
  /-- The lines accepted so far, in order. -/
  sent : List String := []
  deriving Inhabited

namespace MemoryLink

/-- Sends a line: refused when disconnected, failing while failures are scripted, and
recorded otherwise. -/
def send (line : String) (l : MemoryLink) : Except Error Unit × MemoryLink :=
  if !l.connected then (.error .notConnected, l)
  else if l.failuresLeft > 0 then
    (.error (.transport "simulated send failure"), { l with failuresLeft := l.failuresLeft - 1 })
  else (.ok (), { l with sent := l.sent ++ [line] })

/-- Waits for an acknowledgement: succeeds while acknowledgements are left, and times
out once they run out. -/
def awaitOk (ms : Nat) (l : MemoryLink) : Except Error Unit × MemoryLink :=
  match l.acksLeft with
  | none => (.ok (), l)
  | some 0 => (.error (.ackTimeout ms), l)
  | some (n + 1) => (.ok (), { l with acksLeft := some n })

end MemoryLink

instance : Link MemoryLink where
  isConnected l := l.connected
  send := MemoryLink.send
  awaitOk := MemoryLink.awaitOk

/-- A link that writes each line, ended by a newline, to a text. It is always connected
and never fails. -/
structure WriterLink where
  /-- Everything written so far. -/
  written : String := ""
  deriving Inhabited

instance : Link WriterLink where
  isConnected _ := true
  send line l := (.ok (), { l with written := l.written ++ line ++ "\n" })
  awaitOk _ l := (.ok (), l)

end BlockProgram
