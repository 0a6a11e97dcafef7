import HeaterLink.Poller.Basic

/-!
# Runs of a poller

A poller with its registry and its clock, moved by the poller's own events, by
what the host does to the registry, and by time passing.
-/

namespace HeaterLink

structure Polling where
  poller : Poller := {}
  registry : Registry := {}
  /-- Milliseconds since the start. -/
  now : Nat := 0

namespace Polling

inductive Event where
  | poller (event : Poller.Event)
  | registry (change : Registry.Change)
  | elapse (ms : Nat)

def step (s : Polling) : Event → Polling × List Poller.Notice
  | .poller e =>
    let stepped := s.poller.step s.registry s.now e
    ({ s with poller := stepped.poller, registry := stepped.registry }, stepped.notices)
  | .registry c => ({ s with registry := s.registry.change c }, [])
  | .elapse ms => ({ s with now := s.now + ms }, [])

/-- The state after a list of events, and all that was seen on the way. -/
def run (s : Polling) : List Event → Polling × List Poller.Notice
  | [] => (s, [])
  | e :: es =>
    let first := s.step e
    let later := run first.1 es
    (later.1, first.2 ++ later.2)

@[simp] theorem run_nil (s : Polling) : s.run [] = (s, []) := rfl

theorem run_append (s : Polling) (es fs : List Event) :
    s.run (es ++ fs) =
      (((s.run es).1.run fs).1, (s.run es).2 ++ ((s.run es).1.run fs).2) := by
  induction es generalizing s with
  | nil => simp
  | cons e es ih => simp [run, ih]

end Polling

end HeaterLink
