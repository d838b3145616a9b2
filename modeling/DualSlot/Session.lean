import DualSlot.Slots

/-!
Sessions. While a session holds the lock of the store no other begins, and it gives the lock back
whatever comes of it.
-/

namespace DualSlot.Session

def begin : Task Failure Guard := .of .ofSession (Slots.ask .lock)

/-- The session that holds the lock is over after the task. -/
def during (held : Guard) (task : Task ε α) : Task ε α :=
  task.followedBy (Slots.ask (.unlock held))

/-- A task in a session of its own. -/
def alone (task : Task Failure α) : Task Failure α := do
  let held ← begin
  during held task

end DualSlot.Session
