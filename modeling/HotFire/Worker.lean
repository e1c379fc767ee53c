import HotFire.Notice

/-! Worker threads, by name. -/

namespace HotFire

structure Worker where
  name : String
  stackKb : Nat := 64
  deriving DecidableEq, Repr

def Worker.spawnedNotice (w : Worker) : Notice := .workerSpawned w.name w.stackKb

end HotFire
