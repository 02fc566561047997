import Seej.Api
import Seej.Snapshot

/-!
# Persistence interfaces

The event log and the world store behind the runtime.  A mutating operation
returns the component it leaves; the outer `Option` of a log operation is `none`
where a counter overflows.  The methods that only tools call are left out.
-/

namespace Seej

open Foundation

class IEventLog (E : Type) where
  append : E -> SimEvent -> Option (SimResult SimEvent × E)
  appendBatch : E -> List SimEvent -> Option (SimResult (List SimEvent) × E)
  readFromEventId : E -> EventId -> SimResult (List SimEvent)
  readAllValid : E -> SimResult (List SimEvent)
  lastEventId : E -> EventId
  lastTick : E -> Option Tick
  truncateAfter : E -> EventId -> Option (SimResult Unit × E)
  sync : E -> SimResult Unit × E
  len : E -> Nat
  isEmpty : E -> Bool :=
    fun log => len log = 0

inductive WorldStorageStatus where
  | absent
  | complete
  | incomplete (reason : String)
deriving DecidableEq

class IWorldStore (S : Type) where
  storageStatus : S -> String -> SimResult WorldStorageStatus
  loadMeta : S -> String -> SimResult WorldMeta
  saveMeta : S -> WorldMeta -> SimResult Unit × S
  loadSnapshot : S -> String -> SimResult Bytes
  saveSnapshot : S -> String -> Bytes -> SimResult Unit × S

/-- The identifier of the last event of a list, `0` for the empty list. -/
def durableLastEventId (events : List SimEvent) : EventId :=
  (events.getLast?.map SimEvent.eventId).getD EventId.zero

end Seej
