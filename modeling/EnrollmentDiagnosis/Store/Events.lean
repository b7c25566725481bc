import EnrollmentDiagnosis.Event.Basic

set_option autoImplicit false

namespace EnrollmentDiagnosis

/-- The events that have arrived, the earliest first. -/
structure EventStore where
  events : List Event
  deriving Inhabited

namespace EventStore

def empty : EventStore := ⟨[]⟩

/-- Adds events behind those that have arrived before. -/
def add (store : EventStore) (events : List Event) : EventStore := ⟨store.events ++ events⟩

/-- The events of a session in the order of their arrival. -/
def arrivals (store : EventStore) (tenant session : String) : List Event :=
  store.events.filter fun e => e.tenant == tenant && e.session == session

/-- The events of a session in canonical order. -/
def sessionEvents (store : EventStore) (tenant session : String) : List Event :=
  Event.sort (store.arrivals tenant session)

end EventStore

end EnrollmentDiagnosis
