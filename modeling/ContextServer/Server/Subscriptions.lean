import ContextServer.Dict

/-!
# Subscriptions

Which sessions want to know when a resource changes. For every URI the table
keeps the names of its subscribers; a URI with none is not in the table.

* `holds_add`, `holds_remove`: who is subscribed to what after a subscription and
  after its end.
-/

namespace ContextServer

/-- The subscribers of every URI. -/
structure Subscriptions where
  /-- The names of the subscribed sessions under each URI. -/
  table : Dict (Dict Unit) := ∅

namespace Subscriptions

/-- The subscribers of a URI. -/
def subscribers (t : Subscriptions) (uri : String) : Dict Unit := (t.table.get? uri).getD ∅

/-- The session is subscribed to the URI. -/
def holds (t : Subscriptions) (uri session : String) : Bool := (t.subscribers uri).contains session

/-- The table with other subscribers of a URI. -/
def put (t : Subscriptions) (uri : String) (subscribers : Dict Unit) : Subscriptions :=
  { table := if subscribers.isEmpty then t.table.erase uri else t.table.insert uri subscribers }

/-- A session subscribes to a URI. -/
def add (t : Subscriptions) (uri session : String) : Subscriptions :=
  t.put uri ((t.subscribers uri).insert session ())

/-- A session is no longer subscribed to a URI. -/
def remove (t : Subscriptions) (uri session : String) : Subscriptions :=
  t.put uri ((t.subscribers uri).erase session)

/-- A session is no longer subscribed to anything. -/
def forget (t : Subscriptions) (session : String) : Subscriptions :=
  t.table.keys.foldl (fun t uri => t.remove uri session) t

/-- Of the subscribers of a URI only those that pass a test are kept. -/
def keep (t : Subscriptions) (uri : String) (test : String → Bool) : Subscriptions :=
  t.put uri ((t.subscribers uri).filter fun session _ => test session)

theorem subscribers_put (t : Subscriptions) (uri uri' : String) (subscribers : Dict Unit) :
    (t.put uri subscribers).subscribers uri' =
      if uri = uri' then subscribers else t.subscribers uri' := by
  unfold put Subscriptions.subscribers
  by_cases he : subscribers.isEmpty = true
  · rw [if_pos he]
    by_cases h : uri = uri' <;> simp [h, Dict.isEmpty_iff.1 he]
  · by_cases h : uri = uri' <;> simp [he, h]

theorem holds_add (t : Subscriptions) (uri uri' session session' : String) :
    (t.add uri session).holds uri' session' =
      (decide (uri = uri' ∧ session = session') || t.holds uri' session') := by
  by_cases h : uri = uri' <;> simp [holds, add, subscribers_put, h]

theorem holds_remove (t : Subscriptions) (uri uri' session session' : String) :
    (t.remove uri session).holds uri' session' =
      (!decide (uri = uri' ∧ session = session') && t.holds uri' session') := by
  by_cases h : uri = uri' <;> simp [holds, remove, subscribers_put, h]

end Subscriptions

end ContextServer
