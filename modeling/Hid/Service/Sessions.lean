/-!
The sessions of a service. They are counted and told apart; requests are answered
whether their session is open or not.
-/

namespace Hid.Service

/-- The numbers of the open sessions, and how many there have been. -/
structure Sessions where
  active : List Nat
  opened : Nat
  deriving DecidableEq, Repr

namespace Sessions

def initial : Sessions := ⟨[], 0⟩

/-- Opens a session and says its number, which no other session has or had. -/
def openNext (s : Sessions) : Nat × Sessions := (s.opened, ⟨s.opened :: s.active, s.opened + 1⟩)

/-- Closes a session and says whether it was open. -/
def close (s : Sessions) (session : Nat) : Bool × Sessions :=
  (s.active.contains session, { s with active := s.active.filter (· != session) })

def count (s : Sessions) : Nat := s.active.length

end Sessions
end Hid.Service
