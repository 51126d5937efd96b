/-
`TableTest.Session.Procedure` — what is done in a session, one thing after the other

A procedure reads and changes a session and may fail on the way.  A failure ends it where it
stands: what has been changed before stays changed.
-/
import TableTest.Handle
import TableTest.Session

namespace TableTest.Session

/-- Something that is done in a session: its result, and the session it leaves. -/
def Procedure (α : Type) := Session → Answer Session α

namespace Procedure

variable {α β : Type}

/-- Reads the session, which may fail and changes nothing. -/
def reading (f : Session → Except Failure α) : Procedure α :=
  fun s => (f s, s)

def refuse (command reason : String) : Procedure α :=
  reading fun _ => Session.refuse command reason

def change (f : Session → Session) : Procedure Unit :=
  fun s => (.ok (), f s)

/-- Goes on with the result of a procedure, unless it failed. -/
def andThen (p : Procedure α) (next : α → Procedure β) : Procedure β := fun s =>
  match p s with
  | (.ok a, s) => next a s
  | (.error e, s) => (.error e, s)

instance : Monad Procedure where
  pure a := reading fun _ => .ok a
  bind := andThen

/-- Tells the failure of a procedure otherwise. -/
def mapError (tell : Failure → Failure) (p : Procedure α) : Procedure α := fun s =>
  ((p s).1.mapError tell, (p s).2)

end Procedure

end TableTest.Session
