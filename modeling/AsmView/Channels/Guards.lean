/-
# Guards

A guard holds channels under a name until it is dropped, and guards may be dropped in
any order.  A guard can also be leaked: it is gone, and what it held stays held.
-/
import AsmView.Channels

namespace AsmView

/-- The channels, and the guards that are alive: what each was asked to hold. -/
structure Guards where
  channels : Channels := {}
  live : List (String × List Channel) := []
deriving DecidableEq, Repr

namespace Guards

/-- Forgets a guard and leaves its channels held.  Tells whether there was one. -/
def leak (g : Guards) (name : String) : Guards × Bool :=
  ({ g with live := g.live.filter (·.1 ≠ name) }, (g.live.lookup name).isSome)

/-- Drops a guard.  Tells whether there was one. -/
def drop (g : Guards) (name : String) : Guards × Bool :=
  match g.live.lookup name with
  | some held => ({ (g.leak name).1 with channels := g.channels.releaseEach held }, true)
  | none => (g, false)

/-- Makes a guard.  One of the same name is dropped when the new one is there.  The
answer is the channels that are held. -/
def add (g : Guards) (name : String) (named : List Channel) : Guards × List Channel :=
  let g := ({ g with channels := g.channels.holdEach named }.drop name).1
  ({ g with live := (name, named) :: g.live }, Channels.heldBy named)

end Guards

end AsmView
