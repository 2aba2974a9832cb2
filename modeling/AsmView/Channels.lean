/-
# Notification channels

Scroll and cursor notifications arrive over two channels.  A channel is detached as
long as anything holds it, and what is raised on it meanwhile is dropped.  Holds
nest: a channel is attached again when its last hold is released.
-/

namespace AsmView

inductive Channel where
  | scroll
  | cursor
deriving DecidableEq, Repr

def Channel.name : Channel → String
  | .scroll => "scroll"
  | .cursor => "cursor"

def Channel.all : List Channel := [.scroll, .cursor]

def Channel.named? (s : String) : Option Channel :=
  all.find? (·.name = s)

/-- How often each channel is held, and how often channels were detached and
attached again so far. -/
structure Channels where
  scrollHolds : Nat := 0
  cursorHolds : Nat := 0
  detaches : Nat := 0
  reattaches : Nat := 0
deriving DecidableEq, Repr

namespace Channels

/-- The most holds that are counted on one channel. -/
def maxHolds : Nat := UInt32.size - 1

def holds (cs : Channels) : Channel → Nat
  | .scroll => cs.scrollHolds
  | .cursor => cs.cursorHolds

def setHolds (cs : Channels) (c : Channel) (n : Nat) : Channels :=
  match c with
  | .scroll => { cs with scrollHolds := n }
  | .cursor => { cs with cursorHolds := n }

/-- Nothing holds the channel. -/
def isAttached (cs : Channels) (c : Channel) : Bool :=
  cs.holds c == 0

/-- Nothing holds either channel. -/
def allAttached (cs : Channels) : Bool :=
  Channel.all.all cs.isAttached

def hold (cs : Channels) (c : Channel) : Channels :=
  let n := cs.holds c
  let cs := if n = 0 then { cs with detaches := cs.detaches + 1 } else cs
  cs.setHolds c (min (n + 1) maxHolds)

def letGo (cs : Channels) (c : Channel) : Channels :=
  match cs.holds c with
  -- a guard may outlive an `attach`, which has taken its hold away
  | 0 => cs
  | 1 => { cs.setHolds c 0 with reattaches := cs.reattaches + 1 }
  | n + 1 => cs.setHolds c n

/-- The channels one hold takes: each named channel once. -/
def heldBy (named : List Channel) : List Channel :=
  named.eraseDups

/-- Takes a hold on the named channels. -/
def holdEach (cs : Channels) (named : List Channel) : Channels :=
  (heldBy named).foldl hold cs

/-- Releases a hold on the named channels, in the opposite order. -/
def releaseEach (cs : Channels) (named : List Channel) : Channels :=
  (heldBy named).foldr (fun c cs => cs.letGo c) cs

/-- Attaches a channel whatever holds it. -/
def attach (cs : Channels) (c : Channel) : Channels :=
  if cs.isAttached c then cs else { cs.setHolds c 0 with reattaches := cs.reattaches + 1 }

def attachAll (cs : Channels) : Channels :=
  Channel.all.foldl attach cs

end Channels

end AsmView
