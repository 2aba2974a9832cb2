/-
# When to page

The listing grows as the user scrolls towards its end.  The pager holds the settings
of this growth, what was appended last, and how many batches were fetched, and it
tells whether the end is near.
-/
import AsmView.Listing
import AsmView.Machine

namespace AsmView

/-- Where a paging pass stands. -/
inductive PagerPhase where
  | idle
  | fetching
  | appending
deriving DecidableEq, Repr

structure Pager where
  phase : PagerPhase := .idle
  batchSize : Nat
  passCap : Nat
  threshold : Float
  /-- What the last pass appended. -/
  remainder? : Option String := none
  fetches : Nat := 0

namespace Pager

/-- A pager with the given settings: batches of at least 2, at least 1 pass. -/
def new (batchSize passCap : Nat) (threshold : Float) : Pager :=
  { batchSize := max batchSize 2, passCap := max passCap 1, threshold }

/-- Forgets what was appended last. -/
def reset (p : Pager) : Pager :=
  { p with phase := .idle, remainder? := none }

/-- How many lines before the end count as near in a window of a height: the share
of the height, rounded up, and at least one line.  More lines than a 64-bit count can
hold are as many as it can hold. -/
def nearLines (p : Pager) (height : Nat) : Nat :=
  let share := height.toUInt64.toFloat * p.threshold
  if share.isFinite && share > 0 then
    let whole := share.toUInt64
    if whole.toFloat < share then min (whole.toNat + 1) (UInt64.size - 1) else whole.toNat
  else 1

/-- The scroll position lies less than `lines` lines before the last one.  All counts are
cast to signed numbers, so the difference may overflow. -/
def isWithin? (lines : Nat) (l : Listing) : Option Bool := do
  let before ← Machine.signed? (Machine.toSigned l.maxTop - Machine.toSigned lines)
  some (before < Machine.toSigned l.top)

def endIsNear? (p : Pager) (l : Listing) : Option Bool :=
  isWithin? (p.nearLines l.height) l

end Pager

end AsmView
