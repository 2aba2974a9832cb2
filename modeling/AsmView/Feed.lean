/-
# Feeding the listing

The listing together with what feeds it: the analyzer, the pager and the
notification channels.  A pass fetches one batch at the address of the last line and
appends what stands behind the batch's first line, which repeats that line.  Passes
are repeated up to a cap, so an analyzer that always has a little more cannot keep
them going.
-/
import AsmView.Analyzer
import AsmView.Channels
import AsmView.Pager

namespace AsmView

open Text

/-- The listing with its analyzer, channels and pager. -/
structure Feed (σ : Type) where
  engine : σ
  listing : Listing
  channels : Channels := {}
  pager : Pager
  /-- A comparison has overflowed, and the program has stopped.  What the rest of a session
  says from then on is seen by nobody. -/
  halted : Bool := false

inductive PassResult where
  | notNearEnd
  /-- Whether the end is near could not be computed. -/
  | overflow
  | appended (lines : Nat)
  /-- The last line has no address to go on from. -/
  | invalidBoundary
  /-- The batch had nothing new behind its first line. -/
  | exhausted
deriving DecidableEq, Repr

/-- Why passes ended. -/
inductive PagingEnd where
  | notNearEnd
  | overflow
  | invalidBoundary
  | exhausted
  | passCap
deriving DecidableEq, Repr

/-- What a row of passes did. -/
structure PageReport where
  passes : Nat := 0
  fetches : Nat := 0
  appended : Nat := 0
  stop : PagingEnd := .passCap
deriving DecidableEq, Repr

namespace Feed

variable {σ : Type} [Analyzer σ]

def ask {σ α : Type} (f : Feed σ) (q : Query σ α) : Except EngineFault α × Feed σ :=
  let (answer, engine) := q.ask f.engine
  (answer, { f with engine })

/-- Appends what stands behind the first line of a batch, unless that is blank or
was appended just before. -/
def takeBatch {σ : Type} (f : Feed σ) (batch : String) : PassResult × Feed σ :=
  let rest := afterFirstLine batch.toList
  let remainder := String.ofList rest
  -- An analyzer that gives its last batch again and again would otherwise never be at an end.
  if allBlank rest || f.pager.remainder? = some remainder then (.exhausted, f)
  else
    let fresh := (lines rest).map String.ofList
    (.appended fresh.length,
      { f with
        listing := f.listing.append fresh
        pager := { f.pager with phase := .appending, remainder? := some remainder } })

/-- Fetches a batch at the address of the last line. -/
def fetch (f : Feed σ) : Except EngineFault PassResult × Feed σ :=
  match f.listing.lastAddress? with
  | none => (.ok .invalidBoundary, f)
  | some boundary =>
    match f.ask (Analyzer.reposition boundary) with
    | (.error e, f) => (.error e, f)
    | (.ok _, f) =>
      match f.ask (Analyzer.disassemble f.pager.batchSize) with
      | (.error e, f) => (.error e, f)
      | (.ok batch, f) =>
        let f := { f with pager := { f.pager with fetches := f.pager.fetches + 1 } }
        let (outcome, f) := f.takeBatch batch
        (.ok outcome, f)

/-- One pass: nothing when the end is not near, else a fetch with the scroll channel
held. -/
def pass (f : Feed σ) : Except EngineFault PassResult × Feed σ :=
  match f.pager.endIsNear? f.listing with
  | none => (.ok .overflow, { f with halted := true })
  | some false => (.ok .notNearEnd, f)
  | some true =>
    let f := { f with
      pager := { f.pager with phase := .fetching }
      channels := f.channels.holdEach [.scroll] }
    let (outcome, f) := f.fetch
    (outcome, { f with
      channels := f.channels.releaseEach [.scroll]
      pager := { f.pager with phase := .idle } })

/-- What a pass leads to: `further` passes when it appended, else the end of them. -/
def afterPass {σ : Type} (further : PageReport → Feed σ → Except EngineFault PageReport × Feed σ)
    (report : PageReport) :
    Except EngineFault PassResult × Feed σ → Except EngineFault PageReport × Feed σ
  | (.error e, f) => (.error e, f)
  | (.ok (.appended k), f) =>
    further { report with fetches := report.fetches + 1, appended := report.appended + k } f
  | (.ok .notNearEnd, f) => (.ok { report with stop := .notNearEnd }, f)
  | (.ok .overflow, f) => (.ok { report with stop := .overflow }, f)
  | (.ok .invalidBoundary, f) => (.ok { report with stop := .invalidBoundary }, f)
  | (.ok .exhausted, f) =>
    (.ok { report with fetches := report.fetches + 1, stop := .exhausted }, f)

/-- At most the given number of further passes, each of which must append. -/
def extendFrom : Nat → PageReport → Feed σ → Except EngineFault PageReport × Feed σ
  | 0, report, f => (.ok report, f)
  | n + 1, report, f =>
    afterPass (extendFrom n) { report with passes := report.passes + 1 } f.pass

/-- Passes until one does not append or the cap is reached. -/
def extend (f : Feed σ) : Except EngineFault PageReport × Feed σ :=
  extendFrom f.pager.passCap {} f

end Feed

end AsmView
