/-
# Reloading

A reload replaces the text at the pending navigation, or at the current anchor when
there is none; then cursor and scroll position are kept as far as the text grows back
to them.  While the text is replaced both channels are held, so nothing that is raised
meanwhile is delivered; one focus pass afterwards brings the panels up to date.  When the
analyzer refuses the place or the first batch, the text stays as it was.
-/
import AsmView.Session

namespace AsmView

namespace Session

variable {σ : Type} [Analyzer σ]

/-- Extends the text because of scrolling. -/
def extendText (s : Session σ) : Session σ :=
  let (result, feed) := s.toFeed.extend
  let s := { s with toFeed := feed }
  match result with
  | .ok _ => s
  | .error f => s.announce s!"cannot load more disassembly: {f.message}"

/-- Delivers a notification, unless its channel is held. -/
def raise (s : Session σ) (channel : Channel) : Session σ :=
  if s.channels.isAttached channel then
    let s := { s with stats := { s.stats with delivered := s.stats.delivered + 1 } }
    match channel with
    | .scroll => s.extendText
    | .cursor => s.updateFocus
  else { s with stats := { s.stats with suppressed := s.stats.suppressed + 1 } }

/-- Scrolls, and notifies when the position changed. -/
def setTop (s : Session σ) (top : Nat) : Session σ :=
  let listing := s.listing.setTop top
  if listing.top = s.listing.top then s else { s with listing }.raise .scroll

/-- Moves the cursor, and notifies when it moved. -/
def setCursor (s : Session σ) (c : Cursor) : Session σ :=
  let listing := s.listing.setCursor c
  if listing.cursor = s.listing.cursor then s else { s with listing }.raise .cursor

/-- What a pass behind a new text leads to.  The scroll position is put back, so that the
text can grow back to where the user was; the next pass follows when this one appended. -/
def afterPass (target : Address) (top : Nat) (next : Session σ → Session σ) (s : Session σ) :
    Except EngineFault PassResult × Feed σ → Session σ
  | (.error f, feed) =>
    { s with toFeed := feed }.announce
      s!"cannot load more disassembly at {target}: {f.message}"
  | (.ok (.appended _), feed) => next ({ s with toFeed := feed }.setTop top)
  | (.ok _, feed) => { s with toFeed := feed }.setTop top

/-- At most the given number of passes behind a new text. -/
def prefill (target : Address) (top : Nat) : Nat → Session σ → Session σ
  | 0, s => s
  | n + 1, s => s.afterPass target top (prefill target top n) s.toFeed.pass

/-- The lines of a first batch, from the first one that has an address. -/
def addressedLines (batch : String) : List String :=
  (Text.linesOf batch).dropWhile fun line => (lineAddress? line).isNone

/-- Puts the text of a first batch in place and brings the listing back to a cursor
and a scroll position. -/
def install (s : Session σ) (target : Address) (batch : String) (cursor : Cursor) (top : Nat) :
    Session σ :=
  let lines := addressedLines batch
  let anchor := lines.head?.bind lineAddress?
  let s := { s with
    pager := s.pager.reset
    listing := s.listing.replace (anchor.or (some target)) lines }
  -- Both channels are held, so this and what follows only counts as suppressed.
  let s := (s.raise .scroll).setTop top
  let s := (prefill target top s.config.passCap s).setCursor cursor
  let s := { s with stats := { s.stats with refreshes := s.stats.refreshes + 1 } }
  s.emit (.refreshed s.listing.anchor s.listing.count)

/-- Replaces the text by what stands at a place. -/
def replaceText (s : Session σ) (target : Address) (keepPlace : Bool) :
    Except EngineFault Unit × Session σ :=
  match s.ask (Analyzer.reposition target) with
  | (.error f, feed) => (.error f, { s with toFeed := feed })
  | (.ok _, feed) =>
    let s := { s with toFeed := feed }
    match s.ask (Analyzer.disassemble s.config.batchSize) with
    | (.error f, feed) => (.error f, { s with toFeed := feed })
    | (.ok batch, feed) =>
      let s := { s with toFeed := feed }
      let (cursor, top) := if keepPlace then (s.listing.cursor, s.listing.top) else ({}, 0)
      (.ok (), s.install target batch cursor top)

/-- Reloads, and tells whether the text was replaced. -/
def reload (s : Session σ) : Session σ × Bool :=
  let pending? := s.pending?
  let s := { s with pending? := none }
  match pending?.or s.listing.anchor with
  | none => (s, false)
  | some target =>
    let s := { s with channels := s.channels.holdEach Channel.all }
    let (result, s) := s.replaceText target pending?.isNone
    let (s, loaded) := match result with
      | .ok _ => (s, true)
      | .error f => (s.announce s!"cannot load disassembly at {target}: {f.message}", false)
    let s := { s with channels := s.channels.releaseEach Channel.all }
    -- what was told of the old text is news again of the new one
    let s := if loaded then { s with lastNotice? := none } else s
    -- holds that were leaked end here, or nothing would ever follow the cursor again
    let s := { s with channels := s.channels.attachAll }
    (s.updateFocus, loaded)

end Session

end AsmView
