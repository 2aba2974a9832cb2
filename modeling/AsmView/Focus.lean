/-
# Focus

The focus is the address of the line under the cursor and the function that owns it.
Tracking a line tells whether the function changed, which decides how much has to be
shown anew; it changes the focus only when every question it asks is answered.
-/
import AsmView.Analyzer
import AsmView.Line

namespace AsmView

structure Focus where
  address : Option Address := none
  function : String := ""
deriving DecidableEq, Repr

/-- A resolved focus and the line it was resolved from. -/
structure FocusEvent where
  address : Address
  function : String
  line : String
deriving DecidableEq, Repr

/-- What tracking a line found. -/
inductive FocusFinding where
  /-- The line has no address. -/
  | ignored
  | sameFunction (event : FocusEvent)
  | functionChanged (event : FocusEvent)
deriving DecidableEq, Repr

def FocusFinding.event? : FocusFinding → Option FocusEvent
  | .ignored => none
  | .sameFunction e => some e
  | .functionChanged e => some e

/-- The focus, and whether the next one counts as a change of function in any
case. -/
structure FocusWatch where
  focus : Focus := {}
  stale : Bool := false
deriving DecidableEq, Repr

namespace FocusWatch

/-- The next resolved focus counts as a change of function. -/
def markStale (t : FocusWatch) : FocusWatch :=
  { t with stale := true }

/-- Takes over a resolved focus. -/
def settle (t : FocusWatch) (e : FocusEvent) : FocusFinding × FocusWatch :=
  if !t.stale && t.focus.function = e.function then
    (.sameFunction e, { t with focus := { t.focus with address := some e.address } })
  else (.functionChanged e, ⟨⟨some e.address, e.function⟩, false⟩)

/-- Asks for the owner of an address, with the current address moved there. -/
def ownerAt {σ : Type} [Analyzer σ] (a : Address) : Query σ String := do
  Analyzer.reposition a
  Analyzer.functionNameAt a

def observe {σ : Type} [Analyzer σ] (t : FocusWatch) (line? : Option String) (engine : σ) :
    Except EngineFault FocusFinding × FocusWatch × σ :=
  match line? with
  | none => (.ok .ignored, t, engine)
  | some line =>
    match lineAddress? line with
    | none => (.ok .ignored, t, engine)
    | some a =>
      match (ownerAt a).ask engine with
      | (.error e, engine) => (.error e, t, engine)
      | (.ok function, engine) =>
        let (outcome, t) := t.settle ⟨a, function, line⟩
        (.ok outcome, t, engine)

end FocusWatch

end AsmView
