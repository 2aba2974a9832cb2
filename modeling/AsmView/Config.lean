/-
# Settings

The numbers that tune the listing, with their limits, and how they are taken from
named variables.  A variable that is blank counts as unset; the first variable that
is malformed or out of range is reported.
-/
import AsmView.Decimal.Parse
import AsmView.Decimal.Shortest
import AsmView.Text.Blank

namespace AsmView

open Text

/-- Why settings are refused. -/
inductive ConfigFault where
  | invalidVariable (name value : String)
  | outOfRange (name expected value : String)
deriving DecidableEq, Repr

def ConfigFault.message : ConfigFault → String
  | .invalidVariable name value => s!"invalid env {name}={value}"
  | .outOfRange name expected value => s!"{name} must be {expected}, got {value}"

structure Config where
  /-- How many instructions one batch asks for; at least 2, since the first line of
  a further batch repeats the last line shown. -/
  batchSize : Nat := 200
  /-- How many further batches one operation may fetch. -/
  passCap : Nat := 10
  /-- The share of the window's height at which the end counts as near. -/
  threshold : Float := 0.5
  /-- How many instructions a jump preview asks for. -/
  previewLines : Nat := 24
  /-- How many places are remembered for going back. -/
  historyLimit : Nat := 64
  /-- Where page templates are kept, unless they are built in. -/
  templateDir : Option String := none

namespace Config

def setBatchSize (c : Config) (n : Nat) : Except ConfigFault Config :=
  if n < 2 then .error (.outOfRange "batch size" "at least 2" (decimalText n))
  else .ok { c with batchSize := n }

def setPassCap (c : Config) (n : Nat) : Except ConfigFault Config :=
  if n = 0 then .error (.outOfRange "pass cap" "at least 1" (decimalText n))
  else .ok { c with passCap := n }

def setThreshold (c : Config) (f : Float) : Except ConfigFault Config :=
  if f > 0 && f ≤ 1 then .ok { c with threshold := f }
  else .error (.outOfRange "scroll threshold" "in (0, 1]" (Decimal.plain f))

def setPreviewLines (c : Config) (n : Nat) : Except ConfigFault Config :=
  if n = 0 then .error (.outOfRange "preview lines" "at least 1" (decimalText n))
  else .ok { c with previewLines := n }

/-- The settings with one of them replaced, if it is given. -/
def replace {α : Type} (value? : Option α) (apply : Config → α → Except ConfigFault Config)
    (c : Config) : Except ConfigFault Config :=
  match value? with
  | some value => apply c value
  | none => .ok c

/-- The default settings with the given ones in their places, checked in this order. -/
def ofGiven (batchSize? passCap? : Option Nat) (threshold? : Option Float)
    (previewLines? historyLimit? : Option Nat) : Except ConfigFault Config := do
  let c ← replace batchSize? setBatchSize {}
  let c ← replace passCap? setPassCap c
  let c ← replace threshold? setThreshold c
  let c ← replace previewLines? setPreviewLines c
  .ok { c with historyLimit := historyLimit?.getD c.historyLimit }

/-- What a named variable holds. -/
inductive Variable where
  | unset
  | notText
  | text (value : String)

/-- The trimmed value of a variable, unless it is unset or blank. -/
def read? (lookup : String → Variable) (name : String) : Except ConfigFault (Option String) :=
  match lookup name with
  | .unset => .ok none
  | .notText => .error (.invalidVariable name "<non-unicode>")
  | .text value => .ok (if isBlankText value then none else some (trim value))

def count (name value : String) : Except ConfigFault Nat :=
  match readCount UInt64.size value.toList with
  | .ok n => .ok n
  | .error f => .error (.invalidVariable name s!"{value} ({f.message})")

def number (name value : String) : Except ConfigFault Float :=
  match Decimal.parse? value.toList with
  | some f => .ok f
  | none => .error (.invalidVariable name s!"{value} (invalid float literal)")

/-- Applies one variable, if it is set. -/
def override (lookup : String → Variable) (name : String)
    (apply : Config → String → Except ConfigFault Config) (c : Config) :
    Except ConfigFault Config := do
  replace (← read? lookup name) apply c

/-- The default settings as overridden by the named variables. -/
def ofVariables (lookup : String → Variable) : Except ConfigFault Config := do
  let c : Config := {}
  let c ← override lookup "DISVIEW_BATCH_SIZE"
    (fun c v => do c.setBatchSize (← count "DISVIEW_BATCH_SIZE" v)) c
  let c ← override lookup "DISVIEW_PASS_CAP"
    (fun c v => do c.setPassCap (← count "DISVIEW_PASS_CAP" v)) c
  let c ← override lookup "DISVIEW_SCROLL_THRESHOLD"
    (fun c v => do c.setThreshold (← number "DISVIEW_SCROLL_THRESHOLD" v)) c
  let c ← override lookup "DISVIEW_PREVIEW_LINES"
    (fun c v => do c.setPreviewLines (← count "DISVIEW_PREVIEW_LINES" v)) c
  override lookup "DISVIEW_TEMPLATE_DIR" (fun c v => .ok { c with templateDir := some v }) c

end Config

end AsmView
