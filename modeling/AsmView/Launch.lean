/-
# Starting up

What happens between the command line and the first frame: the options are read, the log
file is made, and then either the sample image is written out, or an image is loaded and
the settings and the theme are put together.  The first failure ends it.
-/
import AsmView.Config
import AsmView.Image.Sample
import AsmView.Image.Store
import AsmView.Options
import AsmView.Screen.Theme

namespace AsmView

/-- Everything that is known when the application starts. -/
structure Setup where
  image : Image
  config : Config
  theme : Theme
  /-- Where other programs reach the tools, unless they are not to. -/
  endpoint? : Option Nat

/-- How starting up ends. -/
inductive Outcome where
  | usage
  | finished
  | failed (message : String)
  | ready (setup : Setup)

namespace Outcome

def code : Outcome → Nat
  | .usage => 2
  | .failed _ => 1
  | .finished | .ready _ => 0

/-- What is reported. -/
def report : Outcome → String
  | .usage => Options.usage "disview"
  | .failed m => s!"disview: {m}\n"
  | .finished | .ready _ => ""

end Outcome

namespace Launch

variable {m : Type → Type} [Monad m] [Disk m]

/-- A part of the start whose failure is reported as it is. -/
def report {m : Type → Type} [Monad m] {ε α : Type} (message : ε → String)
    (step : ExceptT ε m α) : ExceptT String m α :=
  ExceptT.adapt message step

/-- The image that the options ask for. -/
def image (o : Options) : ExceptT String m Image :=
  match o.program? with
  | some path => report StoreFault.message (Image.load path)
  | none => pure Image.Sample.image

/-- The settings that the variables and the options ask for. -/
def config (lookup : String → Config.Variable) (o : Options) : Except ConfigFault Config := do
  let c ← Config.ofVariables lookup
  .ok (match o.templates? with
    | some dir => { c with templateDir := some dir }
    | none => c)

/-- Makes the log file that the options ask for. -/
def openLog (o : Options) : ExceptT String m Unit :=
  match o.logFile? with
  | some path => report IoFault.message (Disk.create path)
  | none => pure ()

/-- Puts together what the application starts with. -/
def prepare (lookup : String → Config.Variable) (o : Options) : ExceptT String m Setup := do
  let image ← image o
  let config ← report ConfigFault.message (ExceptT.mk (pure (config lookup o)))
  let theme ← report ConfigFault.message
    (ExceptT.mk (pure (Theme.ofVariable (lookup Theme.variableName))))
  let endpoint? :=
    if o.noServer then none else some (o.endpoint?.getD Options.defaultEndpoint)
  pure { image, config, theme, endpoint? }

def begin_ (lookup : String → Config.Variable) (o : Options) : ExceptT String m Outcome := do
  openLog o
  match o.dumpDemo? with
  | some path => do
    report StoreFault.message (Image.save path Image.Sample.image)
    pure .finished
  | none => do pure (.ready (← prepare lookup o))

/-- Starts up with the words of a command line. -/
def run (lookup : String → Config.Variable) (words : List String) : m Outcome := do
  match Options.read? words with
  | none => pure .usage
  | some o =>
    match ← (begin_ lookup o).run with
    | .ok outcome => pure outcome
    | .error message => pure (.failed message)

end Launch

end AsmView
