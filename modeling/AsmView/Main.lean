/-
# The command line

Starts the application on the real disk and runs it line by line: a frame is printed, a
line is read, and it names a key or else is a row of keys, one for each character; an
empty line is the enter key.  The run ends when the application quits or the input does.
-/
import AsmView.App.Frame
import AsmView.App.Keys
import AsmView.Launch
import AsmView.Loaded

namespace AsmView

namespace Terminal

/-- The number of an error, which some steps give negated. -/
def magnitude (code : UInt32) : UInt32 :=
  min code (0 - code)

/-- Why a step on the real disk failed. -/
def faultOf : IO.Error → IoFault
  | .noFileOrDirectory .. => .notFound
  | .permissionDenied .. => .denied
  | .alreadyExists .. => .alreadyExists
  | .resourceBusy .. => .busy
  | .resourceExhausted .. => .full
  | e@(.inappropriateType _ code _) | e@(.invalidArgument _ code _) =>
    match magnitude code with
    | 20 => .notDirectory
    | 21 => .isDirectory
    | 36 => .nameTooLong
    | _ => .other (toString e)
  | e => .other (toString e)

/-- A step on the real disk. -/
def step {α : Type} (act : IO α) : ExceptT IoFault IO α :=
  ExceptT.mk do
    try
      let a ← act
      pure (.ok a)
    catch e => pure (.error (faultOf e))

instance : Disk IO where
  read path := step (IO.FS.readBinFile path)
  create path := step (IO.FS.writeFile path "")
  createNew path := step do
    let _ ← IO.FS.Handle.mk path .writeNew
  write path text := step (IO.FS.writeFile path text)
  sync path := step do
    let file ← IO.FS.Handle.mk path .append
    file.flush
  rename path target := step (IO.FS.rename path target)
  remove path := step (IO.FS.removeFile path)
  makeDirectory path := step (IO.FS.createDir path)
  isDirectory path := do
    -- A directory holds itself under the name of a dot, and nothing else does.
    match ← (step (IO.FS.createDir (joinPath path "."))).run with
    | .error .alreadyExists => pure true
    | _ => pure false
  stamp := IO.monoNanosNow

/-- The variables of the environment that the settings may be taken from. -/
def variableNames : List String :=
  ["DISVIEW_BATCH_SIZE", "DISVIEW_PASS_CAP", "DISVIEW_SCROLL_THRESHOLD",
    "DISVIEW_PREVIEW_LINES", "DISVIEW_TEMPLATE_DIR", Theme.variableName]

/-- What the environment holds under the names of the settings. -/
def environment : IO (String → Config.Variable) := do
  let found ← variableNames.mapM fun name => do
    let value? ← IO.getEnv name
    pure (name, value?)
  pure fun name =>
    match found.lookup name with
    | some (some value) => .text value
    | _ => .unset

def keysOf (line : String) : List Key :=
  if line.isEmpty then [.enter]
  else match Key.named line with
    | .other => line.toList.map .char
    | k => [k]

def size : Nat × Nat := (100, 30)

/-- What an overflow anywhere makes of the run. -/
def stop : IO UInt32 := do
  IO.eprintln "disview: arithmetic overflow"
  pure 101

/-- Prints frames and presses the keys that are read, until the end.  Templates are read
before each line, which is as good as in each pass: nobody can tell when a key is pressed
whether an edit came just before or just after. -/
partial def run (app : App Loaded) : IO UInt32 := do
  let (app, frame?) := app.draw size.1 size.2
  let some frame := frame? | stop
  if app.hasHalted then stop
  else
    frame.rows.forM IO.println
    let line ← (← IO.getStdin).getLine
    if line.isEmpty then pure 0
    else
      let keys := keysOf (String.ofList (line.toList.filter (· ≠ '\n')))
      let templates ← TemplateStore.current app.session.config.templateDir
      let app := app.expireToast.updateSession ({ · with templates })
      let app := keys.foldl (fun app k => (app.press k).1) app
      if app.hasHalted then stop
      else if app.quit then pure 0
      else run app

end Terminal

end AsmView

/-- Starts with the words of the command line. -/
def main (args : List String) : IO UInt32 := do
  let lookup ← AsmView.Terminal.environment
  let outcome : AsmView.Outcome ← AsmView.Launch.run lookup args
  match outcome with
  | .ready s =>
    let templates ← AsmView.TemplateStore.current s.config.templateDir
    let session := AsmView.Session.new (AsmView.Loaded.load s.image) s.config templates
    AsmView.Terminal.run { session, theme := s.theme : AsmView.App AsmView.Loaded }.start
  | _ =>
    IO.eprint outcome.report
    pure outcome.code.toUInt32
