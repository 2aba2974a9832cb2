/-
# Command-line options

Options may come in any order, each at most once, some with a value behind them; what
follows an option that takes a value is its value whatever it looks like.  One word that
is no option is the path of a program image.
-/
import AsmView.Text.Digits

namespace AsmView

open Text

/-- What was asked for on the command line. -/
structure Options where
  demo : Bool := false
  noServer : Bool := false
  program? : Option String := none
  endpoint? : Option Nat := none
  templates? : Option String := none
  logFile? : Option String := none
  dumpDemo? : Option String := none
deriving DecidableEq, Repr

namespace Options

/-- The endpoint numbers there are. -/
def endpointLimit : Nat := UInt16.size

/-- The endpoint of the tools when none is given. -/
def defaultEndpoint : Nat := 27435

def readEndpoint (text : String) : Option Nat :=
  (readCount endpointLimit text.toList).toOption

/-- The path of the image, which must not be given already. -/
def withProgram? (o : Options) (path : String) : Option Options :=
  if o.program?.isSome then none else some { o with program? := some path }

/-- Reads words on top of what was read before. -/
def readFrom (o : Options) : List String → Option Options
  | [] => some o
  | "--demo" :: rest => if o.demo then none else readFrom { o with demo := true } rest
  | "--no-mcp" :: rest => if o.noServer then none else readFrom { o with noServer := true } rest
  | "--program" :: path :: rest =>
    match o.withProgram? path with
    | some o => readFrom o rest
    | none => none
  | "--mcp-http-port" :: text :: rest =>
    match o.endpoint?, readEndpoint text with
    | none, some n => readFrom { o with endpoint? := some n } rest
    | _, _ => none
  | "--templates" :: dir :: rest =>
    if o.templates?.isSome then none else readFrom { o with templates? := some dir } rest
  | "--log-file" :: path :: rest =>
    if o.logFile?.isSome then none else readFrom { o with logFile? := some path } rest
  | "--dump-demo" :: path :: rest =>
    if o.dumpDemo?.isSome then none else readFrom { o with dumpDemo? := some path } rest
  | word :: rest =>
    if word.toList.head? = some '-' then none
    else match o.withProgram? word with
      | some o => readFrom o rest
      | none => none

/-- Options that contradict each other. -/
def conflicts (o : Options) : Bool :=
  (o.demo && o.program?.isSome) || (o.noServer && o.endpoint?.isSome) ||
    (o.dumpDemo?.isSome && (o.program?.isSome || o.demo))

/-- Reads the words of a command line; nothing when they make no sense. -/
def read? (words : List String) : Option Options :=
  (readFrom {} words).filter (!·.conflicts)

/-- What is shown when the words make no sense. -/
def usage (program : String) : String :=
  String.join ([
    "Usage:",
    s!"  {program} [<program.json>] [--templates <dir>] [--log-file <path>] [--mcp-http-port <port>]",
    s!"  {program} [--program <program.json>] [--no-mcp] [--templates <dir>] [--log-file <path>]",
    s!"  {program} --demo [--no-mcp] [--mcp-http-port <port>]",
    s!"  {program} --dump-demo <path>",
    "",
    "Without a program image the built-in demo program is shown.",
    "MCP is served over streamable HTTP at `http://127.0.0.1:<port>/mcp`.",
    s!"--mcp-http-port selects the port (0 = ephemeral; default {defaultEndpoint}); --no-mcp disables it.",
    "--templates overrides the chart and graph template directory.",
    "--log-file writes logs there (RUST_LOG filters, default warn).",
    "--dump-demo writes the demo program image as JSON and exits."].map (· ++ "\n"))

end Options

end AsmView
