import AgentBundles.Build.Run
import AgentBundles.Command.Arguments
import AgentBundles.Files.Path

/-!
# Commands

What the program can be asked to do: compile stacks into bundles, validate bundles, and publish the
catalog index.

A command ends with a code and what it prints. A fault that someone can mend in the inputs is
printed and gives the code one; other faults end the program. Before a command is carried out on
files outside, those that it can look at have to be known: first the settings or the bundles that
its arguments name, and then what the settings name.
-/

namespace AgentBundles

/-! ### Commands -/

/-- A command. -/
inductive Command where
  | compile (settings : FilePath) (stackIds : List String) (bump : Option String)
  | validate (paths : List FilePath)
  | publish (settings : FilePath)
  deriving DecidableEq, Repr

namespace Command

/-- The name of the program. -/
def program : String := "skillbundle"

/-- The option for the path of the settings. -/
def settingsOption : CommandOption := ⟨["--config"], true, true, []⟩

/-- The option for a stack, which may be repeated. -/
def stackOption : CommandOption := ⟨["--stack"], true, false, []⟩

/-- The option for the part of the version that is raised. -/
def bumpOption : CommandOption := ⟨["--bump"], true, false, ["major", "minor", "patch"]⟩

/-- The names of the commands. -/
def names : List String := ["compile", "validate", "publish"]

/-- The arguments of the program. -/
def grammar : CommandGrammar :=
  ⟨program, [helpOption, ⟨["-v", "--verbose"], false, false, []⟩], .command "command" names⟩

/-- The arguments of a command. -/
def grammarOf (name : String) : CommandGrammar :=
  match name with
  | "compile" => ⟨program ++ " compile", [helpOption, settingsOption, stackOption, bumpOption],
      .none⟩
  | "validate" => ⟨program ++ " validate", [helpOption], .many "paths"⟩
  | name => ⟨program ++ " " ++ name, [helpOption, settingsOption], .none⟩

/-- The values of an option, in the order in which they were given. -/
def valuesOf (p : CommandGrammar.Progress) (o : CommandOption) : List String :=
  (p.given.filter fun n => n.1 == o.key).map (·.2)

/-- The path of the settings, which is the last one given. -/
def settingsPath (p : CommandGrammar.Progress) : FilePath :=
  .ofText ((valuesOf p settingsOption).getLastD "")

/-- The command with a name and the arguments read for it. -/
def ofProgress (name : String) (p : CommandGrammar.Progress) : Command :=
  match name with
  | "compile" => .compile (settingsPath p) (valuesOf p stackOption) (valuesOf p bumpOption).getLast?
  | "validate" => .validate (p.operands.map .ofText)
  | _ => .publish (settingsPath p)

/-- The command that arguments ask for. -/
def ofArguments (arguments : List String) : Except UsageStop Command := do
  let top ← grammar.read arguments
  let name := top.operands.headD ""
  let p ← (grammarOf name).read top.operands.tail
  match top.unknown ++ p.unknown with
  | [] => return ofProgress name p
  | unknown => throw (.fault program (.unrecognized unknown))

end Command

/-! ### Outcomes -/

/-- How a command ends: the code, and the texts on standard output and standard error. -/
structure Outcome where
  code : Nat
  out : String
  err : String
  deriving DecidableEq, Repr

/-- The outcome of a command that does what it should. -/
def Outcome.done (out : String) : Outcome := ⟨0, out, ""⟩

/-- The outcome of a command with a fault. -/
def Outcome.failed (message : String) : Outcome := ⟨1, "", "Error: " ++ message ++ "\n"⟩

/-- The outcome of arguments that are not carried out. -/
def UsageStop.outcome : UsageStop → Outcome
  | .help name => .done ("usage: " ++ name ++ " [-h] ...\n")
  | .fault name cause => ⟨2, "", name ++ ": error: " ++ cause.message ++ "\n"⟩

namespace Command

/-- A line. -/
def line (s : String) : String := s ++ "\n"

/-- The settings in a file, which has to be there. -/
def settingsIn (env : Build.Environment) (path : FilePath) (d : Disk) :
    Except Build.Fault BuildSettings := do
  if !(← (d.has path).mapError .file) then
    throw (.settings (.noFile path))
  (BuildSettings.read d env path).mapError .settings

/-- What is printed of a bundle that has been built. -/
def productLine (p : Build.Product) : String :=
  line (p.stack ++ ": " ++ p.path.text ++ " (v" ++ p.version ++ ", " ++ p.contentHash ++ ")")

/-- What is printed of a report on the bundle at a path. -/
def reportLines (path : FilePath) (r : Report) : String :=
  String.join
    (r.issues.map fun i => line (path.text ++ ": " ++ i.severity.name ++ ": " ++ i.text)) ++
    line (path.text ++ ": " ++ if r.ok then "ok" else "invalid")

/-- Carries out a command; faults end it. -/
def perform (env : Build.Environment) (web : Web) : Command → Disk.Action Build.Fault Outcome
  | .compile settings ids bump => do
    let s ← .look (settingsIn env settings)
    let products ← Build.run s web ids bump
    return .done (String.join (products.map productLine))
  | .validate paths => do
    let reports ← .look fun d => paths.mapM (Build.validatePath d)
    let code := if reports.all (·.ok) then 0 else 1
    return ⟨code, String.join ((paths.zip reports).map fun r => reportLines r.1 r.2), ""⟩
  | .publish settings => do
    let s ← .look (settingsIn env settings)
    let path ← Build.publish s
    return .done (line ("Catalog written to " ++ path.text))

/-- Carries out a command and reports the faults that someone can mend. -/
def run (env : Build.Environment) (web : Web) (c : Command) : Disk.Action Build.Fault Outcome :=
  tryCatch (perform env web c) fun f =>
    if f.kind.isReported then pure (.failed f.message) else throw f

/-- Carries out the command that arguments ask for. -/
def runArguments (env : Build.Environment) (web : Web) (arguments : List String) :
    Disk.Action Build.Fault Outcome :=
  match ofArguments arguments with
  | .ok c => run env web c
  | .error stop => pure stop.outcome

end Command

/-! ### What a command looks at -/

/-- Paths that a command looks at: some for themselves, others with everything below them. -/
structure Needs where
  single : List FilePath
  whole : List FilePath
  deriving DecidableEq, Repr

namespace Command

/-- The path of the settings of a command, if it has any. -/
def settings? : Command → Option FilePath
  | .compile settings _ _ => some settings
  | .validate _ => none
  | .publish settings => some settings

/-- What the arguments of a command name. -/
def needs : Command → Needs
  | .compile settings _ _ => ⟨[settings], []⟩
  | .validate paths => ⟨[], paths⟩
  | .publish settings => ⟨[settings], []⟩

/-- The environment variables that the settings of a command name. -/
def variableNames (c : Command) (d : Disk) : List String :=
  let document : Except SettingsFault Value := do
    let some path := c.settings? | return .null
    BuildSettings.document path (← (d.read path).mapError .file)
  match document with
  | .ok v => Build.names v
  | .error _ => []

/-- The directory of templates that settings name. -/
def templateRoot (s : BuildSettings) : List FilePath :=
  match s.templates.bind fun t => t.options.field? "root" with
  | some (.str root) => [.ofText root]
  | _ => []

/-- What the settings of a command name. -/
def furtherNeeds (c : Command) (env : Build.Environment) (d : Disk) : Needs :=
  match c.settings?.map fun path => BuildSettings.read d env path with
  | some (.ok s) =>
    ⟨(s.catalog.map (·.path)).toList, s.source :: s.output :: templateRoot s⟩
  | _ => ⟨[], []⟩

end Command

end AgentBundles
