import AgentBundles.Text.Quoted
import AgentBundles.Text.Split
import AgentBundles.Text.Word

/-!
# Command line arguments

A grammar says which options a program has and what else it takes. Arguments are read from left to
right: an option by its name, by the start of a long name that no other option shares, or, for short
ones, several behind one hyphen; everything that the grammar does not know is kept. After two
hyphens nothing is an option.
-/

namespace AgentBundles

/-! ### Grammars -/

/-- An option: its names, whether a value follows, whether it has to be given, and the values it may
have, if they are limited. -/
structure CommandOption where
  names : List String
  takesValue : Bool
  isRequired : Bool
  choices : List String
  deriving DecidableEq, Repr

/-- What a program takes besides options. -/
inductive Operand where
  | none
  /-- One argument or more, all in a row. -/
  | many (name : String)
  /-- One of some commands, and everything after it. -/
  | command (name : String) (choices : List String)
  deriving DecidableEq, Repr

/-- The arguments that a program takes. -/
structure CommandGrammar where
  program : String
  options : List CommandOption
  operand : Operand
  deriving DecidableEq, Repr

/-- All names of an option. -/
def CommandOption.label (o : CommandOption) : String := Text.join "/" o.names

/-- The name under which an option is kept. -/
def CommandOption.key (o : CommandOption) : String := o.names.getLastD ""

/-- The option that asks for help. -/
def helpOption : CommandOption := ⟨["-h", "--help"], false, false, []⟩

/-! ### Faults -/

/-- What is wrong with arguments. -/
inductive UsageCause where
  | ambiguous (argument : String) (names : List String)
  /-- An option without value is given one. -/
  | noValueTaken (label value : String)
  | valueMissing (label : String)
  | choice (label value : String) (choices : List String)
  | missing (labels : List String)
  | unrecognized (arguments : List String)
  deriving DecidableEq, Repr

/-- What a message says is wrong with one argument. -/
def argumentMessage (label problem : String) : String := "argument " ++ label ++ ": " ++ problem

/-- What a message says is wrong. -/
def UsageCause.message : UsageCause → String
  | .ambiguous argument names => "ambiguous option: " ++ argument ++ " could match " ++
      Text.join ", " names
  | .noValueTaken label value => argumentMessage label
      ("ignored explicit argument " ++ Text.quoted value)
  | .valueMissing label => argumentMessage label "expected one argument"
  | .choice label value choices =>
    argumentMessage label ("invalid choice: " ++ Text.quoted value ++ " (choose from " ++
      Text.join ", " (choices.map Text.quoted) ++ ")")
  | .missing labels => "the following arguments are required: " ++ Text.join ", " labels
  | .unrecognized arguments => "unrecognized arguments: " ++ Text.join " " arguments

/-- Why arguments are not carried out: help is asked for, or something is wrong with them. -/
inductive UsageStop where
  | help (program : String)
  | fault (program : String) (cause : UsageCause)
  deriving DecidableEq, Repr

/-! ### Words -/

/-- An option in an argument, with the name it is given by and what follows the name: nothing, a
value after an equals sign, or the letters of more options. -/
structure OptionUse where
  option : CommandOption
  name : String
  tail : List Char
  deriving DecidableEq, Repr

/-- What an argument is. -/
inductive CommandWord where
  | operand (text : String)
  /-- Two hyphens. -/
  | mark
  | option (text : String) (use : OptionUse)
  /-- Something like an option that the grammar does not know. -/
  | unknown (text : String)
  deriving DecidableEq, Repr

/-- The text of an argument. -/
def CommandWord.text : CommandWord → String
  | .operand s => s
  | .mark => "--"
  | .option s _ => s
  | .unknown s => s

/-- Whether characters are those of a negative number. -/
def isNegativeNumber (cs : List Char) : Bool :=
  match cs with
  | '-' :: ds =>
    let whole := ds.takeWhile Text.isDigit
    let isWhole (cs : List Char) := !cs.isEmpty && cs.all Text.isDigit
    match ds.drop whole.length with
    | '.' :: fraction => isWhole fraction
    | rest => isWhole whole && rest.isEmpty
  | _ => false

namespace CommandGrammar

variable (g : CommandGrammar)

/-- All options under all their names. -/
def namedOptions : List (String × CommandOption) :=
  g.options.flatMap fun o => o.names.map fun n => (n, o)

/-- The option with a name. -/
def option? (name : String) : Option CommandOption :=
  (g.namedOptions.find? fun n => n.1 == name).map (·.2)

/-- The part of an argument before the first equals sign, and the part from it on. -/
def cutEquals (cs : List Char) : String × List Char :=
  (String.ofList (cs.takeWhile (· != '=')), cs.dropWhile (· != '='))

/-- The options that an argument may stand for which is not the name of one. -/
def candidates (argument : String) : List OptionUse :=
  let cs := argument.toList
  if Text.startsWith argument "--" then
    let (start, tail) := cutEquals cs
    (g.namedOptions.filter fun n => Text.startsWith n.1 start).map fun n => ⟨n.2, n.1, tail⟩
  else
    g.namedOptions.filterMap fun n =>
      if n.1.toList == cs.take 2 then some ⟨n.2, n.1, cs.drop 2⟩
      else if Text.startsWith n.1 argument then some ⟨n.2, n.1, []⟩
      else none

/-- What an argument is that is neither an option by name nor two hyphens. -/
def guess (argument : String) : Except UsageCause CommandWord :=
  match g.candidates argument with
  | [use] => .ok (.option argument use)
  | [] =>
    if isNegativeNumber (Text.dropFinalBreak argument.toList) || argument.toList.contains ' ' then
      .ok (.operand argument)
    else
      .ok (.unknown argument)
  | uses => .error (.ambiguous argument (uses.map (·.name)))

/-- What an argument is. -/
def classify (argument : String) : Except UsageCause CommandWord :=
  match argument.toList with
  | '-' :: c :: cs =>
    let (name, tail) := cutEquals ('-' :: c :: cs)
    match g.option? argument, g.option? name with
    | some o, _ => .ok (.option argument ⟨o, argument, []⟩)
    | none, some o => .ok (.option argument ⟨o, name, tail⟩)
    | none, none => g.guess argument
  | _ => .ok (.operand argument)

/-- What arguments are. -/
def words : List String → Except UsageCause (List CommandWord)
  | [] => .ok []
  | a :: rest =>
    if a == "--" then .ok (.mark :: rest.map .operand)
    else do
      let w ← g.classify a
      return w :: (← words rest)

/-! ### Options behind one hyphen -/

/-- What comes after options without value in an argument. -/
inductive ClusterEnd where
  /-- An option whose value, if it takes one, is the next argument. -/
  | last (o : CommandOption)
  | value (o : CommandOption) (value : String)
  deriving DecidableEq, Repr

/-- The options that an option and the letters after it stand for: letters after an option without
value are options themselves, and letters after another one are its value. -/
def cluster (o : CommandOption) : List Char → Except UsageCause (List CommandOption × ClusterEnd)
  | [] => .ok ([], .last o)
  | c :: cs =>
    if o.takesValue then .ok ([], .value o (String.ofList (c :: cs)))
    else
      match g.option? (String.ofList ['-', c]) with
      | none => .error (.noValueTaken o.label (String.ofList (c :: cs)))
      | some next => (cluster next cs).map fun r => (o :: r.1, r.2)

/-- The options in an argument. After an equals sign stands a value, or, behind one hyphen, the
letters of more options. -/
def optionsIn (use : OptionUse) : Except UsageCause (List CommandOption × ClusterEnd) :=
  match use.tail with
  | '=' :: v =>
    if use.option.takesValue then .ok ([], .value use.option (String.ofList v))
    else if v.isEmpty || Text.startsWith use.name "--" then
      .error (.noValueTaken use.option.label (String.ofList v))
    else
      g.cluster use.option v
  | cs => g.cluster use.option cs

/-! ### Reading -/

/-- How far the operands of a program are read. -/
inductive Stage where
  | before
  | within
  | after
  deriving DecidableEq, Repr

/-- What was read of arguments: the options with their values, the operands, and what the grammar
does not know. -/
structure Progress where
  given : List (String × String)
  operands : List String
  unknown : List String
  stage : Stage
  deriving DecidableEq, Repr

/-- What was read before the first argument. -/
def Progress.start : Progress := ⟨[], [], [], .before⟩

/-- An outcome for a program, or why there is none. -/
abbrev Reading (α : Type) := Except UsageStop α

/-- The failure for a cause. -/
def fail {α : Type} (cause : UsageCause) : Reading α := .error (.fault g.program cause)

/-- Takes an option with its value, empty for options without. -/
def take (p : Progress) (o : CommandOption) (value : String) : Reading Progress :=
  if o.key == helpOption.key then .error (.help g.program)
  else if !o.choices.isEmpty &&
    !o.choices.contains value then g.fail (.choice o.label value o.choices)
  else .ok { p with given := p.given ++ [(o.key, value)] }

/-- Takes options without value. -/
def takeAll (p : Progress) (os : List CommandOption) : Reading Progress :=
  os.foldlM (fun p o => g.take p o "") p

/-- What was read after an option: the operands that had begun are complete. -/
def Progress.pastOption (p : Progress) : Progress :=
  { p with stage := if p.stage == .before then .before else .after }

/-- Takes a command and all that comes after it. -/
def takeCommand (p : Progress) (name : String) (choices : List String) (texts : List String) :
    Reading Progress :=
  match texts with
  | c :: _ =>
    if choices.contains c then .ok { p with operands := texts, stage := .after }
    else g.fail (.choice name c choices)
  | [] => .ok p

/-- Reads words. -/
def readWords (p : Progress) : List CommandWord → Reading Progress
  | [] => .ok p
  | .operand s :: rest =>
    match g.operand, p.stage with
    | .command name choices, .before => g.takeCommand p name choices (s :: rest.map (·.text))
    | .many _, .before => readWords { p with operands := [s], stage := .within } rest
    | .many _, .within => readWords { p with operands := p.operands ++ [s] } rest
    | _, _ => readWords { p with unknown := p.unknown ++ [s] } rest
  | .mark :: rest =>
    match g.operand, p.stage, rest with
    | .command name choices, .before, _ :: _ => g.takeCommand p name choices
        ("--" :: rest.map (·.text))
    | .many _, .before, _ :: _ => readWords p rest
    | .many _, .within, _ => readWords p rest
    | _, _, _ => readWords { p with unknown := p.unknown ++ ["--"] } rest
  | .unknown s :: rest => readWords { p.pastOption with unknown := p.unknown ++ [s] } rest
  | .option _ use :: rest =>
    match g.optionsIn use with
    | .error cause => g.fail cause
    | .ok (os, .value o v) => do
      let p ← g.takeAll p.pastOption os
      readWords (← g.take p o v) rest
    | .ok (os, .last o) =>
      if o.takesValue then
        match rest with
        | .operand v :: rest => do
          let p ← g.takeAll p.pastOption os
          readWords (← g.take p o v) rest
        | _ => g.fail (.valueMissing o.label)
      else do
        readWords (← g.takeAll p.pastOption (os ++ [o])) rest

/-- The names of what has to be given and is not. -/
def missingIn (p : Progress) : List String :=
  (g.options.filter fun o => o.isRequired && !p.given.any fun n => n.1 == o.key).map (·.label) ++
    match g.operand with
    | .many name => if p.operands.isEmpty then [name] else []
    | .command name _ => if p.operands.isEmpty then [name] else []
    | .none => []

/-- Reads the arguments of a program. -/
def read (arguments : List String) : Reading Progress :=
  match g.words arguments with
  | .error cause => g.fail cause
  | .ok words => do
    let p ← g.readWords .start words
    match g.missingIn p with
    | [] => return p
    | labels => g.fail (.missing labels)

end CommandGrammar

end AgentBundles
