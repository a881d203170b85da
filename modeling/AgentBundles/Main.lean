import AgentBundles.Command.Run

/-!
# The program

The outer layer: it reads the files that a command looks at, has the command carried out on them,
and writes what has changed. No request is sent; every one is left without answer.
-/

namespace AgentBundles.Outer

/-- The text of a place. -/
def text (place : Place) : String := (FilePath.ofPlace place).text

/-- The tree with what is at a place outside. -/
def readPlace (t : Tree) (place : Place) : IO Tree := do
  try
    let path ← IO.FS.realPath (text place)
    if ← path.isDir then
      return t.insertDirectories place
    else
      let bytes ← IO.FS.readBinFile path
      return t.insert place (.file (.raw bytes.toList))
  catch _ =>
    return t

/-- The tree with everything below a place outside; links to directories are not followed. -/
partial def readBelow (t : Tree) (place : Place) : IO Tree := do
  try
    let path ← IO.FS.realPath (text place)
    if !(← path.isDir) then
      return t
    let mut t := t
    for entry in ← path.readDir do
      let next := place ++ [entry.fileName]
      t ← readPlace t next
      if (← entry.path.symlinkMetadata).type == .dir then
        t ← readBelow t next
    return t
  catch _ =>
    return t

/-- The disk with all that is on the way to a path. -/
def readPath (d : Disk) (p : FilePath) : IO Disk := do
  let mut t := d.tree
  for n in List.range (p.names.length + 1) do
    t ← readPlace t (d.resolve { p with names := p.names.take n })
  return d.withTree t

/-- The disk with what a command looks at. -/
def readNeeds (d : Disk) (needs : Needs) : IO Disk := do
  let mut d := d
  for p in needs.single ++ needs.whole do
    d ← readPath d p
  for p in needs.whole do
    let t ← readBelow d.tree (d.resolve p)
    d := d.withTree t
  return d

/-- Removes what is in the first tree and not in the second one. -/
def removeOld (before after : Tree) : IO Unit := do
  for e in before.below [] do
    if (after.get? e.1).isNone && (after.get? e.1.dropLast).isSome then
      match e.2 with
      | .directory => IO.FS.removeDirAll (text e.1)
      | .file _ => IO.FS.removeFile (text e.1)

/-- Writes what is in the second tree and not in the first one. -/
def writeNew (before after : Tree) : IO Unit := do
  for e in after.below [] do
    if before.get? e.1 != some e.2 then
      match e.2 with
      | .directory => IO.FS.createDirAll (text e.1)
      | .file c => IO.FS.writeBinFile (text e.1) ⟨c.bytes.toArray⟩

/-- The values of the environment variables with some names that are set. -/
def readEnvironment (names : List String) : IO Build.Environment := do
  let values ← names.mapM fun name => do
    return (← IO.getEnv name).map fun value => (name, value)
  return values.filterMap id

/-- Prints an outcome; the result is its code. -/
def report (o : Outcome) : IO UInt32 := do
  IO.print o.out
  IO.eprint o.err
  return o.code.toUInt32

/-- Carries out a command on the files outside. -/
def runCommand (c : Command) : IO UInt32 := do
  let directory := FilePath.resolve [] (.ofText (← IO.currentDir).toString)
  let first ← readNeeds ⟨Tree.empty.insertDirectories directory, directory⟩ c.needs
  let env ← readEnvironment (c.variableNames first)
  let before ← readNeeds first (c.furtherNeeds env first)
  let (result, after) := (c.run env fun _ => .none).outcome before
  removeOld before.tree after.tree
  writeNew before.tree after.tree
  match result with
  | .ok o => report o
  | .error f => report ⟨1, "", f.message ++ "\n"⟩

end AgentBundles.Outer

/-- Carries out the command that the arguments ask for. -/
def main (args : List String) : IO UInt32 :=
  match AgentBundles.Command.ofArguments args with
  | .ok c => AgentBundles.Outer.runCommand c
  | .error stop => AgentBundles.Outer.report stop.outcome
