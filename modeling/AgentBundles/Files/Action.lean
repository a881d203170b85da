import AgentBundles.Files.Disk

/-!
# Actions on a disk

An action changes a disk step by step and may fail on the way. What was done before it failed stays
done, so every outcome comes with the disk after it.
-/

namespace AgentBundles.Disk

/-- An action on a disk. -/
abbrev Action (ε α : Type) := ExceptT ε (StateM Disk) α

namespace Action

variable {ε α : Type}

/-- The action that looks at the disk and changes nothing. -/
def look (f : Disk → Except ε α) : Action ε α :=
  fun d => (f d, d)

/-- The action that makes a new disk of the disk, or fails and changes nothing. -/
def change (f : Disk → Except ε Disk) : Action ε Unit :=
  fun d => match f d with
    | .ok d' => (.ok (), d')
    | .error e => (.error e, d)

/-- The outcome of an action on a disk, and the disk after it. -/
def outcome (a : Action ε α) (d : Disk) : Except ε α × Disk := a d

end Action

/-! ### Making directories -/

/-- Makes a directory whose parent is there; nothing is done if the directory is there already. -/
def makeLast (p : FilePath) : Action FileFault Unit :=
  .change fun d =>
    match d.makeOne p with
    | .ok d' => .ok d'
    | .error cause =>
      match d.isDirectory p with
      | .ok true => .ok d
      | _ => .error (.path cause p.text)

/-- Makes a directory and those above it that are missing, from the path upwards; those above stay
even if one below them cannot be made. -/
def makeAll (p : FilePath) : Action FileFault Unit := do
  match (← get).makeOne p with
  | .error .missing =>
    if _h : p.names = [] then
      throw (.path .missing p.text)
    else
      makeAll p.parent
      makeLast p
  | _ => makeLast p
termination_by p.names.length
decreasing_by
  rw [FilePath.parent, List.length_dropLast]
  exact Nat.sub_one_lt_of_lt (List.length_pos_iff.mpr _h)

/-- Makes a directory and those above it that are missing. -/
def makeDirectories (p : FilePath) : Action FileFault Unit :=
  if p.isPlain then makeAll p else throw .zero

end AgentBundles.Disk
