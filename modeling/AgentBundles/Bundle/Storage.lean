import AgentBundles.Bundle.Basic
import AgentBundles.Files.Action
import AgentBundles.Text.Encoding

/-!
# Bundles on a disk

A bundle is written below a directory, each text under its path. What an earlier bundle left in the
directories that belong to the compiler is removed before; all other files stay. Nothing is written
or removed unless every path of the bundle lies strictly below the directory. Texts of Unicode can
all be encoded; of texts that may hold surrogates, the first one that does ends the writing and
leaves its file empty.
-/

namespace AgentBundles

/-- Why a bundle cannot be stored or read. -/
inductive StorageFault where
  /-- A path of the bundle leads out of the directory. -/
  | outside (path : String)
  /-- A path of the bundle is the name of no file. -/
  | name (f : Text.EncodingFault)
  /-- A text of the bundle cannot be encoded. -/
  | text (f : Text.EncodingFault)
  | file (f : FileFault)
  deriving DecidableEq, Repr

/-- The kind of a fault. -/
def StorageFault.kind : StorageFault → FaultKind
  | .outside _ => .value
  | .name _ => .encoding
  | .text _ => .encoding
  | .file f => f.kind

/-- What a message says of a bundle that cannot be stored or read. -/
def StorageFault.message : StorageFault → String
  | .outside path => "Bundle path escapes destination: " ++ Text.quoted path
  | .name f => f.message
  | .text f => f.message
  | .file f => f.message

/-- The directories in a bundle that belong to the compiler. -/
def ownedDirectories : List String := ["agents", "skills", "hooks"]

/-! ### Reading -/

namespace Bundle

/-- All files below a path, under their paths. -/
def filesBelow (d : Disk) (path : FilePath) : Except FileFault (Table String) := do
  let files ← (d.below path).mapM fun e =>
    match e.2 with
    | .directory => .ok none
    | .file _ => (d.read (path.below e.1)).map fun s => some (placeText e.1, s)
  return files.filterMap id

/-- The bundle in a directory. -/
def readFrom (d : Disk) (path : FilePath) (location : Option Location) :
    Except StorageFault Bundle := do
  (do
    d.requireDirectory "Bundle directory" path
    return ⟨← filesBelow d path, location⟩ : Except FileFault Bundle).mapError .file

/-! ### Writing -/

/-- The place of a path of a bundle that is stored at `root`, strictly below it. -/
def target (root : Place) (path : String) : Except StorageFault Place :=
  let p := FilePath.ofText path
  let place := ((FilePath.ofPlace root).append p).resolve root
  if !p.isPlain then .error (.file .zero)
  else
    match relative? root place with
    | some (_ :: _) => .ok place
    | _ => .error (.outside path)

/-- Refuses a path that is the name of no file; some surrogates are bytes of names that are no
texts. -/
def requireName (path : FilePath) : Except StorageFault Unit :=
  match Text.Encoding.fileName.fault? path.text with
  | none => .ok ()
  | some f => .error (.name f)

/-- The place of a path of a bundle that may hold surrogates. -/
def encodedTarget (root : Place) (path : String) : Except StorageFault Place := do
  requireName ((FilePath.ofPlace root).append (.ofText path))
  target root path

/-- Makes a directory and those above it. -/
def makeDirectories (path : FilePath) : Disk.Action StorageFault Unit :=
  ExceptT.adapt .file (Disk.makeDirectories path)

/-- Writes a text to a place, below directories that are made if need be. -/
def writeText (place : Place) (s : String) : Disk.Action StorageFault Unit := do
  let path := FilePath.ofPlace place
  makeDirectories path.parent
  .change fun d => (d.write path s).mapError .file

/-- Writes a text that may hold surrogates to a place. A file is made before its text is encoded. -/
def encodeText (place : Place) (s : String) : Disk.Action StorageFault Unit :=
  match Text.Encoding.utf8.fault? s with
  | none => writeText place s
  | some f => do
    writeText place ""
    throw (.text f)

/-- Removes the directories below a place that belong to the compiler. -/
def removeOwned (root : Place) : Disk.Action StorageFault Unit :=
  .change fun d =>
    .ok (ownedDirectories.foldl (fun d name => d.removeDirectory (.ofPlace (root ++ [name]))) d)

/-- A way to write texts: where the path of a text leads below a directory, and how the text is put
there. -/
structure Writer where
  target : Place → String → Except StorageFault Place
  put : Place → String → Disk.Action StorageFault Unit

namespace Writer

/-- The writer of texts of Unicode. -/
def plain : Writer := ⟨Bundle.target, writeText⟩

/-- The writer of texts that may hold surrogates. -/
def encoding : Writer := ⟨encodedTarget, encodeText⟩

variable (w : Writer) (b : Bundle)

/-- The texts of a bundle in the order of their paths, with the places where they go. -/
def targets (root : Place) : Except StorageFault (List (Place × String)) :=
  (b.files.mergeSort fun f g => Text.le f.1 g.1).mapM fun f =>
    (w.target root f.1).map fun place => (place, f.2)

/-- Puts the texts of a bundle into a directory in place of what belongs to the compiler. -/
def fill (root : Place) : Disk.Action StorageFault Unit := do
  let targets ← .look fun _ => w.targets b root
  removeOwned root
  targets.forM fun t => w.put t.1 t.2

/-- Writes a bundle below a directory. -/
def store (path : FilePath) : Disk.Action StorageFault Unit := do
  makeDirectories path
  w.fill b ((← get).resolve path)

end Writer

/-- Writes a bundle of texts of Unicode below a directory. -/
def writeTo (b : Bundle) (path : FilePath) : Disk.Action StorageFault Unit :=
    Writer.plain.store b path

/-- Writes a bundle of texts that may hold surrogates below a directory. -/
def encodeTo (b : Bundle) (path : FilePath) : Disk.Action StorageFault Unit :=
    Writer.encoding.store b path

end Bundle

/-- Writes a text to a path, below directories that are made if need be. -/
def storeText (path : FilePath) (s : String) : Disk.Action StorageFault Unit := do
  Bundle.makeDirectories path.parent
  .change fun d => (d.write path s).mapError .file

end AgentBundles
