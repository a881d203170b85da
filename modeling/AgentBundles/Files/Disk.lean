import AgentBundles.Data.FaultKind
import AgentBundles.Files.Path
import AgentBundles.Text.Utf8

/-!
# File trees and disks

A file tree is the directories and files below a root, each under its place; the root itself is a
directory always. A disk is a file tree and the directory in which relative paths start. A path is
followed name by name, so every name before the last has to lead to a directory.
-/

namespace AgentBundles

/-! ### File trees -/

/-- The content of a file. -/
inductive Content where
  | text (s : String)
  | raw (bytes : List UInt8)
  deriving DecidableEq, Repr

/-- The bytes of a content. -/
def Content.bytes : Content → List UInt8
  | .text s => Text.utf8 s
  | .raw bytes => bytes

/-- What is at a place. -/
inductive Node where
  | directory
  | file (c : Content)
  deriving DecidableEq, Repr

/-- A file tree. -/
structure Tree where
  entries : List (Place × Node)
  deriving DecidableEq, Repr

namespace Tree

/-- The tree with nothing below its root. -/
def empty : Tree := ⟨[]⟩

/-- What is at a place. -/
def get? (t : Tree) : Place → Option Node
  | [] => some .directory
  | place => (t.entries.find? fun e => e.1 == place).map (·.2)

/-- Entries with the node at a place replaced, or added at the end. -/
def insertEntry (place : Place) (node : Node) : List (Place × Node) → List (Place × Node)
  | [] => [(place, node)]
  | e :: rest => if e.1 == place then (place, node) :: rest else e :: insertEntry place node rest

/-- The tree with a node put at a place. -/
def insert (t : Tree) (place : Place) (node : Node) : Tree := ⟨insertEntry place node t.entries⟩

/-- The tree without a place and everything below it. -/
def erase (t : Tree) (place : Place) : Tree :=
    ⟨t.entries.filter fun e => (relative? place e.1).isNone⟩

/-- The tree with directories at a place and at all places above it that hold nothing. -/
def insertDirectories (t : Tree) (place : Place) : Tree :=
  ((List.range (place.length + 1)).map place.take).foldl
    (fun t p => if (t.get? p).isNone then t.insert p .directory else t) t

/-- What is below a place, in the order of the places relative to it. -/
def below (t : Tree) (place : Place) : List (Place × Node) :=
  (t.entries.filterMap fun e =>
    match relative? place e.1 with
    | some (n :: names) => some (n :: names, e.2)
    | _ => none).mergeSort fun a b => Text.listLe a.1 b.1

end Tree

/-! ### Disks -/

/-- A disk. -/
structure Disk where
  tree : Tree
  directory : Place
  deriving DecidableEq, Repr

/-- Why a path leads nowhere. -/
inductive FileCause where
  | missing
  | exists
  | notDirectory
  | isDirectory
  /-- A name, or the whole path, has too many bytes. -/
  | nameTooLong
  deriving DecidableEq, Repr

/-- A path that is no directory, and what the directory was to be. -/
structure NoDirectory where
  what : String
  path : FilePath
  deriving DecidableEq, Repr

/-- What a message says of a path that is no directory. -/
def NoDirectory.message (f : NoDirectory) : String := f.what ++ " does not exist: " ++ f.path.text

/-- Why a file operation fails. -/
inductive FileFault where
  | path (cause : FileCause) (path : String)
  /-- A name holds a zero character. -/
  | zero
  | noDirectory (f : NoDirectory)
  /-- A file does not hold a text. -/
  | encoding (f : Text.Utf8Fault)
  deriving DecidableEq, Repr

/-- The kind of fault that a cause makes. -/
def FileCause.kind : FileCause → FaultKind
  | .missing => .missingFile
  | .exists => .fileExists
  | .notDirectory => .notDirectory
  | .isDirectory => .isDirectory
  | .nameTooLong => .fileName

/-- The kind of a fault. -/
def FileFault.kind : FileFault → FaultKind
  | .path cause _ => cause.kind
  | .zero => .value
  | .noDirectory _ => .notDirectory
  | .encoding _ => .decoding

/-- The number and the text of a cause. -/
def FileCause.message : FileCause → String
  | .missing => "[Errno 2] No such file or directory"
  | .exists => "[Errno 17] File exists"
  | .notDirectory => "[Errno 20] Not a directory"
  | .isDirectory => "[Errno 21] Is a directory"
  | .nameTooLong => "[Errno 36] File name too long"

/-- What a message says of a file operation that fails. -/
def FileFault.message : FileFault → String
  | .path cause p => cause.message ++ ": " ++ Text.quoted p
  | .zero => "embedded null byte"
  | .noDirectory f => f.message
  | .encoding f => f.message

/-- The count of bytes that no name exceeds. -/
def longestName : Nat := 255

/-- The count of bytes that no path exceeds. -/
def longestPath : Nat := 4095

/-- The characters of a text with all line ends made line feeds. -/
def unifyBreaks : List Char → List Char
  | [] => []
  | '\r' :: '\n' :: cs => '\n' :: unifyBreaks cs
  | '\r' :: cs => '\n' :: unifyBreaks cs
  | c :: cs => c :: unifyBreaks cs

namespace Disk

variable (d : Disk)

/-- The place that a path names. -/
def resolve (p : FilePath) : Place := p.resolve d.directory

/-- The place that a name leads to from a directory. -/
def enter (here : Place) (name : String) : Except FileCause Place :=
  match d.tree.get? here with
  | some .directory =>
    if longestName < name.utf8ByteSize then .error .nameTooLong else .ok (FilePath.enter here name)
  | some (.file _) => .error .notDirectory
  | none => .error .missing

/-- The place that a path leads to; there may be nothing there. -/
def walk (p : FilePath) : Except FileCause Place :=
  if longestPath < p.text.utf8ByteSize then .error .nameTooLong
  else p.names.foldlM d.enter (if p.isAbsolute then [] else d.directory)

/-- What a path leads to. -/
def find (p : FilePath) : Except FileCause Node := do
  match d.tree.get? (← d.walk p) with
  | some node => return node
  | none => throw .missing

/-- What a path leads to, if anything; of a path that is too long this cannot be said. -/
def find? (p : FilePath) : Except FileFault (Option Node) :=
  if p.isPlain then
    match d.find p with
    | .ok node => .ok (some node)
    | .error .nameTooLong => .error (.path .nameTooLong p.text)
    | .error _ => .ok none
  else
    .ok none

/-- Whether a path leads to something. -/
def has (p : FilePath) : Except FileFault Bool := (d.find? p).map (·.isSome)

/-- Whether a path leads to a file. -/
def isFile (p : FilePath) : Except FileFault Bool :=
  (d.find? p).map (· matches some (.file _))

/-- Whether a path leads to a directory. -/
def isDirectory (p : FilePath) : Except FileFault Bool :=
  (d.find? p).map (· matches some .directory)

/-- Asks for a directory at a path. -/
def requireDirectory (what : String) (p : FilePath) : Except FileFault Unit := do
  if !(← d.isDirectory p) then
    throw (.noDirectory ⟨what, p⟩)

/-- The content of a file. -/
def content (p : FilePath) : Except FileFault Content :=
  if !p.isPlain then .error .zero
  else
    match d.find p with
    | .ok (.file c) => .ok c
    | .ok .directory => .error (.path .isDirectory p.text)
    | .error cause => .error (.path cause p.text)

/-- The count of bytes of a file; zero if there is none. -/
def size (p : FilePath) : Nat :=
  match d.find? p with
  | .ok (some (.file c)) => c.bytes.length
  | _ => 0

/-- The text that a content is, with all line ends made line feeds. -/
def textOf (c : Content) : Except FileFault String :=
  match c with
  | .text s => .ok (String.ofList (unifyBreaks s.toList))
  | .raw bytes =>
    match Text.decodeUtf8 bytes with
    | .ok cs => .ok (String.ofList (unifyBreaks cs))
    | .error f => .error (.encoding f)

/-- The text of a file. -/
def read (p : FilePath) : Except FileFault String := do
  textOf (← d.content p)

/-- Everything below a path, in order. -/
def below (p : FilePath) : List (Place × Node) :=
  match d.walk p with
  | .ok place => d.tree.below place
  | .error _ => []

/-! ### Changes -/

/-- The disk with another tree. -/
def withTree (t : Tree) : Disk := { d with tree := t }

/-- Puts a text into a file. -/
def write (p : FilePath) (s : String) : Except FileFault Disk :=
  if !p.isPlain then .error .zero
  else
    match d.walk p with
    | .error cause => .error (.path cause p.text)
    | .ok place =>
      match d.tree.get? place, d.tree.get? place.dropLast with
      | some .directory, _ => .error (.path .isDirectory p.text)
      | some (.file _), _ => .ok (d.withTree (d.tree.insert place (.file (.text s))))
      | none, some .directory => .ok (d.withTree (d.tree.insert place (.file (.text s))))
      | none, some (.file _) => .error (.path .notDirectory p.text)
      | none, none => .error (.path .missing p.text)

/-- Makes one directory. -/
def makeOne (p : FilePath) : Except FileCause Disk := do
  let place ← d.walk p
  match d.tree.get? place, d.tree.get? place.dropLast with
  | some _, _ => throw .exists
  | none, some .directory => return d.withTree (d.tree.insert place .directory)
  | none, some (.file _) => throw .notDirectory
  | none, none => throw .missing

/-- The disk without a directory and everything below it; nothing happens to a file. -/
def removeDirectory (p : FilePath) : Disk :=
  match d.walk p with
  | .ok place =>
    match d.tree.get? place with
    | some .directory => d.withTree (d.tree.erase place)
    | _ => d
  | .error _ => d

end Disk

end AgentBundles
