import AgentBundles.Compile.Agent
import AgentBundles.Text.Encoding

/-!
# Compiling a bundle

The documents of a bundle: one for each agent, then for each skill its text and the files beside it,
then the hooks. The skills are those selected, and those that an agent preloads.
-/

namespace AgentBundles

/-- The compiled documents of a bundle, and the warnings on the way. -/
structure CompiledBundle where
  name : String
  documents : List Document
  warnings : List CompileWarning
  deriving DecidableEq, Repr

namespace CompiledBundle

/-- The paths of the documents. -/
def paths (b : CompiledBundle) : List String := b.documents.map (·.path)

/-- The document at a path. -/
def get? (b : CompiledBundle) (path : String) : Option Document :=
  b.documents.find? fun d => d.path == path

/-- The digest of the documents. -/
def digest (b : CompiledBundle) : String := Document.digest b.documents

/-- The short digest of the documents. -/
def contentHash (b : CompiledBundle) : String := Sha256.short b.digest

/-- Why no digest can be taken of documents that may hold surrogates. -/
def encodingFault? (b : CompiledBundle) : Option Text.EncodingFault :=
  (b.documents.flatMap fun d => [d.path, d.content]).findSome? Text.Encoding.utf8.fault?

end CompiledBundle

namespace Compile

/-- The path of the hooks of a bundle. -/
def hooksPath : String := "hooks/hooks.json"

/-- The name of the file that holds the text of a skill. -/
def skillFile : String := "SKILL.md"

/-- The directory of a skill in a bundle. -/
def skillPath (slug file : String) : String := "skills/" ++ slug ++ "/" ++ file

/-- The documents of a skill: its text, and the files beside it in the order of their paths. -/
def skillDocuments (s : Skill) : List Document :=
  { path := skillPath s.slug skillFile
    content :=
      Header.render [(.str "name", .str s.slug), (.str "description", .str s.description)] s.content
    contributors := [s.id] } ::
  (s.resources.mergeSort fun a b => Text.le a.1 b.1).map fun r =>
    { path := skillPath s.slug r.1, content := r.2, contributors := [s.id] }

/-- Compiles the agents of a bundle, whose names are not among `seen`. -/
def agents (c : Catalog) (s : ValidatedSelection) (templates : Table String) (routing : Routing)
    (seen : List String) : List AgentProfile → Except CompileFault (List AgentCompilation)
  | [] => .ok []
  | p :: ps =>
    if seen.contains p.name then
      .error (.duplicateProfile p.name)
    else do
      let compiled ← agent c s p templates routing
      let rest ← agents c s templates routing (p.name :: seen) ps
      return compiled :: rest

/-- The skills with identifiers, whose slugs are neither among `seen` nor shared. -/
def skills (c : Catalog) (seen : Table String) : List String → Except CompileFault (List Skill)
  | [] => .ok []
  | id :: ids => do
    let s ← skillOf c id
    match seen.get? s.slug with
    | some first => throw (.sharedSlug first id s.slug)
    | none => return s :: (← skills c ((s.slug, id) :: seen) ids)

/-- The document of hooks, if there are any. -/
def hooksDocument (hooks : Value) : Except CompileFault (List Document) :=
  if hooks.isEmpty then
    .ok []
  else
    let v := Value.ofFields [("hooks", hooks)]
    match Json.unwritable? v with
    | some part => .error (.hooks part)
    | none => .ok [{ path := hooksPath, content := Json.write v ++ "\n", contributors := [] }]

/-- Compiles a bundle. -/
def bundle (c : Catalog) (s : ValidatedSelection) (profiles : List AgentProfile)
    (templates : Table String) (name : String) (routing : Routing) (hooks : Value) :
    Except CompileFault CompiledBundle := do
  let agents ← agents c s templates routing [] profiles
  let ids := Text.distinct (s.selection.ids ++ agents.flatMap fun a => a.document.contributors)
  let skills ← skills c [] ids
  let hooks ← hooksDocument hooks
  return {
    name := name
    documents := agents.map (·.document) ++ skills.flatMap skillDocuments ++ hooks
    warnings := agents.flatMap (·.warnings) }

end Compile

end AgentBundles
