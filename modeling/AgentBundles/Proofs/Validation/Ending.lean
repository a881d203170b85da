import AgentBundles.Proofs.Outcome
import AgentBundles.Proofs.Validation.Frame
import AgentBundles.Proofs.Yaml.NodeFaults
import AgentBundles.Validation.Bundle

/-!
# What ends validation

Most that can be wrong with a bundle is an issue in its report. Here we find out exactly what keeps
validation from giving a report: integers with too many digits, and headers that are well-formed but
hold a scalar that is no value of its tag.
-/

namespace AgentBundles

/-- A text has no header, but a fault, exactly if the lines of the header have a fault that is none
of the grammar. -/
theorem Header.parse_eq_error_iff {text : String} {f : Yaml.Fault} :
  parse text = .error f
    ↔ ∃ lines rest, block? text.toList = some (lines, rest) ∧ Yaml.read (String.ofList lines)
      = .error f ∧ f ≠ .malformed
  := by
  rw [parse, map_eq_error_iff, read?]
  cases block? text.toList with
  | none => simp
  | some b =>
      obtain ⟨lines, rest⟩ := b
      have hblock :
          (∃ lines' rest',
          some (lines, rest) = some (lines', rest') ∧ Yaml.read (String.ofList lines') = .error f ∧
          f ≠ .malformed) ↔ Yaml.read (String.ofList lines) = .error f ∧ f ≠ .malformed := by
        simp
      rw [hblock]
      dsimp only
      cases Yaml.read (String.ofList lines) with
      | error e =>
          cases e with
          | malformed =>
              constructor
              · rintro ⟨⟩
              · rintro ⟨⟨⟩, hne⟩
                exact absurd rfl hne
          | _ =>
              constructor
              · rintro ⟨⟩
                exact ⟨rfl, by rintro ⟨⟩⟩
              · rintro ⟨⟨⟩, -⟩
                rfl
      | ok v =>
          cases v
          all_goals simp

namespace Validation

/-- What ends the validation of a document: its header has a fault that is none of the grammar, or a
message would quote an integer with too many digits. -/
inductive HeaderEnds (d : DocumentSchema) (text : String) : ValidationFault → Prop where
  | header {lines rest : List Char} {f : Yaml.Fault} : Header.block? text.toList
      = some (lines, rest) → Yaml.read (String.ofList lines) = .error f → f ≠ .malformed →
      HeaderEnds d text (.header f)
  | unwritable {v : Value} {x : Violation} : Header.parse text = .ok (some v) → x ∈ d.violations v →
      x.isWritable = false → HeaderEnds d text .unwritable

theorem headerIssues_eq_error_iff {d : DocumentSchema} {text location : String}
    {f : ValidationFault} :
  headerIssues d text location = .error f ↔ HeaderEnds d text f
  := by
  rw [headerIssues, bind_eq_error_iff, mapError_eq_error_iff]
  constructor
  · rintro (⟨e, he, rfl⟩ | ⟨v?, hv, h⟩)
    · obtain ⟨lines, rest, hblock, hread, hne⟩ := Header.parse_eq_error_iff.mp he
      apply HeaderEnds.header hblock hread hne
    · rw [mapError_eq_ok_iff] at hv
      cases v? with
      | none => cases h
      | some v =>
          dsimp only at h
          split at h
          · cases h
          · rename_i hall
            cases h
            rw [List.all_eq_true] at hall
            simp only [not_forall] at hall
            obtain ⟨x, hx, hwritable⟩ := hall
            apply HeaderEnds.unwritable hv hx (Bool.eq_false_iff.mpr hwritable)
  · rintro (⟨hblock, hread, hne⟩ | ⟨hv, hx, hwritable⟩)
    · exact Or.inl ⟨_, Header.parse_eq_error_iff.mpr ⟨_, _, hblock, hread, hne⟩, rfl⟩
    · right
      refine ⟨_, mapError_eq_ok_iff.mpr hv, ?_⟩
      dsimp only
      rw [if_neg]
      · rfl
      · intro hall
        rw [List.all_eq_true.mp hall _ hx] at hwritable
        cases hwritable

theorem skillIssues_eq_error_iff {text location : String} {f : ValidationFault} :
  skillIssues text location = .error f ↔ HeaderEnds Schema.skillHeader text f
  := by
  rw [skillIssues, bind_eq_error_iff, headerIssues_eq_error_iff, or_iff_left_iff_imp]
  rintro ⟨⟨v?, issues⟩, -, h⟩
  cases v? with
  | none => cases h
  | some v => cases h

theorem agentIssues_eq_error_iff {text location : String} {f : ValidationFault} :
  agentIssues text location = .error f ↔ HeaderEnds Schema.agentHeader text f
  := by
  rw [agentIssues, bind_eq_error_iff, headerIssues_eq_error_iff, or_iff_left_iff_imp]
  rintro ⟨_, -, ⟨⟩⟩

/-- The schema of the header that is looked for in the file at a path, if the path is that of a
skill or an agent. -/
def headerSchema? (skills agents path : String) : Option DocumentSchema :=
  if isSkillPath skills path then some Schema.skillHeader
  else if isAgentPath agents path then some Schema.agentHeader
  else none

theorem documentIssues_eq_error_iff {skills agents : String} {file : String × String}
    {f : ValidationFault} :
  documentIssues skills agents file = .error f
    ↔ ∃ d, headerSchema? skills agents file.1 = some d ∧ HeaderEnds d file.2 f
  := by
  rw [documentIssues, headerSchema?]
  split
  · simp [skillIssues_eq_error_iff]
  · split
    · simp [agentIssues_eq_error_iff]
    · simp

/-- What ends the validation of a text that should be JSON: an integer in it has too many digits. -/
inductive TextEnds (text : String) : ValidationFault → Prop where
  | json {f : Json.Fault} : Json.read text = .error f → f.isFormal = false → TextEnds text (.json f)

theorem jsonOf_eq_error_iff {text location : String} {f : ValidationFault} :
  jsonOf location text = .error f ↔ TextEnds text f
  := by
  rw [jsonOf]
  constructor
  · intro h
    split at h
    · cases h
    · rename_i e he
      split at h
      · cases h
      · rename_i hformal
        cases h
        exact TextEnds.json he (Bool.eq_false_iff.mpr hformal)
  · rintro ⟨he, hformal⟩
    rw [he]
    dsimp only
    rw [hformal]
    rfl

theorem hooksEntryIssues_eq_error_iff {files : Table String} {declared : String}
    {f : ValidationFault} :
  hooksEntryIssues files declared = .error f
    ↔ ∃ t, files.get? (entryPath declared) = some t ∧ Text.allBlank t = false ∧ TextEnds t f
  := by
  rw [hooksEntryIssues]
  cases files.get? (entryPath declared) with
  | none =>
      constructor
      · rintro ⟨⟩
      · rintro ⟨t, ⟨⟩, -⟩
  | some t =>
      simp only [Option.some.injEq, exists_eq_left']
      split
      · rename_i hblank
        rw [hblank]
        constructor
        · rintro ⟨⟩
        · rintro ⟨⟨⟩, -⟩
      · rename_i hblank
        rw [bind_eq_error_iff, jsonOf_eq_error_iff, Bool.eq_false_iff.mpr hblank]
        constructor
        · rintro (hends | ⟨found, -, h⟩)
          · exact ⟨rfl, hends⟩
          · cases found with
            | inl v => cases h
            | inr issue => cases h
        · rintro ⟨-, hends⟩
          exact Or.inl hends

theorem declaredIssues_eq_error_iff {manifest : Value} {kind : String}
    {issues : String → Checked (List Issue)} {f : ValidationFault} :
  declaredIssues manifest kind issues = .error f ↔ ∃ declared, text? manifest kind = some declared ∧
    issues declared = .error f
  := by
  rw [declaredIssues]
  cases text? manifest kind with
  | none => simp
  | some declared => simp

/-- Of the entry points only the file of hooks can end validation. -/
theorem entryIssues_eq_error_iff {files : Table String} {manifest : Value} {f : ValidationFault} :
  entryIssues files manifest = .error f
    ↔ ∃ declared, text? manifest "hooks" = some declared ∧ hooksEntryIssues files declared
      = .error f
  := by
  have hdirectory : ∀ kind isText, ∃ issues,
      declaredIssues manifest kind
        (fun declared => .ok (directoryEntryIssues files.names kind declared isText))
        = .ok issues := by
    intro kind isText
    rw [exists_eq_ok_iff]
    intro f h
    obtain ⟨declared, -, ⟨⟩⟩ := declaredIssues_eq_error_iff.mp h
  obtain ⟨skills, hskills⟩ := hdirectory "skills" isSkillText
  obtain ⟨agents, hagents⟩ := hdirectory "agents" isAgentText
  rw [entryIssues, hskills, ok_bind, hagents, ok_bind, bind_eq_error_iff,
    declaredIssues_eq_error_iff, or_iff_left_iff_imp]
  rintro ⟨hooks, -, ⟨⟩⟩

theorem manifestOf_eq_error_iff {files : Table String} {f : ValidationFault} :
  manifestOf files = .error f ↔ ∃ t, files.get? Manifest.path = some t ∧ TextEnds t f
  := by
  rw [manifestOf]
  cases files.get? Manifest.path with
  | none =>
      constructor
      · rintro ⟨⟩
      · rintro ⟨t, ⟨⟩, -⟩
  | some t =>
      simp only [Option.some.injEq, exists_eq_left']
      rw [bind_eq_error_iff, jsonOf_eq_error_iff, or_iff_left_iff_imp]
      rintro ⟨found, -, h⟩
      cases found with
      | inl v => cases v <;> cases h
      | inr issue => cases h

end Validation

/-! ### Bundles -/

open Validation

/-- What ends the validation of a bundle: its manifest, the file of hooks that the manifest
declares, or the header of a skill or an agent. -/
inductive Bundle.Ends (b : Bundle) : ValidationFault → Prop where
  | manifest {t : String} {f : ValidationFault} : b.files.get? Manifest.path = some t →
      TextEnds t f → b.Ends f
  | hooks {manifest : Entries} {issues : List Issue} {declared t : String} {f : ValidationFault} :
      manifestOf b.files = .ok (manifest, issues) → text? (.map manifest) "hooks" = some declared →
      b.files.get? (entryPath declared) = some t → Text.allBlank t = false → TextEnds t f → b.Ends f
  | header {manifest : Entries} {issues : List Issue} {file : String × String} {d : DocumentSchema}
      {f : ValidationFault} : manifestOf b.files = .ok (manifest, issues) → file ∈ b.files →
      headerSchema? (directoryOf (.map manifest) "skills" Manifest.skillsDirectory)
        (directoryOf (.map manifest) "agents" Manifest.agentsDirectory) file.1 = some d →
      HeaderEnds d file.2 f → b.Ends f

theorem Bundle.ends_of_validate {b : Bundle} {f : ValidationFault} (h : b.validate = .error f) :
  b.Ends f
  := by
  rw [validate, bind_eq_error_iff] at h
  rcases h with h | ⟨⟨manifest, issues⟩, hmanifest, h⟩
  · obtain ⟨t, ht, hends⟩ := manifestOf_eq_error_iff.mp h
    apply Ends.manifest ht hends
  · rcases bind_eq_error_iff.mp h with h | ⟨entries, -, h⟩
    · obtain ⟨declared, hdeclared, h⟩ := entryIssues_eq_error_iff.mp h
      obtain ⟨t, ht, hblank, hends⟩ := hooksEntryIssues_eq_error_iff.mp h
      apply Ends.hooks hmanifest hdeclared ht hblank hends
    · rcases bind_eq_error_iff.mp h with h | ⟨documents, -, ⟨⟩⟩
      obtain ⟨file, hfile, h⟩ := exists_of_mapM_eq_error h
      obtain ⟨d, hd, hends⟩ := documentIssues_eq_error_iff.mp h
      apply Ends.header hmanifest (List.mem_mergeSort.mp hfile) hd hends

/-- Nothing ends the validation of a bundle that has a report. -/
theorem Bundle.not_ends_of_validate {b : Bundle} {r : Report} (h : b.validate = .ok r)
    (f : ValidationFault) :
  ¬ b.Ends f
  := by
  obtain ⟨manifest, issues, entries, documents, hmanifest, hentries, hdocuments, -⟩ :=
    validate_eq_ok_iff.mp h
  rintro (⟨ht, hends⟩ | ⟨hmanifest', hdeclared, ht, hblank, hends⟩ | ⟨hmanifest', hfile, hd, hends⟩)
  · have herror := manifestOf_eq_error_iff.mpr ⟨_, ht, hends⟩
    rw [hmanifest] at herror
    cases herror
  · rw [hmanifest] at hmanifest'
    cases hmanifest'
    have herror := entryIssues_eq_error_iff.mpr
      ⟨_, hdeclared, hooksEntryIssues_eq_error_iff.mpr ⟨_, ht, hblank, hends⟩⟩
    rw [hentries] at herror
    cases herror
  · rw [hmanifest] at hmanifest'
    cases hmanifest'
    have herror := documentIssues_eq_error_iff.mpr ⟨_, hd, hends⟩
    obtain ⟨is, his⟩ :=
      exists_mapM_eq_ok_iff.mp ⟨documents, hdocuments⟩ _ (List.mem_mergeSort.mpr hfile)
    rw [his] at herror
    cases herror

/-- A skill that is described by a day that does not exist. -/
def Bundle.misdated : Bundle where
  files := [("skills/react/SKILL.md", "---\nname: react\ndescription: 2024-02-30\n---\n")]
  location := none

end AgentBundles
