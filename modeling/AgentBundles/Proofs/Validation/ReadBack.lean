import AgentBundles.Proofs.Bundle.ReadBack
import AgentBundles.Proofs.Bundle.Stored
import AgentBundles.Proofs.Validation.Compiled

/-!
# Documents that are read back

The header of a compiled document is written without carriage returns, so it is the same when the
document is read back with line feeds for all line ends, whatever stands in its body. A compiled
document therefore has the issues that it had when it was compiled.
-/

namespace AgentBundles

/-! ### Headers -/

namespace Yaml.Unmarked

theorem return_not_mem {cs : List Char} (h : Unmarked cs) :
  '\r' ∉ cs
  := by
  induction cs with
  | nil => apply List.not_mem_nil
  | cons c cs ih =>
      rw [List.mem_cons, not_or]
      exact ⟨Ne.symm h.1.2, ih h.2.2⟩

end Yaml.Unmarked

/-- A document that is rendered with texts has the same header once it is read back. -/
theorem Header.parse_unified_render {entries : Entries} {texts : List (String × String)}
    (hkept : kept entries = Yaml.textEntries texts) (hne : texts ≠ []) (body : String) :
  parse (unified (render entries body)) = parse (render entries body)
  := by
  obtain ⟨e, texts, rfl⟩ := List.exists_cons_of_ne_nil hne
  have hlines := Yaml.unmarked_writeEntries e texts
  have hrender := toList_render hkept body
  have hback : (unified (render entries body)).toList = ['-', '-', '-', '\n'] ++
      (Yaml.writeEntries true 0 (Yaml.textEntries (e :: texts)) ++
        '\n' :: '-' :: '-' :: '-' :: '\n' :: unifyBreaks
          ('\n' :: ((Text.trim body).toList ++ ['\n']))) := by
    have hclosing : ∀ cs, unifyBreaks ('\n' :: '-' :: '-' :: '-' :: '\n' :: cs)
        = '\n' :: '-' :: '-' :: '-' :: '\n' :: unifyBreaks cs := by
      have hmark : '\r' ∉ ['\n', '-', '-', '-', '\n'] := by decide
      exact unifyBreaks_append hmark
    rw [unified, String.toList_ofList, hrender, unifyBreaks_append (by decide),
      unifyBreaks_append hlines.return_not_mem, hclosing]
  apply parse_congr
  · rw [hback]
    apply block?_append hlines
  · rw [hrender]
    apply block?_append hlines

/-! ### Documents -/

namespace Validation

variable {skills agents path s t : String}

/-- The issues of a document depend on its header only, and those of a file that is no document on
nothing. -/
theorem documentIssues_congr
    (h : isSkillPath skills path = true ∨ isAgentPath agents path = true →
      Header.parse s = Header.parse t) :
  documentIssues skills agents (path, s) = documentIssues skills agents (path, t)
  := by
  rw [documentIssues, documentIssues]
  dsimp only
  split
  · rename_i hskill
    rw [skillIssues, skillIssues, headerIssues, headerIssues, h (Or.inl hskill)]
  · split
    · rename_i hagent
      rw [agentIssues, agentIssues, headerIssues, headerIssues, h (Or.inr hagent)]
    · rfl

/-- Texts of skills and agents are files in the directories that belong to the compiler. -/
theorem isManaged_of_document
    (h : isSkillPath Manifest.skillsDirectory path = true ∨
      isAgentPath Manifest.agentsDirectory path = true) :
  Bundle.isManaged (Text.segments path) = true
  := by
  have hbelow : ∀ {name : String} {isText : String → Bool}, name ∈ ownedDirectories →
      '/' ∉ name.toList → (below? (name ++ "/") path).any isText = true →
      Bundle.isManaged (Text.segments path) = true := by
    intro name isText hname hslash hany
    rw [below?] at hany
    split at hany
    · rename_i hstarts
      obtain ⟨rest, rfl⟩ := Text.startsWith_eq_true_iff.mp hstarts
      apply Bundle.isManaged_segments hname hslash
    · cases hany
  have hskills : "skills" ∈ ownedDirectories := by decide
  have hagents : "agents" ∈ ownedDirectories := by decide
  rcases h with hskill | hagent
  · apply hbelow hskills (by decide) hskill
  · apply hbelow hagents (by decide) hagent

/-- A file in none of the directories that belong to the compiler has no issues. -/
theorem documentIssues_of_not_isManaged (h : Bundle.isManaged (Text.segments path) = false) :
  documentIssues Manifest.skillsDirectory Manifest.agentsDirectory (path, s) = .ok []
  := by
  have hdocument : ¬ (isSkillPath Manifest.skillsDirectory path = true ∨
      isAgentPath Manifest.agentsDirectory path = true) := by
    intro hdocument
    rw [isManaged_of_document hdocument] at h
    cases h
  rw [not_or] at hdocument
  rw [documentIssues, if_neg hdocument.1, if_neg hdocument.2]

end Validation

namespace Compile.Parts

variable {profiles : List AgentProfile} {hooks : Value} {b : CompiledBundle} {as : List Document}
    {ss : List Skill}
  {hs : List Document} (h : Parts profiles hooks b as ss hs)

include h

/-- The texts of skills and agents are rendered with texts under some of the names of compiled
headers, if no two documents have one path. -/
theorem exists_render (hslash : ∀ s ∈ ss, '/' ∉ s.slug.toList) (hnodup : b.paths.Nodup)
    {x : Document} (hx : x ∈ b.documents)
    (htext : Validation.isSkillPath Manifest.skillsDirectory x.path = true ∨
      Validation.isAgentPath Manifest.agentsDirectory x.path = true) :
  ∃ entries texts body, x.content = Header.render entries body ∧
    Header.kept entries = Yaml.textEntries texts ∧ texts ≠ [] ∧
    (texts.map (·.1)).Sublist headerNames
  := by
  rcases h.document_cases hx with ⟨p, -, -, preloaded, body, hcontent⟩ | ⟨s, hs, hskill⟩ | hhooks
  · exact ⟨_, _, body, hcontent, Validation.kept_header p preloaded, List.cons_ne_nil _ _,
      Validation.agentTexts_sublist p preloaded⟩
  · have hcontent : x.content
        = Header.render [(.str "name", .str s.slug), (.str "description", .str s.description)]
          s.content := by
      rcases mem_skillDocuments hskill with ⟨-, hcontent⟩ | ⟨r, hr, hpath⟩
      · apply hcontent
      · -- A file beside the text of a skill that is at the path of the text would be the text.
        rw [hpath, isSkillPath_skillPath (hslash s hs),
          isAgentPath_eq_false (head?_skillPath s.slug r.1) (by decide)] at htext
        rcases htext with hfile | hagent
        · have hmem : (skillDocuments s).head (List.cons_ne_nil _ _) ∈ b.documents := by
            rw [h.documents_eq]
            apply List.mem_append_left
            apply List.mem_append_right
            exact List.mem_flatMap.mpr ⟨s, hs, List.head_mem _⟩
          have heq := List.inj_on_of_nodup_map hnodup hx hmem (by rw [hpath, hfile]; rfl)
          rw [heq]
          rfl
        · cases hagent
    have hkept : Header.kept [(.str "name", .str s.slug), (.str "description", .str s.description)]
        = Yaml.textEntries [("name", s.slug), ("description", s.description)] := rfl
    have hnames : (["name", "description"] : List String).Sublist headerNames := by decide
    exact ⟨_, _, s.content, hcontent, hkept, List.cons_ne_nil _ _, hnames⟩
  · rw [(mem_hooksDocument h.hooksDocument_eq hhooks).2.1] at htext
    rcases htext with hskill | hagent
    · cases hskill
    · cases hagent

/-- The texts of skills and agents have the same headers once they are read back, if no two
documents have one path. -/
theorem parse_unified_content (hslash : ∀ s ∈ ss, '/' ∉ s.slug.toList) (hnodup : b.paths.Nodup)
    {x : Document} (hx : x ∈ b.documents)
    (htext : Validation.isSkillPath Manifest.skillsDirectory x.path = true ∨
      Validation.isAgentPath Manifest.agentsDirectory x.path = true) :
  Header.parse (unified x.content) = Header.parse x.content
  := by
  obtain ⟨entries, texts, body, hcontent, hkept, hne, -⟩ := h.exists_render hslash hnodup hx htext
  rw [hcontent]
  apply Header.parse_unified_render hkept hne

end Compile.Parts

end AgentBundles
