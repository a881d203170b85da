import AgentBundles.Proofs.Compile.Division

/-!
# Routes

For an agent with an entry in a routing, a selected skill is kept if its category is listed in the
entry, or one that parents lead to from there. The parents of categories may be missing, undefined
or empty, and may run in circles; the climb from a category ends all the same, and stopping at the
first category that it meets again loses none.
-/

namespace AgentBundles

namespace Catalog

variable {c : Catalog} {category : String}

/-- The end of the climb from a category: all that parents lead to, each once and in the order of
the parents. -/
structure Climbed (c : Catalog) (category : String) (found : List String) : Prop where
  climbs : Relation.ReflTransGen c.Climbs [category] found
  ends : ∀ next, ¬ c.Climbs found next
  head?_eq : found.head? = some category
  nodup : found.Nodup
  isChain : found.IsChain c.HasParent
  mem_iff : ∀ k, k ∈ found ↔ c.LeadsUp category k

theorem climbed_lineage (c : Catalog) (category : String) :
  c.Climbed category (c.lineage category)
  := by
  obtain ⟨hclimbs, hends⟩ := climbs_lineage c category
  obtain ⟨top, hchain⟩ := exists_chain hclimbs
  exact ⟨hclimbs, hends, hchain.head?_eq, hchain.nodup, hchain.isChain,
    fun _ => hchain.mem_iff_leadsUp hends⟩

/-- No climb has more steps than there are categories. -/
theorem exists_not_climbs {run : Nat → List String} (hstart : run 0 = [category]) :
  ∃ n ≤ c.categories.length, ¬ c.Climbs (run n) (run (n + 1))
  := by
  by_contra! hsteps
  have hrun : ∀ n ≤ c.categories.length + 1,
      Relation.ReflTransGen c.Climbs [category] (run n) ∧ (run n).length = n + 1 := by
    intro n
    induction n with
    | zero =>
        intro _
        rw [hstart]
        exact ⟨Relation.ReflTransGen.refl, rfl⟩
    | succ n ih =>
        intro hn
        obtain ⟨hclimbs, hlength⟩ := ih (Nat.le_of_succ_le hn)
        have hstep := hsteps n (Nat.le_of_succ_le_succ hn)
        refine ⟨hclimbs.tail hstep, ?_⟩
        generalize run (n + 1) = next at hstep
        obtain ⟨-, -, -⟩ := hstep
        rw [List.length_append, hlength]
        rfl
  obtain ⟨hclimbs, hlength⟩ := hrun _ le_rfl
  obtain ⟨top, hchain⟩ := exists_chain hclimbs
  have hle := hchain.length_le
  omega

/-- With an entry for the agent, and if every identifier is that of a skill, the identifiers of
skills in covered categories are kept. -/
theorem relevant_eq_ok {routing : Routing} {agent : String} {categories ids : List String}
    (hentry : routing.get? agent = some categories) (hids : ∀ id ∈ ids, ∃ t, c.skill? id = some t) :
  routing.relevant c agent ids
    = .ok (ids.filter fun id => (c.skill? id).any fun t => Routing.covers c categories t.category)
  := by
  cases hrelevant : routing.relevant c agent ids with
  | ok relevant => rw [← Compile.relevant_eq_filter hentry hrelevant]
  | error unknown =>
      rw [Routing.relevant, hentry] at hrelevant
      rcases bind_eq_error_iff.mp hrelevant with hkept | ⟨kept, -, hkept⟩
      · obtain ⟨id, hid, hunknown⟩ := exists_of_mapM_eq_error hkept
        obtain ⟨t, ht⟩ := hids id hid
        rw [ht] at hunknown
        cases hunknown
      · cases hkept

/-- On every graph of parents, the climb from a category ends, and at its end all the categories are
found that parents lead to. A routing keeps the skills in whose lineage a category is listed for the
agent. -/
theorem lineage_complete (c : Catalog) (category : String) :
  (∀ run : Nat → List String, run 0 = [category] → ∃ n ≤ c.categories.length,
    ¬ c.Climbs (run n) (run (n + 1))) ∧ c.Climbed category (c.lineage category) ∧
    ∀ (routing : Routing) (agent : String) (categories ids : List String), routing.get? agent
      = some categories → (∀ id ∈ ids, ∃ t, c.skill? id = some t) →
      ∃ keep : String → Bool, routing.relevant c agent ids = .ok (ids.filter keep) ∧
        ∀ id t, c.skill? id = some t → (keep id = true ↔ ∃ k ∈ categories, c.LeadsUp t.category k)
  := by
  refine ⟨fun _ => exists_not_climbs, climbed_lineage c category, ?_⟩
  intro routing agent categories ids hentry hids
  refine ⟨_, relevant_eq_ok hentry hids, ?_⟩
  intro id t ht
  rw [ht, Option.any_some, Compile.covers_iff]

/-- A category with a parent. -/
def childOf (parent id : String) : Category := ⟨id, id, "", some parent, false, false, 0⟩

/-- Frameworks are below a circle of two categories, one of which goes by another name in its own
definition; the parent of tests has no name. -/
def circularCatalog : Catalog where
  version := "1.0.0"
  skills := [.ofRecord (frameworkRecord "react"), .ofRecord Compile.pytestRecord]
  categories := [("framework", childOf "web" "framework"), ("web", childOf "site" "pages"),
    ("site", childOf "web" "site"), ("testing", childOf "" "testing")]
  rules := []
  aliases := [("r", "react")]
  suggestedStacks := []

/-- The circle is run through once, and the site is found above frameworks but not above tests. -/
theorem lineage_complete_circular :
  circularCatalog.Climbed "framework" ["framework", "web", "site"] ∧
    ∃ keep : String → Bool,
      Routing.relevant [("styler", ["site"])] circularCatalog "styler" ["pytest", "r", "r"]
        = .ok (["pytest", "r", "r"].filter keep) ∧
      keep "r" = true ∧ keep "pytest" = false
  := by
  have hframework : circularCatalog.lineage "framework" = ["framework", "web", "site"] := by decide
  have htesting : circularCatalog.lineage "testing" = ["testing"] := by decide
  have hreact : circularCatalog.skill? "r" = some (.ofRecord (frameworkRecord "react")) := by decide
  have hpytest : circularCatalog.skill? "pytest"
      = some (.ofRecord Compile.pytestRecord) := by decide
  obtain ⟨-, hclimbed, hkeeps⟩ := lineage_complete circularCatalog "framework"
  obtain ⟨-, htests, -⟩ := lineage_complete circularCatalog "testing"
  obtain ⟨keep, hrelevant, hkeep⟩ :=
    hkeeps [("styler", ["site"])] "styler" ["site"] ["pytest", "r", "r"] rfl
    (by simp [hreact, hpytest])
  rw [hframework] at hclimbed
  rw [htesting] at htests
  refine ⟨hclimbed, keep, hrelevant, ?_, ?_⟩
  · rw [hkeep _ _ hreact]
    exact ⟨"site", List.mem_singleton_self _, (hclimbed.mem_iff "site").mp (by decide)⟩
  · rw [Bool.eq_false_iff, Ne, hkeep _ _ hpytest]
    rintro ⟨k, hk, hup⟩
    rw [List.mem_singleton] at hk
    subst hk
    have hmem := (htests.mem_iff "site").mpr hup
    revert hmem
    decide

end Catalog

end AgentBundles
