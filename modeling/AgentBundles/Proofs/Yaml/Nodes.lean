import AgentBundles.Proofs.Yaml.Tokens

/-!
# The nodes of a mapping

The document that the tokens of a mapping of texts describe: the mapping is its first node, and the
key and the value of each entry follow as nodes of their own.
-/

namespace AgentBundles.Yaml

/-- The node of a text. -/
def textNode (text : String) : Node := ⟨.str, .scalar text⟩

/-- An entry as it is read. -/
def entryBack (e : String × String) : String × String :=
  (readBack (isSimpleKey (.str e.1)) e.1, readBack false e.2)

/-- The nodes of the keys and values of entries. -/
def entryNodes (entries : List (String × String)) : List Node :=
  entries.flatMap fun e => [textNode e.1, textNode e.2]

/-- The numbers of the keys and values of entries, of which the first one is `n`. -/
def entryNumbers : Nat → List (String × String) → List (Nat × Nat)
  | _, [] => []
  | n, _ :: entries => (n, n + 1) :: entryNumbers (n + 2) entries

/-- The document of a mapping of texts. -/
def mappingDocument (entries : List (String × String)) : Document where
  nodes := (⟨.map, .mapping (entryNumbers 1 entries)⟩ :: entryNodes entries).toArray
  root := 0

namespace Supply

variable {s : Supply} {handles : Handles} {rest : List Token}

/-- A written text is made into the node of a text. -/
theorem makeOptional_written {isKey : Bool} {text : String} {enders : List Token}
    (h : s.tokens = writtenToken isKey text :: rest) (henders : enders = [.key, .value, .blockEnd])
    (fuel : Nat) :
  makeOptional handles true true enders (fuel + 2) s
    = .ok (s.nodes.size, ⟨rest, s.anchors, s.nodes.push (textNode (readBack isKey text))⟩)
  := by
  have hsees : s.seesOneOf enders = false := by
    rw [henders]
    simp [seesOneOf, sees, h, writtenToken]
  have hproperties : readProperties handles s = .ok (⟨none, none⟩, s) := by
    rw [readProperties, h]
    rfl
  have hentry : s.sees .blockEntry = false := by
    simp [sees, h, writtenToken]
  rw [makeOptional, hsees, if_neg Bool.false_ne_true, makeNode]
  rw [writtenToken] at h
  simp only [h, hproperties, ok_bind, hentry, scalarTag_written, Option.map_none, Option.getD_none,
    Bool.and_false, Bool.false_eq_true, if_false]
  rw [add, next, h]
  rfl

/-- The entries of a mapping of texts are made up to its end. -/
theorem makeBlockEntries_entryTokens {entries : List (String × String)} {fuel : Nat}
    (h : s.tokens = entries.flatMap entryTokens ++ .blockEnd :: rest)
    (hfuel : entries.length + 4 ≤ fuel) :
  makeBlockEntries handles fuel s
    = .ok (entryNumbers s.nodes.size entries,
        ⟨rest, s.anchors, s.nodes ++ (entryNodes (entries.map entryBack)).toArray⟩)
  := by
  induction entries generalizing s fuel with
  | nil =>
      obtain ⟨fuel, rfl⟩ := Nat.exists_eq_succ_of_ne_zero (by omega : fuel ≠ 0)
      have hkey : s.sees .key = false := by
        simp [sees, h]
      have hend : s.sees .blockEnd = true := by
        simp [sees, h]
      rw [makeBlockEntries, hkey, hend, if_neg Bool.false_ne_true, if_pos rfl, next, h]
      simp [entryNumbers, entryNodes]
  | cons e entries ih =>
      obtain ⟨fuel, rfl⟩ : ∃ n, fuel = n + 4 := ⟨fuel - 4, by omega⟩
      have htokens : s.tokens = .key :: writtenToken (isSimpleKey (.str e.1)) e.1 :: .value ::
          writtenToken false e.2 :: (entries.flatMap entryTokens ++ .blockEnd :: rest) := by
        rw [h, List.flatMap_cons, entryTokens]
        rfl
      have hkey : s.sees .key = true := by
        simp [sees, htokens]
      have hnext : s.next.tokens = writtenToken (isSimpleKey (.str e.1)) e.1 :: .value ::
          writtenToken false e.2 :: (entries.flatMap entryTokens ++ .blockEnd :: rest) := by
        rw [next, htokens]
        rfl
      -- The supply after the key, and the one after the value.
      let keyed : Supply :=
        ⟨.value :: writtenToken false e.2 :: (entries.flatMap entryTokens ++ .blockEnd :: rest),
        s.anchors, s.nodes.push (textNode (entryBack e).1)⟩
      let valued : Supply := ⟨entries.flatMap entryTokens ++ .blockEnd :: rest, s.anchors,
        (s.nodes.push (textNode (entryBack e).1)).push (textNode (entryBack e).2)⟩
      have hkeyed : makeOptional handles true true [.key, .value, .blockEnd] (fuel + 3) s.next
          = .ok (s.nodes.size, keyed) := makeOptional_written hnext rfl (fuel + 1)
      have hvalued : makeValue handles true [.key, .value, .blockEnd] (fuel + 3) keyed
          = .ok (s.nodes.size + 1, valued) := by
        have hsees : keyed.sees .value = true := rfl
        rw [makeValue, hsees, if_pos rfl, makeOptional_written (s := keyed.next) rfl rfl fuel]
        simp [keyed, valued, next, entryBack]
      have hfuel' : entries.length + 4 ≤ fuel + 3 := by
        rw [List.length_cons] at hfuel
        omega
      have hrest := ih (s := valued) rfl hfuel'
      rw [makeBlockEntries, hkey, if_pos rfl, hkeyed]
      simp only [ok_bind]
      rw [hvalued]
      simp only [ok_bind]
      rw [hrest]
      simp [valued, entryNumbers, entryNodes]

end Supply

/-- Numbers do not depend on the texts. -/
theorem entryNumbers_map (n : Nat) (f : String × String → String × String)
    (entries : List (String × String)) :
  entryNumbers n (entries.map f) = entryNumbers n entries
  := by
  induction entries generalizing n with
  | nil => rfl
  | cons e entries ih => rw [List.map_cons, entryNumbers, entryNumbers, ih]

theorem length_le_length_entryTokens (entries : List (String × String)) :
  entries.length ≤ (entries.flatMap entryTokens).length
  := by
  induction entries with
  | nil => apply Nat.le_refl
  | cons e entries ih =>
      rw [List.flatMap_cons, List.length_append, List.length_cons, entryTokens]
      simp only [List.length_cons, List.length_nil]
      omega

/-- The document of the tokens of a mapping of texts. -/
theorem makeDocument_mapping (entries : List (String × String)) :
  makeDocument (.blockMappingStart :: (entries.flatMap entryTokens ++ [.blockEnd]))
    = .ok (some (mappingDocument (entries.map entryBack)))
  := by
  let ts : List Token := .blockMappingStart :: (entries.flatMap entryTokens ++ [.blockEnd])
  let s : Supply := ⟨entries.flatMap entryTokens ++ [.blockEnd], [], #[⟨.map, .mapping []⟩]⟩
  have hlength : entries.length + 4 ≤ 4 * ts.length + 3 := by
    have hle := length_le_length_entryTokens entries
    simp only [ts, List.length_cons, List.length_append, List.length_nil]
    omega
  have hentries : makeBlockEntries defaultHandles (4 * ts.length + 3) s
      = .ok (entryNumbers 1 entries,
        ⟨[], [], s.nodes ++ (entryNodes (entries.map entryBack)).toArray⟩) :=
    Supply.makeBlockEntries_entryTokens rfl hlength
  have hnode : makeNode defaultHandles true false (nodeFuel ts) ⟨ts, [], #[]⟩
      = .ok (0, ⟨[], [], (mappingDocument (entries.map entryBack)).nodes⟩) := by
    have hadd : Supply.add ⟨entries.flatMap entryTokens ++ [.blockEnd], [], #[]⟩ none
        ⟨.map, .mapping []⟩ = (0, s) := rfl
    have hproperties : readProperties defaultHandles ⟨ts, [], #[]⟩
        = .ok (⟨none, none⟩, ⟨ts, [], #[]⟩) := rfl
    rw [nodeFuel, makeNode]
    · simp only [hproperties, ok_bind, Option.map_none, Option.getD_none, Bool.false_and,
        Bool.false_eq_true, if_false]
      -- What is left is to make the entries, and to note them in the node of the mapping.
      have hmade : (do
          let made ← makeBlockEntries defaultHandles (4 * ts.length + 3) s
          return (0, made.2.complete 0 (.mapping made.1)) : Made (Nat × Supply))
          = .ok (0, ⟨[], [], (mappingDocument (entries.map entryBack)).nodes⟩) := by
        rw [hentries]
        simp [Supply.complete, s, mappingDocument, entryNumbers_map]
      apply hmade
  have hempty : List.isEmpty (.blockMappingStart :: (entries.flatMap entryTokens ++ [.blockEnd]))
      = false := rfl
  have hstarts : startsDocument (.blockMappingStart :: (entries.flatMap entryTokens ++ [.blockEnd]))
      = false := rfl
  rw [makeDocument, hempty]
  simp only [Bool.false_eq_true, if_false, hstarts]
  rw [hnode]
  rfl

end AgentBundles.Yaml
