import AgentBundles.Compile.Bundle
import AgentBundles.Proofs.Catalog.Built
import AgentBundles.Proofs.Files.Paths
import AgentBundles.Proofs.Outcome

/-!
# What a digest tells apart

The digest of a bundle is taken over the bytes of the paths and contents of its documents, with a
zero byte after each. A zero character in a text has the same byte, so the bytes tell where the zero
characters are, but not which of them end a text: they are the same for two bundles exactly if the
same pieces stand between the zero characters. Bundles without zero characters are told apart; a
document with one can have the bytes of two documents.
-/

namespace AgentBundles

/-! ### Texts as bytes -/

namespace Text

/-- Different characters have different bytes. -/
theorem eq_of_flatMap_utf8EncodeChar_eq {cs ds : List Char}
    (h : cs.flatMap String.utf8EncodeChar = ds.flatMap String.utf8EncodeChar) :
  cs = ds
  := by
  have hbytes : (String.ofList cs).toByteArray = (String.ofList ds).toByteArray := by
    rw [String.toByteArray_ofList, String.toByteArray_ofList, List.utf8Encode, List.utf8Encode, h]
  have htexts := String.toByteArray_inj.mp hbytes
  apply String.ofList_injective htexts

theorem fields_injective {sep : Char} {cs ds : List Char} (h : fields sep cs = fields sep ds) :
  cs = ds
  := by
  rw [← intercalate_fields sep cs, h, intercalate_fields]

end Text

/-! ### Documents as bytes -/

namespace Document

/-- The path and the content of a document. -/
def texts (d : Document) : String × String := (d.path, d.content)

/-- The characters of a document that its digest is taken over. -/
def digestChars (d : Document) : List Char :=
    d.path.toList ++ '\x00' :: d.content.toList ++ ['\x00']

/-- The pieces of a document between zero characters: those of its path, then those of its
content. -/
def pieces (d : Document) : List (List Char) :=
  Text.fields '\x00' d.path.toList ++ Text.fields '\x00' d.content.toList

/-- Documents without zero characters in their paths and contents. -/
def ZeroFree (d : Document) : Prop := '\x00' ∉ d.path.toList ∧ '\x00' ∉ d.content.toList

theorem digestBytes_eq (d : Document) :
  d.digestBytes = d.digestChars.flatMap String.utf8EncodeChar
  := by
  have hzero : String.utf8EncodeChar '\x00' = [0] := by decide
  rw [digestBytes, digestChars, List.flatMap_append, List.flatMap_append, List.flatMap_cons,
    List.flatMap_singleton, hzero]
  rfl

theorem allDigestBytes_eq (ds : List Document) :
  allDigestBytes ds = (ds.flatMap digestChars).flatMap String.utf8EncodeChar
  := by
  rw [allDigestBytes, List.flatMap_assoc]
  apply List.flatMap_congr
  intro d _
  apply digestBytes_eq

/-- The pieces between the zero characters of documents are those of each, and an empty one at the
end. -/
theorem fields_flatMap_digestChars (ds : List Document) :
  Text.fields '\x00' (ds.flatMap digestChars) = ds.flatMap pieces ++ [[]]
  := by
  induction ds with
  | nil => rfl
  | cons d ds ih =>
      rw [List.flatMap_cons, digestChars, List.append_assoc, List.append_assoc, List.cons_append,
        List.singleton_append, Text.fields_append_sep, Text.fields_append_sep, ih,
        List.flatMap_cons, pieces, List.append_assoc, List.append_assoc]

/-- Documents have the same bytes exactly if the same pieces stand between their zero characters. -/
theorem allDigestBytes_eq_iff {ds ds' : List Document} :
  allDigestBytes ds = allDigestBytes ds' ↔ ds.flatMap pieces = ds'.flatMap pieces
  := by
  constructor
  · intro h
    rw [allDigestBytes_eq, allDigestBytes_eq] at h
    have hpieces := congrArg (Text.fields '\x00') (Text.eq_of_flatMap_utf8EncodeChar_eq h)
    rw [fields_flatMap_digestChars, fields_flatMap_digestChars] at hpieces
    apply List.append_cancel_right hpieces
  · intro h
    rw [allDigestBytes_eq, allDigestBytes_eq]
    congr 1
    apply Text.fields_injective
    rw [fields_flatMap_digestChars, fields_flatMap_digestChars, h]

theorem ZeroFree.pieces_eq {d : Document} (h : d.ZeroFree) :
  d.pieces = [d.path.toList, d.content.toList]
  := by
  rw [pieces, Text.fields_of_not_mem h.1, Text.fields_of_not_mem h.2]
  rfl

/-- Documents without zero characters have the same pieces exactly if they have the same paths and
contents. -/
theorem flatMap_pieces_eq_iff {ds ds' : List Document} (h : ∀ d ∈ ds, d.ZeroFree)
    (h' : ∀ d ∈ ds', d.ZeroFree) :
  ds.flatMap pieces = ds'.flatMap pieces ↔ ds.map texts = ds'.map texts
  := by
  induction ds generalizing ds' with
  | nil =>
      cases ds' with
      | nil => simp
      | cons d' ds' => simp [(h' d' List.mem_cons_self).pieces_eq]
  | cons d ds ih =>
      obtain ⟨hd, hds⟩ := List.forall_mem_cons.mp h
      cases ds' with
      | nil => simp [hd.pieces_eq]
      | cons d' ds' =>
          obtain ⟨hd', hds'⟩ := List.forall_mem_cons.mp h'
          simp [hd.pieces_eq, hd'.pieces_eq, ih hds hds', texts, and_assoc, String.toList_inj]

end Document

/-! ### Bundles -/

/-- The digest of a bundle is that of the bytes of its documents. They are the bytes of another
bundle exactly if the same pieces stand between the zero characters of both; for bundles without
zero characters that is exactly if the documents have the same paths and contents in the same
order. -/
theorem digestBytes_eq_iff (b b' : CompiledBundle) :
  b.digest = Sha256.digest (Document.allDigestBytes b.documents) ∧
    (Document.allDigestBytes b.documents = Document.allDigestBytes b'.documents
      ↔ b.documents.flatMap Document.pieces = b'.documents.flatMap Document.pieces) ∧
    ((∀ d ∈ b.documents, d.ZeroFree) → (∀ d ∈ b'.documents, d.ZeroFree) →
      (Document.allDigestBytes b.documents = Document.allDigestBytes b'.documents
        ↔ b.documents.map Document.texts = b'.documents.map Document.texts))
  := by
  refine ⟨rfl, Document.allDigestBytes_eq_iff, ?_⟩
  intro h h'
  rw [Document.allDigestBytes_eq_iff, Document.flatMap_pieces_eq_iff h h']

/-! ### A framework with files -/

/-- A matrix without relations. -/
def bareMatrix : Record.Matrix :=
  { Catalog.frameworkMatrix with
    relations := { Catalog.frameworkMatrix.relations with conflicts := [] } }

/-- A framework with files beside its text. -/
def filedRecord (files : Table String) : Record.Skill :=
  { Catalog.frameworkRecord "react" with resources := files }

/-- A catalog with one framework that has files beside its text. -/
def filed (files : Table String) : Catalog where
  version := "1.0.0"
  skills := [.ofRecord (filedRecord files)]
  categories := []
  rules := []
  aliases := [("r", "react")]
  suggestedStacks := []

/-- The text of a framework. -/
def frameworkText : Document where
  path := "skills/react/SKILL.md"
  content :=
    Header.render [(.str "name", .str "react"), (.str "description", .str "A framework")] "Use it."
  contributors := ["react"]

/-- The text of a framework and the files beside it. -/
def filedDocuments (files : Table String) : List Document :=
  frameworkText :: files.map fun f => ⟨Compile.skillPath "react" f.1, f.2, ["react"]⟩

/-- Files in the order of their names are compiled in that order. -/
theorem skillDocuments_filed {files : Table String}
    (h : files.Pairwise fun f g => Text.le f.1 g.1 = true) :
  Compile.skillDocuments (.ofRecord (filedRecord files)) = filedDocuments files
  := by
  have hslug : (Skill.ofRecord (filedRecord files)).slug = "react" := by
    change Slug.ofId "react" = "react"
    decide +kernel
  have hsorted :
      ((Skill.ofRecord (filedRecord files)).resources.mergeSort fun f g => Text.le f.1 g.1)
      = files :=
    List.mergeSort_of_pairwise h
  rw [Compile.skillDocuments, hslug, hsorted]
  rfl

theorem bundle_filed {files : Table String} (h : files.Pairwise fun f g => Text.le f.1 g.1 = true) :
  Compile.bundle (filed files) ⟨.ofList ["react"], []⟩ [] [] "kit" [] .null
    = .ok ⟨"kit", filedDocuments files, []⟩
  := by
  have hids :
      Text.distinct ((Selection.ofList ["react"]).ids ++ ([] : List AgentCompilation).flatMap
      fun a => a.document.contributors) = ["react"] := rfl
  have hskills : Compile.skills (filed files) [] ["react"] = .ok [.ofRecord (filedRecord files)] :=
    rfl
  have hhooks : Compile.hooksDocument .null = .ok [] := rfl
  rw [Compile.bundle, Compile.agents, ok_bind, hids]
  dsimp only
  rw [hskills, ok_bind, hhooks, ok_bind, List.flatMap_singleton, skillDocuments_filed h,
    List.append_nil]
  rfl

/-- The bundles of a framework with one file and with another one are told apart. -/
theorem digestBytes_eq_iff_filed :
  ∃ b b', Compile.bundle (filed [("a.md", "x")]) ⟨.ofList ["react"], []⟩ [] [] "kit" [] .null
    = .ok b ∧ Compile.bundle (filed [("b.md", "x")]) ⟨.ofList ["react"], []⟩ [] [] "kit" [] .null
      = .ok b' ∧
    (∀ d ∈ b.documents, d.ZeroFree) ∧ (∀ d ∈ b'.documents, d.ZeroFree) ∧
    Document.allDigestBytes b.documents ≠ Document.allDigestBytes b'.documents
  := by
  have hfree : ∀ name ∈ ["a.md", "b.md"], ∀ d ∈ filedDocuments [(name, "x")], d.ZeroFree := by
    unfold Document.ZeroFree
    decide +kernel
  have hfree₁ := hfree "a.md" (by decide)
  have hfree₂ := hfree "b.md" (by decide)
  refine ⟨_, _, bundle_filed (List.pairwise_singleton _ _),
    bundle_filed (List.pairwise_singleton _ _), hfree₁, hfree₂, ?_⟩
  intro heq
  have htexts := ((digestBytes_eq_iff ⟨"kit", _, []⟩ ⟨"kit", _, []⟩).2.2 hfree₁ hfree₂).mp heq
  have hnames : "skills/react/a.md" = "skills/react/b.md" :=
    congrArg (fun ts => (ts.getD 1 ("", "")).1) htexts
  revert hnames
  decide

/-- A bundle of two documents has the bytes of one of three documents, because one of the two has
zero characters. -/
theorem digestBytes_eq_of_zeros :
  ∃ c c' b b', Catalog.build bareMatrix [filedRecord [("a.md", "x\x00skills/react/b.md\x00y")]]
    = .ok c ∧ Catalog.build bareMatrix [filedRecord [("a.md", "x"), ("b.md", "y")]] = .ok c' ∧
    Compile.bundle c ⟨.ofList ["react"], []⟩ [] [] "kit" [] .null = .ok b ∧
    Compile.bundle c' ⟨.ofList ["react"], []⟩ [] [] "kit" [] .null = .ok b' ∧
    b.documents.map Document.texts ≠ b'.documents.map Document.texts ∧
    Document.allDigestBytes b.documents = Document.allDigestBytes b'.documents
  := by
  refine ⟨_, _, _, _, rfl, rfl, bundle_filed (List.pairwise_singleton _ _),
    bundle_filed (by decide), ?_, ?_⟩
  · intro heq
    have hlength : 2 = 3 := congrArg List.length heq
    cases hlength
  · apply Document.allDigestBytes_eq_iff.mpr
    rw [filedDocuments, filedDocuments, List.flatMap_cons, List.flatMap_cons, List.append_right_inj]
    decide

end AgentBundles
