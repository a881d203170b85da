import AgentBundles.Proofs.Files.Actions

/-!
# Directories that can be made

If no file is in the way, a directory can be made at a place, with those above it, and nothing else
is made. A text can be written to a place in a directory.
-/

namespace AgentBundles

/-! ### Paths of places -/

theorem FilePath.text_ofPlace (place : Place) :
  (FilePath.ofPlace place).text = "/" ++ Text.join "/" place
  := rfl

/-- A place has no longer path than a place below it. -/
theorem FilePath.size_text_ofPlace_le (front rest : Place) :
  (FilePath.ofPlace front).text.utf8ByteSize ≤ (FilePath.ofPlace (front ++ rest)).text.utf8ByteSize
  := by
  have hjoin := Text.size_join_le_append "/" front rest
  rw [text_ofPlace, text_ofPlace, String.utf8ByteSize_append, String.utf8ByteSize_append]
  omega

theorem FilePath.parent_ofPlace_concat (front : Place) (name : String) :
  (FilePath.ofPlace (front ++ [name])).parent = .ofPlace front
  := by
  rw [parent, ofPlace, List.dropLast_concat]
  rfl

namespace Disk

open Disk.Action

variable {d : Disk} {place : Place}

/-! ### Following the path of a place -/

/-- A path leads to a place if there is a directory right above it. -/
theorem walk_ofPlace_of_parent {name : String} (hd : d.tree.Sound)
    (hparent : d.tree.get? place = some .directory) (hname : IsName name)
    (hshort : (FilePath.ofPlace (place ++ [name])).text.utf8ByteSize ≤ longestPath) :
  d.walk (.ofPlace (place ++ [name])) = .ok (place ++ [name])
  := by
  have hfold : place.foldlM d.enter [] = .ok ([] ++ place) := foldlM_enter_of_get? hd hparent
  have henter : d.enter place name = .ok (place ++ [name]) := by
    rw [enter_eq_ok_iff]
    refine ⟨hparent, hname.short, ?_⟩
    rw [FilePath.enter, beq_eq_false_iff_ne.mpr hname.ne_up, if_neg Bool.false_ne_true]
  rw [walk_eq_ok_iff]
  refine ⟨hshort, ?_⟩
  change (place ++ [name]).foldlM d.enter [] = _
  rw [List.foldlM_append, hfold, ok_bind, List.nil_append, List.foldlM_cons, henter]
  rfl

/-- Names that no file is at lead nowhere if what is right above the last one is missing. -/
theorem foldlM_enter_missing {here names : Place} {name : String} (hnames : ∀ n ∈ names, IsName n)
    (hfile : ∀ front, front <+: names → ∀ c, ¬ d.HasFile (here ++ front) c)
    (hnone : d.tree.get? (here ++ names) = none) :
  (names ++ [name]).foldlM d.enter here = .error .missing
  := by
  induction names generalizing here with
  | nil =>
      rw [List.append_nil] at hnone
      rw [List.nil_append, List.foldlM_cons, enter, hnone]
      rfl
  | cons n names ih =>
      obtain ⟨hn, hnames⟩ := List.forall_mem_cons.mp hnames
      rw [List.cons_append, List.foldlM_cons]
      cases hhere : d.tree.get? here with
      | none =>
          rw [enter, hhere]
          rfl
      | some node =>
          cases node with
          | file c =>
              have hnot := hfile [] List.nil_prefix c
              rw [List.append_nil] at hnot
              exact absurd hhere hnot
          | directory =>
              have henter : d.enter here n = .ok (here ++ [n]) := by
                rw [enter_eq_ok_iff]
                refine ⟨hhere, hn.short, ?_⟩
                rw [FilePath.enter, beq_eq_false_iff_ne.mpr hn.ne_up, if_neg Bool.false_ne_true]
              rw [henter, ok_bind]
              apply ih hnames
              · intro front hfront c
                rw [List.append_assoc]
                apply hfile _ (List.cons_prefix_cons.mpr ⟨rfl, hfront⟩)
              · rw [List.append_assoc]
                apply hnone

/-! ### Making directories -/

/-- No file is at a place or above it. -/
def Unblocked (d : Disk) (place : Place) : Prop :=
  ∀ front, front <+: place → ∀ c, ¬ d.HasFile front c

/-- From one disk to another, directories are made at a place and above it, and nothing else is. -/
structure MakesAbove (place : Place) (d d' : Disk) : Prop where
  sound : d'.Sound
  grown : Grown d d'
  made : d'.tree.get? place = some .directory
  above : ∀ {q : Place}, d'.tree.get? q = some .directory → d.tree.get? q = some .directory ∨
    q <+: place

theorem makesAbove_of_directory (hd : d.Sound) (h : d.tree.get? place = some .directory) :
  MakesAbove place d d
  := ⟨hd, Grown.refl d, h, Or.inl⟩

/-- A directory is made in another one. -/
theorem MakesAbove.insert {name : String} {d₁ : Disk} (h : MakesAbove place d d₁)
    (hnone : d.tree.get? (place ++ [name]) = none) (hnames : ∀ n ∈ place ++ [name], IsName n)
    (hshort : (FilePath.ofPlace (place ++ [name])).text.utf8ByteSize ≤ longestPath) :
  ∃ d₂, d₁.makeOne (.ofPlace (place ++ [name])) = .ok d₂ ∧ MakesAbove (place ++ [name]) d d₂
  := by
  have hne : place ++ [name] ≠ [] := List.concat_ne_nil name place
  have hnone₁ : d₁.tree.get? (place ++ [name]) = none := by
    rw [Option.eq_none_iff_forall_ne_some]
    intro node hnode
    rcases h.grown.made hnode with hold | rfl
    · rw [hnone] at hold
      cases hold
    · rcases h.above hnode with hold | habove
      · rw [hnone] at hold
        cases hold
      · exact concat_not_above place name habove
  have hwalk := walk_ofPlace_of_parent h.sound.tree h.made (hnames name (by simp)) hshort
  refine ⟨d₁.withTree (d₁.tree.insert (place ++ [name]) .directory), ?_, ?_⟩
  · rw [makeOne, hwalk, ok_bind, hnone₁, List.dropLast_concat, h.made]
    rfl
  · constructor
    · apply h.sound.withTree_insert hne hnames _ (Or.inl rfl)
      rw [List.dropLast_concat]
      apply h.made
    · apply h.grown.trans (grown_withTree_insert hnone₁)
    · rw [withTree, Tree.get?_insert_self hne]
    · intro q hq
      by_cases heq : q = place ++ [name]
      · rw [heq]
        exact Or.inr (List.prefix_refl _)
      · rw [withTree, Tree.get?_insert_of_ne heq] at hq
        exact (h.above hq).imp_right fun habove => habove.trans (List.prefix_append _ _)

/-- Nothing is done for a place that is a directory. -/
theorem outcome_makeDirectories_of_directory (hd : d.Sound) (hnames : ∀ n ∈ place, IsName n)
    (hshort : (FilePath.ofPlace place).text.utf8ByteSize ≤ longestPath)
    (h : d.tree.get? place = some .directory) :
  (makeDirectories (.ofPlace place)).outcome d = (.ok (), d)
  := outcome_makeDirectories_of_leadsTo (FilePath.isPlain_ofPlace hnames)
    ⟨walk_ofPlace hd.tree h hshort, h⟩

/-- A directory that is missing with the one above it is made after that one. -/
theorem outcome_makeDirectories_of_missing {front : Place} {name : String} {d₁ d₂ : Disk}
    (hnames : ∀ n ∈ front ++ [name], IsName n)
    (hshort : (FilePath.ofPlace (front ++ [name])).text.utf8ByteSize ≤ longestPath)
    (hunblocked : d.Unblocked front) (hnone : d.tree.get? front = none)
    (hfront : (makeDirectories (.ofPlace front)).outcome d = (.ok (), d₁))
    (hlast : d₁.makeOne (.ofPlace (front ++ [name])) = .ok d₂) :
  (makeDirectories (.ofPlace (front ++ [name]))).outcome d = (.ok (), d₂)
  := by
  have hupper : ∀ n ∈ front, IsName n := fun n hn => hnames n (List.mem_append_left _ hn)
  have hwalk : d.walk (.ofPlace (front ++ [name])) = .error .missing := by
    have hfold : (front ++ [name]).foldlM d.enter [] = .error .missing :=
      foldlM_enter_missing hupper hunblocked hnone
    rw [walk, if_neg (Nat.not_lt.mpr hshort)]
    apply hfold
  have hmissing : d.makeOne (.ofPlace (front ++ [name])) = .error .missing := by
    rw [makeOne, hwalk]
    rfl
  have hne : (FilePath.ofPlace (front ++ [name])).names ≠ [] := List.concat_ne_nil name front
  rw [makeDirectories, if_pos (FilePath.isPlain_ofPlace hupper)] at hfront
  rw [makeDirectories, if_pos (FilePath.isPlain_ofPlace hnames), makeAll, outcome_bind_get,
    hmissing]
  dsimp only
  rw [dif_neg hne, FilePath.parent_ofPlace_concat]
  refine outcome_bind_eq_ok_iff.mpr ⟨(), d₁, hfront, ?_⟩
  rw [makeLast, outcome_change_eq_ok_iff, hlast]

/-- A directory can be made where no file is in the way. -/
theorem exists_makeDirectories (hd : d.Sound) (hnames : ∀ n ∈ place, IsName n)
    (hshort : (FilePath.ofPlace place).text.utf8ByteSize ≤ longestPath)
    (hunblocked : d.Unblocked place) :
  ∃ d', (makeDirectories (.ofPlace place)).outcome d = (.ok (), d') ∧ MakesAbove place d d'
  := by
  induction place using List.reverseRecOn with
  | nil =>
      exact ⟨d, outcome_makeDirectories_of_directory hd hnames hshort rfl,
        makesAbove_of_directory hd rfl⟩
  | append_singleton front name ih =>
      have hupper : ∀ n ∈ front, IsName n := fun n hn => hnames n (List.mem_append_left _ hn)
      have hshorter : (FilePath.ofPlace front).text.utf8ByteSize ≤ longestPath :=
        Nat.le_trans (FilePath.size_text_ofPlace_le front [name]) hshort
      have hfree : d.Unblocked front := fun q hq => hunblocked q (hq.trans (List.prefix_append _ _))
      cases hplace : d.tree.get? (front ++ [name]) with
      | some node =>
          cases node with
          | file c => exact absurd hplace (hunblocked _ (List.prefix_refl _) c)
          | directory =>
              have hnothing := outcome_makeDirectories_of_directory hd hnames hshort hplace
              exact ⟨d, hnothing, makesAbove_of_directory hd hplace⟩
      | none =>
          cases hfront : d.tree.get? front with
          | some node =>
              cases node with
              | file c => exact absurd hfront (hfree _ (List.prefix_refl _) c)
              | directory =>
                  obtain ⟨d₂, hlast, hmade⟩ :=
                    (makesAbove_of_directory hd hfront).insert hplace hnames hshort
                  have hone :=
                    outcome_makeDirectories_of_makeOne (FilePath.isPlain_ofPlace hnames) hlast
                  exact ⟨d₂, hone, hmade⟩
          | none =>
              obtain ⟨d₁, hfirst, habove⟩ := ih hupper hshorter hfree
              obtain ⟨d₂, hlast, hmade⟩ := habove.insert hplace hnames hshort
              exact ⟨d₂, outcome_makeDirectories_of_missing hnames hshort hfree hfront hfirst hlast,
                hmade⟩

/-! ### Writing -/

/-- A text can be written to a place in a directory, unless there is a directory. -/
theorem write_ofPlace_eq_ok {name s : String} (hd : d.tree.Sound)
    (hnames : ∀ n ∈ place ++ [name], IsName n)
    (hshort : (FilePath.ofPlace (place ++ [name])).text.utf8ByteSize ≤ longestPath)
    (hparent : d.tree.get? place = some .directory)
    (hplace : d.tree.get? (place ++ [name]) ≠ some .directory) :
  d.write (.ofPlace (place ++ [name])) s
    = .ok (d.withTree (d.tree.insert (place ++ [name]) (.file (.text s))))
  := by
  have hwalk := walk_ofPlace_of_parent hd hparent (hnames name (by simp)) hshort
  rw [write, FilePath.isPlain_ofPlace hnames, Bool.not_true, if_neg Bool.false_ne_true, hwalk]
  dsimp only
  rw [List.dropLast_concat, hparent]
  cases hnode : d.tree.get? (place ++ [name]) with
  | none => rfl
  | some node =>
      cases node with
      | directory => exact absurd hnode hplace
      | file c => rfl

end Disk

end AgentBundles
