import AgentBundles.Proofs.Bundle.Stored
import AgentBundles.Proofs.Json.Characters
import Mathlib.Data.List.TakeWhile

/-!
# Bundles that can be encoded

A bundle that may hold surrogates is written if its paths and texts can all be encoded, and then as
one of texts of Unicode is. A path that cannot be encoded changes no file; a text does, since it is
encoded once the texts before it are written.
-/

namespace AgentBundles

/-! ### Texts that can be encoded -/

namespace Text.Encoding

variable {e : Encoding} {s : String}

/-- A text can be encoded if each of its characters can. -/
theorem fault?_eq_none_iff :
  e.fault? s = none ↔ ∀ c ∈ s.toList, e.has c = true
  := by
  rw [fault?]
  constructor
  · intro h
    cases hrest : s.toList.dropWhile e.has with
    | nil =>
        have hall : s.toList.all e.has = true := by
          rw [← List.takeWhile_append_dropWhile (p := e.has) (l := s.toList), hrest,
            List.append_nil]
          apply List.all_takeWhile
        apply List.all_eq_true.mp hall
    | cons c cs =>
        have hc := List.head?_dropWhile_not e.has s.toList
        rw [hrest] at hc h
        have hlacks : e.has c = false := hc
        rw [List.takeWhile_cons, hlacks, Bool.not_false, if_pos rfl] at h
        cases h
  · intro h
    rw [List.dropWhile_eq_nil_iff.mpr h]
    rfl

theorem utf8_has_of_lt {c : Char} (h : c.toNat < 0xDF800) :
  utf8.has c = true
  := by
  rw [has, Bool.not_eq_true', Bool.eq_false_iff, ne_eq, isLone_eq_true_iff]
  omega

/-- What values are written with can be encoded. -/
theorem utf8_fault?_of_isWritten (h : ∀ c ∈ s.toList, Json.IsWritten c) :
  utf8.fault? s = none
  := by
  rw [fault?_eq_none_iff]
  intro c hc
  apply utf8_has_of_lt
  rcases h c hc with rfl | ⟨-, hle⟩
  · decide
  · omega

end Text.Encoding

/-- The text of a manifest can be encoded. -/
theorem Manifest.utf8_fault?_write (m : Manifest) :
  Text.Encoding.utf8.fault? m.write = none
  := by
  apply Text.Encoding.utf8_fault?_of_isWritten
  rw [write, String.toList_append, List.forall_mem_append]
  exact ⟨Json.isWritten_write _, List.all_iff_forall_prop.mp (by decide)⟩

namespace Bundle

open Disk Disk.Action Text

variable {root place : Place} {path s : String} {d d' : Disk} {b : Bundle} {p : FilePath}

/-! ### Paths and texts -/

theorem requireName_eq_ok_iff :
  requireName p = .ok () ↔ Encoding.fileName.fault? p.text = none
  := by
  rw [requireName]
  split
  · rename_i hp
    simp [hp]
  · rename_i f hp
    simp [hp]

theorem encodedTarget_eq_ok_iff :
  encodedTarget root path = .ok place
    ↔ Encoding.fileName.fault? ((FilePath.ofPlace root).append (.ofText path)).text = none ∧
      target root path = .ok place
  := by
  rw [encodedTarget, bind_eq_ok_iff]
  constructor
  · rintro ⟨_, hname, htarget⟩
    exact ⟨requireName_eq_ok_iff.mp hname, htarget⟩
  · rintro ⟨hname, htarget⟩
    exact ⟨(), requireName_eq_ok_iff.mpr hname, htarget⟩

/-- A text is encoded and written if it can be encoded. -/
theorem outcome_encodeText_eq_ok_iff :
  (encodeText place s).outcome d = (.ok (), d')
    ↔ Encoding.utf8.fault? s = none ∧ (writeText place s).outcome d = (.ok (), d')
  := by
  rw [encodeText]
  split
  · rename_i hs
    simp [hs]
  · rename_i f hs
    constructor
    · intro h
      obtain ⟨_, d₁, -, h⟩ := outcome_bind_eq_ok_iff.mp h
      cases h
    · rintro ⟨hnone, -⟩
      rw [hs] at hnone
      cases hnone

/-- A text that cannot be encoded leaves an empty file. -/
theorem outcome_encodeText_of_fault? {x : EncodingFault} (hx : Encoding.utf8.fault? s = some x)
    (h : (writeText place "").outcome d = (.ok (), d')) :
  (encodeText place s).outcome d = (.error (.text x), d')
  := by
  rw [encodeText, hx]
  exact outcome_bind_eq_error_iff.mpr (Or.inr ⟨(), d', h, rfl⟩)

/-- Encoding and writing a text changes the file at its place. -/
theorem confinedTo_encodeText (hplace : Writable place) (s : String) :
  Respects (ConfinedTo (· = place)) (encodeText place s)
  := by
  rw [encodeText]
  split
  · apply confinedTo_writeText hplace
  · refine respects_bind (R := ConfinedTo (· = place)) (fun _ _ _ => ConfinedTo.trans) ?_ ?_
    · apply confinedTo_writeText hplace
    · intro _
      apply respects_throw ConfinedTo.refl

/-- The file system alone can keep a text from being written to a place, or that it cannot be
encoded. -/
theorem failsOnly_encodeText (hplace : Writable place) (s : String) :
  FailsOnly (fun f => f.kind.isOfSystem = true ∨ ∃ x, Encoding.utf8.fault? s = some x ∧ f = .text x)
    (encodeText place s)
  := by
  have hwrite : ∀ s', FailsOnly (fun f => f.kind.isOfSystem = true ∨ ∃ x,
      Encoding.utf8.fault? s = some x ∧ f = .text x) (writeText place s') := by
    intro s' d e he
    exact Or.inl (failsOnly_writeText hplace s' d e he)
  rw [encodeText]
  split
  · apply hwrite
  · rename_i x hx
    apply failsOnly_bind (hwrite "")
    intro _ d e he
    cases he
    exact Or.inr ⟨x, hx, rfl⟩

theorem confined_encoding :
  Writer.encoding.Confined
  := by
  rw [Writer.encoding]
  constructor
  · intro root place path h
    apply (encodedTarget_eq_ok_iff.mp h).2
  · intro place s hplace
    apply confinedTo_encodeText hplace

/-! ### Bundles -/

/-- Bundles whose paths below a directory and whose texts can be encoded. -/
structure Encodes (b : Bundle) (root : Place) : Prop where
  names : ∀ f ∈ b.files,
    Encoding.fileName.fault? ((FilePath.ofPlace root).append (.ofText f.1)).text = none
  texts : ∀ f ∈ b.files, Encoding.utf8.fault? f.2 = none

/-- Paths that can be encoded have the targets that they have as texts of Unicode. -/
theorem targets_encoding_eq_ok_iff {ts : List (Place × String)} :
  Writer.encoding.targets b root = .ok ts
    ↔ (∀ f ∈ b.files, Encoding.fileName.fault? ((FilePath.ofPlace root).append (.ofText f.1)).text
      = none) ∧ Writer.plain.targets b root = .ok ts
  := by
  have hfile : ∀ (f : String × String) (t : Place × String),
      ((encodedTarget root f.1).map fun place => (place, f.2)) = .ok t
        ↔ Encoding.fileName.fault? ((FilePath.ofPlace root).append (.ofText f.1)).text = none ∧
          ((target root f.1).map fun place => (place, f.2)) = .ok t := by
    intro f t
    simp only [map_eq_ok_iff, encodedTarget_eq_ok_iff, and_assoc, exists_and_left]
  rw [Writer.targets, Writer.targets, mapM_eq_ok_iff, mapM_eq_ok_iff]
  simp only [Writer.encoding, Writer.plain, hfile, List.forall₂_and_left, List.mem_mergeSort]

/-- The texts of the targets are those of the files. -/
theorem forall_targets_iff {ts : List (Place × String)} (h : Writer.plain.targets b root = .ok ts)
    (P : String → Prop) :
  (∀ t ∈ ts, P t.2) ↔ ∀ f ∈ b.files, P f.2
  := by
  have htexts : ts.map (·.2) = (b.files.mergeSort fun f g => Text.le f.1 g.1).map (·.2) := by
    rw [← List.forall₂_eq_eq_eq, List.forall₂_map_left_iff, List.forall₂_map_right_iff]
    apply (mapM_eq_ok_iff.mp h).flip.imp
    intro t f ht
    obtain ⟨place, -, rfl⟩ := map_eq_ok_iff.mp ht
    rfl
  rw [← List.forall_mem_map, htexts, List.forall_mem_map]
  simp only [List.mem_mergeSort]

/-- Texts are all encoded and written if they can all be encoded. -/
theorem outcome_forM_encodeText_eq_ok_iff {ts : List (Place × String)} :
  (ts.forM fun t => encodeText t.1 t.2).outcome d = (.ok (), d')
    ↔ (∀ t ∈ ts, Encoding.utf8.fault? t.2 = none) ∧
      (ts.forM fun t => writeText t.1 t.2).outcome d = (.ok (), d')
  := by
  induction ts generalizing d with
  | nil => simp
  | cons t ts ih =>
      rw [List.forall_mem_cons]
      constructor
      · intro h
        obtain ⟨_, d₁, hfirst, hrest⟩ := outcome_bind_eq_ok_iff.mp h
        obtain ⟨ht, hfirst⟩ := outcome_encodeText_eq_ok_iff.mp hfirst
        obtain ⟨hts, hrest⟩ := ih.mp hrest
        exact ⟨⟨ht, hts⟩, outcome_bind_eq_ok_iff.mpr ⟨(), d₁, hfirst, hrest⟩⟩
      · rintro ⟨⟨ht, hts⟩, h⟩
        obtain ⟨_, d₁, hfirst, hrest⟩ := outcome_bind_eq_ok_iff.mp h
        exact outcome_bind_eq_ok_iff.mpr
          ⟨(), d₁, outcome_encodeText_eq_ok_iff.mpr ⟨ht, hfirst⟩, ih.mpr ⟨hts, hrest⟩⟩

/-- A bundle is encoded and written if it can be encoded, and then as one of texts of Unicode is. -/
theorem encodeTo_eq_ok_iff :
  (b.encodeTo p).outcome d = (.ok (), d')
    ↔ b.Encodes (d.resolve p) ∧ (b.writeTo p).outcome d = (.ok (), d')
  := by
  have hfill : ∀ d₁, (Writer.encoding.fill b (d.resolve p)).outcome d₁ = (.ok (), d')
      ↔ b.Encodes (d.resolve p) ∧ (Writer.plain.fill b (d.resolve p)).outcome d₁
        = (.ok (), d') := by
    intro d₁
    rw [Writer.fill_eq_ok_iff, Writer.fill_eq_ok_iff]
    constructor
    · rintro ⟨ts, hts, h⟩
      obtain ⟨hnames, hts⟩ := targets_encoding_eq_ok_iff.mp hts
      obtain ⟨htexts, h⟩ := outcome_forM_encodeText_eq_ok_iff.mp h
      exact ⟨⟨hnames, (forall_targets_iff hts (Encoding.utf8.fault? · = none)).mp htexts⟩,
        ts, hts, h⟩
    · rintro ⟨hencodes, ts, hts, h⟩
      refine ⟨ts, targets_encoding_eq_ok_iff.mpr ⟨hencodes.names, hts⟩, ?_⟩
      exact outcome_forM_encodeText_eq_ok_iff.mpr
        ⟨(forall_targets_iff hts (Encoding.utf8.fault? · = none)).mpr hencodes.texts, h⟩
  rw [encodeTo, writeTo, Writer.store_eq_ok_iff, Writer.store_eq_ok_iff]
  simp only [hfill]
  constructor
  · rintro ⟨d₁, hmake, hencodes, h⟩
    exact ⟨hencodes, d₁, hmake, h⟩
  · rintro ⟨hencodes, d₁, hmake, h⟩
    exact ⟨d₁, hmake, hencodes, h⟩

/-- A bundle that could not be encoded and written has changed no file, unless the file system
failed or a text could not be encoded. -/
theorem of_encodeTo_eq_error {e : StorageFault} (hd : d.Sound) (hp : p.Proper)
    (h : (b.encodeTo p).outcome d = (.error e, d')) :
  ConfinedTo (fun _ => False) d d' ∨ e.kind.isOfSystem = true ∨
    ∃ f ∈ b.files, ∃ x, Encoding.utf8.fault? f.2 = some x ∧ e = .text x
  := by
  rcases Writer.of_store_eq_error hd hp h with hconfined | ⟨hroot, d₁, hconfined, hfill⟩
  · exact Or.inl hconfined
  · rcases Writer.of_fill_eq_error hfill with rfl | ⟨ts, hts, t, ht, d₂, d₃, hput⟩
    · exact Or.inl hconfined
    · have hwritable := confined_encoding.writable_of_mem_targets hroot hts t ht
      apply Or.inr ((failsOnly_encodeText hwritable t.2 d₂ e (congrArg Prod.fst hput)).imp_right _)
      rintro ⟨x, hx, rfl⟩
      obtain ⟨f, hf, -, heq⟩ := (Writer.mem_targets hts).mp ht
      rw [← heq] at hx
      exact ⟨f, hf, x, hx, rfl⟩

end Bundle

end AgentBundles
