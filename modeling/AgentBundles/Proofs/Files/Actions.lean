import AgentBundles.Files.Action
import AgentBundles.Proofs.Files.Disks

/-!
# What actions do to disks

The outcome of an action made of others, relations between the disks before and after an action, the
faults that an action can end with, and the directories that are there once they were made.
-/

namespace AgentBundles.Disk

namespace Action

variable {ε ε' α β : Type}

/-! ### Outcomes -/

theorem outcome_pure (x : α) (d : Disk) :
  (pure x : Action ε α).outcome d = (.ok x, d)
  := rfl

theorem outcome_look (f : Disk → Except ε α) (d : Disk) :
  (look f).outcome d = (f d, d)
  := rfl

theorem outcome_bind_get (f : Disk → Action ε α) (d : Disk) :
  ((get : Action ε Disk) >>= f).outcome d = (f d).outcome d
  := rfl

/-- An action after another one goes on with its result and the disk after it. -/
theorem outcome_bind (a : Action ε α) (f : α → Action ε β) (d : Disk) :
  (a >>= f).outcome d = match (a.outcome d).1 with
    | .ok x => (f x).outcome (a.outcome d).2
    | .error e => (.error e, (a.outcome d).2)
  := by
  change ExceptT.bindCont f (a d).1 (a d).2 = _
  rw [outcome]
  cases (a d).1 with
  | ok x => rfl
  | error e => rfl

theorem outcome_bind_eq_ok_iff {a : Action ε α} {f : α → Action ε β} {d d' : Disk} {y : β} :
  (a >>= f).outcome d = (.ok y, d') ↔ ∃ x d₁, a.outcome d = (.ok x, d₁) ∧
    (f x).outcome d₁ = (.ok y, d')
  := by
  rw [outcome_bind]
  obtain ⟨r, d₁⟩ := a.outcome d
  cases r with
  | ok x => simp
  | error e => simp

theorem outcome_bind_eq_error_iff {a : Action ε α} {f : α → Action ε β} {d d' : Disk} {e : ε} :
  (a >>= f).outcome d = (.error e, d')
    ↔ a.outcome d = (.error e, d') ∨ ∃ x d₁, a.outcome d = (.ok x, d₁) ∧
    (f x).outcome d₁ = (.error e, d')
  := by
  rw [outcome_bind]
  obtain ⟨r, d₁⟩ := a.outcome d
  cases r with
  | ok x => simp
  | error e => simp

theorem outcome_change_eq_ok_iff {f : Disk → Except ε Disk} {d d' : Disk} :
  (change f).outcome d = (.ok (), d') ↔ f d = .ok d'
  := by
  rw [outcome, change]
  cases f d with
  | ok d₁ => simp
  | error e => simp

/-- An action whose faults are seen as others does the same. -/
theorem outcome_adapt (f : ε → ε') (a : Action ε α) (d : Disk) :
  Action.outcome (ExceptT.adapt f a) d = ((a.outcome d).1.mapError f, (a.outcome d).2)
  := rfl

theorem outcome_adapt_eq_ok_iff {f : ε → ε'} {a : Action ε α} {d d' : Disk} {x : α} :
  Action.outcome (ExceptT.adapt f a) d = (.ok x, d') ↔ a.outcome d = (.ok x, d')
  := by
  rw [outcome_adapt]
  obtain ⟨r, d₁⟩ := a.outcome d
  cases r with
  | ok y => simp [Except.mapError]
  | error e => simp [Except.mapError]

theorem outcome_adapt_eq_error_iff {f : ε → ε'} {a : Action ε α} {d d' : Disk} {e' : ε'} :
  Action.outcome (ExceptT.adapt f a) d = (.error e', d') ↔ ∃ e, a.outcome d = (.error e, d') ∧
    f e = e'
  := by
  rw [outcome_adapt]
  obtain ⟨r, d₁⟩ := a.outcome d
  cases r with
  | ok y => simp [Except.mapError]
  | error e => simp [Except.mapError, and_comm]

/-! ### Disks before and after -/

/-- Whatever comes of an action, the disk before it is related to the disk after it. -/
def Respects (R : Disk → Disk → Prop) (a : Action ε α) : Prop :=
  ∀ d, R d (a.outcome d).2

variable {R : Disk → Disk → Prop}

theorem respects_throw (hrefl : ∀ d, R d d) (e : ε) :
  Respects R (throw e : Action ε α)
  := hrefl

theorem respects_change (hrefl : ∀ d, R d d) {f : Disk → Except ε Disk}
    (h : ∀ d d', f d = .ok d' → R d d') :
  Respects R (change f)
  := by
  intro d
  rw [outcome, change]
  cases hf : f d with
  | ok d' => apply h d d' hf
  | error e => apply hrefl

theorem respects_adapt {a : Action ε α} (f : ε → ε') (h : Respects R a) :
  Respects R (ExceptT.adapt f a : Action ε' α)
  := h

theorem respects_bind (htrans : ∀ d₁ d₂ d₃, R d₁ d₂ → R d₂ d₃ → R d₁ d₃) {a : Action ε α}
    {f : α → Action ε β} (ha : Respects R a) (hf : ∀ x, Respects R (f x)) :
  Respects R (a >>= f)
  := by
  intro d
  rw [outcome_bind]
  cases (a.outcome d).1 with
  | ok x => apply htrans _ _ _ (ha d) (hf x _)
  | error e => apply ha d

/-- An action that goes on with what was seen on the disk. -/
theorem respects_look_bind (hrefl : ∀ d, R d d) {f : Disk → Except ε α} {g : α → Action ε β}
    (h : ∀ d x, f d = .ok x → Respects R (g x)) :
  Respects R (look f >>= g)
  := by
  intro d
  rw [outcome_bind, outcome_look]
  cases hf : f d with
  | ok x => apply h d x hf d
  | error e => apply hrefl

theorem respects_forM (hrefl : ∀ d, R d d) (htrans : ∀ d₁ d₂ d₃, R d₁ d₂ → R d₂ d₃ → R d₁ d₃)
    {xs : List α} {f : α → Action ε PUnit} (h : ∀ x ∈ xs, Respects R (f x)) :
  Respects R (xs.forM f)
  := by
  induction xs with
  | nil => apply hrefl
  | cons x xs ih =>
      obtain ⟨hx, hxs⟩ := List.forall_mem_cons.mp h
      apply respects_bind htrans hx fun _ => ih hxs

/-! ### Faults -/

/-- An action ends with no other faults than these. -/
def FailsOnly (P : ε → Prop) (a : Action ε α) : Prop :=
  ∀ d e, (a.outcome d).1 = .error e → P e

variable {P : ε → Prop}

theorem failsOnly_bind {a : Action ε α} {f : α → Action ε β} (ha : FailsOnly P a)
    (hf : ∀ x, FailsOnly P (f x)) :
  FailsOnly P (a >>= f)
  := by
  intro d e h
  rw [outcome_bind] at h
  split at h
  · rename_i x _
    apply hf x _ e h
  · rename_i e' he
    cases h
    apply ha d e he

theorem failsOnly_adapt {Q : ε' → Prop} {a : Action ε α} {f : ε → ε'} (ha : FailsOnly P a)
    (hf : ∀ e, P e → Q (f e)) :
  FailsOnly Q (ExceptT.adapt f a : Action ε' α)
  := by
  intro d e' h
  rw [outcome_adapt] at h
  cases he : (a.outcome d).1 with
  | ok x =>
      rw [he] at h
      cases h
  | error e =>
      rw [he] at h
      cases h
      apply hf e (ha d e he)

theorem failsOnly_change {f : Disk → Except ε Disk} (h : ∀ d e, f d = .error e → P e) :
  FailsOnly P (change f)
  := by
  intro d e he
  rw [outcome, change] at he
  split at he
  · cases he
  · rename_i e' hf
    cases he
    apply h d e hf

theorem failsOnly_forM {xs : List α} {f : α → Action ε PUnit} (h : ∀ x ∈ xs, FailsOnly P (f x)) :
  FailsOnly P (xs.forM f)
  := by
  induction xs with
  | nil =>
      intro d e he
      cases he
  | cons x xs ih =>
      obtain ⟨hx, hxs⟩ := List.forall_mem_cons.mp h
      apply failsOnly_bind hx fun _ => ih hxs

end Action

open Disk.Action

/-! ### Making directories -/

variable {R : Disk → Disk → Prop} (hrefl : ∀ d, R d d)
    (htrans : ∀ d₁ d₂ d₃, R d₁ d₂ → R d₂ d₃ → R d₁ d₃)

include hrefl

theorem respects_makeLast {p : FilePath} (h : ∀ d d', d.makeOne p = .ok d' → R d d') :
  Respects R (makeLast p)
  := by
  apply respects_change hrefl
  intro d d' heq
  split at heq
  · rename_i hmake
    cases heq
    apply h d d' hmake
  · split at heq
    · cases heq
      apply hrefl
    · cases heq

include htrans

/-- What holds of making one directory holds of making all that are missing. -/
theorem respects_makeAll (p : FilePath)
    (h : ∀ q : FilePath, q.names <+: p.names → ∀ d d', d.makeOne q = .ok d' → R d d') :
  Respects R (makeAll p)
  := by
  intro d
  rw [makeAll, outcome_bind_get]
  split
  · split
    · apply hrefl
    · have hparent : Respects R (makeAll p.parent) := by
        apply respects_makeAll
        intro q hq
        apply h q (hq.trans (List.dropLast_prefix _))
      apply respects_bind htrans hparent
        (fun _ => respects_makeLast hrefl (h p (List.prefix_refl _))) d
  · apply respects_makeLast hrefl (h p (List.prefix_refl _))
termination_by p.names.length
decreasing_by
  rename_i hne
  rw [FilePath.parent, List.length_dropLast]
  exact Nat.sub_one_lt_of_lt (List.length_pos_iff.mpr hne)

theorem respects_makeDirectories {p : FilePath}
    (h : p.isPlain = true → ∀ q : FilePath, q.names <+: p.names → ∀ d d',
      d.makeOne q = .ok d' → R d d') :
  Respects R (makeDirectories p)
  := by
  rw [makeDirectories]
  split
  · rename_i hplain
    apply respects_makeAll hrefl htrans p (h hplain)
  · apply respects_throw hrefl

omit hrefl htrans

theorem failsOnly_makeLast (p : FilePath) :
  FailsOnly (fun f => ∃ cause text, f = .path cause text) (makeLast p)
  := by
  apply failsOnly_change
  intro d f hf
  split at hf
  · cases hf
  · split at hf
    · cases hf
    · cases hf
      exact ⟨_, _, rfl⟩

theorem failsOnly_makeAll (p : FilePath) :
  FailsOnly (fun f => ∃ cause text, f = .path cause text) (makeAll p)
  := by
  intro d f hf
  rw [makeAll, outcome_bind_get] at hf
  split at hf
  · split at hf
    · cases hf
      exact ⟨_, _, rfl⟩
    · have hparent := failsOnly_makeAll p.parent
      apply failsOnly_bind hparent (fun _ => failsOnly_makeLast p) d f hf
  · apply failsOnly_makeLast p d f hf
termination_by p.names.length
decreasing_by
  rename_i hne _
  rw [FilePath.parent, List.length_dropLast]
  exact Nat.sub_one_lt_of_lt (List.length_pos_iff.mpr hne)

/-- If no name of a path holds a zero character, the file system alone can keep its directories from
being made. -/
theorem failsOnly_makeDirectories {p : FilePath} (hplain : p.isPlain = true) :
  FailsOnly (fun f => ∃ cause text, f = .path cause text) (makeDirectories p)
  := by
  rw [makeDirectories, if_pos hplain]
  apply failsOnly_makeAll

/-- Making directories adds nothing but directories. -/
theorem grown_makeDirectories (p : FilePath) :
  Respects Grown (makeDirectories p)
  := by
  apply respects_makeDirectories Grown.refl fun _ _ _ => Grown.trans
  intro _ q _ d d' hmake
  obtain ⟨place, -, -, hnone, -, rfl⟩ := of_makeOne_eq_ok hmake
  apply grown_withTree_insert hnone

/-- Making directories changes no file. -/
theorem confinedTo_makeDirectories {P : Place → Prop} {p : FilePath} (hp : p.Proper) :
  Respects (ConfinedTo P) (makeDirectories p)
  := by
  refine respects_makeDirectories ConfinedTo.refl (fun _ _ _ => ConfinedTo.trans) ?_
  intro hplain q hq d d' hmake
  refine confinedTo_of_makeOne ?_ ?_ hmake
  · intro n hn
    apply hp n (hq.subset hn)
  · apply List.all_eq_true.mpr
    intro n hn
    apply List.all_eq_true.mp hplain n (hq.subset hn)

/-- A directory is made in one that is there. -/
theorem outcome_makeDirectories_of_makeOne {p : FilePath} {d d' : Disk} (hplain : p.isPlain = true)
    (h : d.makeOne p = .ok d') :
  (makeDirectories p).outcome d = (.ok (), d')
  := by
  rw [makeDirectories, if_pos hplain, makeAll, outcome_bind_get, h]
  dsimp only
  rw [makeLast, outcome_change_eq_ok_iff, h]

/-- Nothing is done for a directory that is there. -/
theorem outcome_makeDirectories_of_leadsTo {p : FilePath} {place : Place} {d : Disk}
    (hplain : p.isPlain = true) (h : d.LeadsTo p place) :
  (makeDirectories p).outcome d = (.ok (), d)
  := by
  have hmake : d.makeOne p = .error .exists := by
    rw [makeOne, h.1, ok_bind, h.2]
    rfl
  rw [makeDirectories, if_pos hplain, makeAll, outcome_bind_get, hmake]
  dsimp only
  rw [makeLast, outcome_change_eq_ok_iff, hmake]
  dsimp only
  rw [isDirectory_of_leadsTo hplain h]

theorem leadsTo_of_makeOne {p : FilePath} {d d' : Disk} (h : d.makeOne p = .ok d') :
  ∃ place, d'.LeadsTo p place
  := by
  obtain ⟨place, hwalk, hne, hnone, -, rfl⟩ := of_makeOne_eq_ok h
  refine ⟨place, (grown_withTree_insert hnone).walk_eq_ok hwalk, ?_⟩
  rw [withTree, Tree.get?_insert_self hne]

theorem leadsTo_of_makeLast {p : FilePath} {d d' : Disk}
    (h : (makeLast p).outcome d = (.ok (), d')) :
  ∃ place, d'.LeadsTo p place
  := by
  rw [makeLast, outcome_change_eq_ok_iff] at h
  split at h
  · rename_i hmake
    cases h
    apply leadsTo_of_makeOne hmake
  · split at h
    · rename_i hdirectory
      cases h
      apply leadsTo_of_isDirectory hdirectory
    · cases h

/-- A path leads to a directory once it was made. -/
theorem leadsTo_of_makeDirectories {p : FilePath} {d d' : Disk}
    (h : (makeDirectories p).outcome d = (.ok (), d')) :
  p.isPlain = true ∧ d'.LeadsTo p (d.resolve p)
  := by
  have hgrown : Grown d d' := by
    have hall := grown_makeDirectories p d
    rw [h] at hall
    apply hall
  obtain ⟨hplain, place, hleads⟩ : p.isPlain = true ∧ ∃ place, d'.LeadsTo p place := by
    rw [makeDirectories] at h
    split at h
    · rename_i hplain
      refine ⟨hplain, ?_⟩
      rw [makeAll, outcome_bind_get] at h
      split at h
      · split at h
        · cases h
        · obtain ⟨-, d₁, -, h⟩ := outcome_bind_eq_ok_iff.mp h
          apply leadsTo_of_makeLast h
      · apply leadsTo_of_makeLast h
    · cases h
  have hplace : d.resolve p = place := by
    have hresolve := resolve_of_walk hleads.1
    rw [resolve, hgrown.directory_eq] at hresolve
    apply hresolve
  rw [hplace]
  exact ⟨hplain, hleads⟩

end AgentBundles.Disk
