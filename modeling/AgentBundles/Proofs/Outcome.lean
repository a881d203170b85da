import Mathlib.Data.List.Forall2

/-!
# Outcomes

What is known of steps one after the other, each of which gives a result or a fault.
-/

namespace AgentBundles

variable {ε α β : Type}

/-- A step after a result goes on with the result. -/
@[simp]
theorem ok_bind (a : α) (f : α → Except ε β) :
  (Except.ok a >>= f) = f a
  := rfl

/-- A step after a fault is the fault. -/
@[simp]
theorem error_bind (e : ε) (f : α → Except ε β) :
  (Except.error e >>= f) = .error e
  := rfl

/-- Steps have a result exactly if all of them have one. -/
theorem bind_eq_ok_iff {x : Except ε α} {f : α → Except ε β} {b : β} :
  (x >>= f) = .ok b ↔ ∃ a, x = .ok a ∧ f a = .ok b
  := by
  cases x with
  | error e =>
      constructor
      · intro h
        cases h
      · rintro ⟨a, ha, -⟩
        cases ha
  | ok a =>
      constructor
      · intro h
        exact ⟨a, rfl, h⟩
      · rintro ⟨a', ha, h⟩
        cases ha
        apply h

/-- Steps have a fault if one of them has it. -/
theorem bind_eq_error_iff {x : Except ε α} {f : α → Except ε β} {e : ε} :
  (x >>= f) = .error e ↔ x = .error e ∨ ∃ a, x = .ok a ∧ f a = .error e
  := by
  cases x with
  | ok a => simp
  | error e' => simp

theorem map_eq_error_iff {f : α → β} {x : Except ε α} {e : ε} :
  f <$> x = .error e ↔ x = .error e
  := by
  cases x with
  | ok a => simp [Functor.map, Except.map]
  | error e' => simp [Functor.map, Except.map]

theorem mapError_eq_error_iff {ε' : Type} {f : ε → ε'} {x : Except ε α} {e : ε'} :
  x.mapError f = .error e ↔ ∃ e', x = .error e' ∧ f e' = e
  := by
  cases x with
  | ok a => simp [Except.mapError]
  | error e' => simp [Except.mapError]

/-- There is a result exactly if there is no fault. -/
theorem exists_eq_ok_iff {x : Except ε α} :
  (∃ a, x = .ok a) ↔ ∀ e, x ≠ .error e
  := by
  cases x with
  | ok a => simp
  | error e => simp

/-- What holds of the result, or else of the fault. -/
def Yields (p : α → Prop) (q : ε → Prop) : Except ε α → Prop
  | .ok a => p a
  | .error e => q e

theorem Yields.of_error {p : α → Prop} {q : ε → Prop} {x : Except ε α} (h : Yields p q x) {e : ε}
    (he : x = .error e) :
  q e
  := by
  subst he
  apply h

theorem Yields.imp {p p' : α → Prop} {q q' : ε → Prop} {x : Except ε α} (h : Yields p q x)
    (hp : ∀ a, p a → p' a) (hq : ∀ e, q e → q' e) :
  Yields p' q' x
  := by
  cases x with
  | ok a => exact hp a h
  | error e => exact hq e h

theorem Yields.bind {p : α → Prop} {p' : β → Prop} {q : ε → Prop} {x : Except ε α}
    {f : α → Except ε β} (hx : Yields p q x) (hf : ∀ a, p a → Yields p' q (f a)) :
  Yields p' q (x >>= f)
  := by
  cases x with
  | ok a => exact hf a hx
  | error e => exact hx

/-- What each step keeps holds after all of them. -/
theorem yields_foldlM {p : β → Prop} {q : ε → Prop} {f : β → α → Except ε β}
    (hf : ∀ b a, p b → Yields p q (f b a)) (xs : List α) {b : β} (hb : p b) :
  Yields p q (xs.foldlM f b)
  := by
  induction xs generalizing b with
  | nil => exact hb
  | cons x xs ih =>
      rw [List.foldlM_cons]
      apply (hf b x hb).bind
      intro b' hb'
      apply ih hb'

/-- Results that are seen as others are results of what they were. -/
theorem map_eq_ok_iff {f : α → β} {x : Except ε α} {b : β} :
  x.map f = .ok b ↔ ∃ a, x = .ok a ∧ f a = b
  := by
  cases x with
  | error e => simp [Except.map]
  | ok a => simp [Except.map]

/-- Faults that are seen as others leave the results as they are. -/
theorem mapError_eq_ok_iff {ε' : Type} {f : ε → ε'} {x : Except ε α} {a : α} :
  x.mapError f = .ok a ↔ x = .ok a
  := by
  cases x with
  | error e => simp [Except.mapError]
  | ok b => simp [Except.mapError]

theorem eq_ok_of_toOption {x : Except ε α} {a : α} (h : x.toOption = some a) :
  x = .ok a
  := by
  cases x with
  | error e => cases h
  | ok b =>
      cases h
      rfl

/-- What is in the second of two related lists is related to something in the first one. -/
theorem exists_of_mem_of_forall₂ {r : α → β → Prop} {xs : List α} {ys : List β}
    (h : List.Forall₂ r xs ys) {y : β} (hy : y ∈ ys) :
  ∃ x ∈ xs, r x y
  := by
  induction h with
  | nil => cases hy
  | @cons x z xs ys hx _ ih =>
      rcases List.mem_cons.mp hy with rfl | hy
      · exact ⟨x, List.mem_cons_self, hx⟩
      · obtain ⟨x', hx', hr⟩ := ih hy
        exact ⟨x', List.mem_cons_of_mem _ hx', hr⟩

/-- Steps for the items of a list have results exactly if each of them has one. -/
theorem mapM_eq_ok_iff {f : α → Except ε β} {xs : List α} {ys : List β} :
  xs.mapM f = .ok ys ↔ List.Forall₂ (fun x y => f x = .ok y) xs ys
  := by
  induction xs generalizing ys with
  | nil =>
      rw [List.mapM_nil, List.forall₂_nil_left_iff]
      constructor
      · intro h
        cases h
        rfl
      · rintro rfl
        rfl
  | cons x xs ih =>
      rw [List.mapM_cons, bind_eq_ok_iff, List.forall₂_cons_left_iff]
      apply exists_congr
      intro y
      constructor
      · rintro ⟨hy, h⟩
        obtain ⟨ys', hys, h⟩ := bind_eq_ok_iff.mp h
        cases h
        exact ⟨ys', hy, ih.mp hys, rfl⟩
      · rintro ⟨ys', hy, hys, rfl⟩
        rw [ih.mpr hys]
        exact ⟨hy, rfl⟩

theorem exists_mapM_eq_ok_iff {f : α → Except ε β} {xs : List α} :
  (∃ ys, xs.mapM f = .ok ys) ↔ ∀ x ∈ xs, ∃ y, f x = .ok y
  := by
  simp only [mapM_eq_ok_iff]
  induction xs with
  | nil => simp
  | cons x xs ih =>
      rw [List.forall_mem_cons, ← ih]
      constructor
      · rintro ⟨_, hall⟩
        obtain ⟨y, ys, hy, hys, -⟩ := List.forall₂_cons_left_iff.mp hall
        exact ⟨⟨y, hy⟩, ys, hys⟩
      · rintro ⟨⟨y, hy⟩, ys, hys⟩
        exact ⟨y :: ys, List.Forall₂.cons hy hys⟩

theorem exists_of_mapM_eq_error {f : α → Except ε β} {xs : List α} {e : ε}
    (h : xs.mapM f = .error e) :
  ∃ x ∈ xs, f x = .error e
  := by
  induction xs with
  | nil => cases h
  | cons x xs ih =>
      rw [List.mapM_cons, bind_eq_error_iff] at h
      rcases h with hx | ⟨y, -, h⟩
      · exact ⟨x, List.mem_cons_self, hx⟩
      · rcases bind_eq_error_iff.mp h with hxs | ⟨ys, -, ⟨⟩⟩
        obtain ⟨x', hx', he⟩ := ih hxs
        exact ⟨x', List.mem_cons_of_mem _ hx', he⟩

theorem mem_of_mapM_eq_ok {f : α → Except ε β} {xs : List α} {ys : List β} (h : xs.mapM f = .ok ys)
    {y : β} :
  y ∈ ys ↔ ∃ x ∈ xs, f x = .ok y
  := by
  induction mapM_eq_ok_iff.mp h with
  | nil => simp
  | @cons x z xs ys hz hall ih =>
      rw [List.mem_cons, ih (mapM_eq_ok_iff.mpr hall), List.exists_mem_cons_iff, hz,
        Except.ok.injEq, eq_comm]

/-- Steps that keep a key keep the keys of a list. -/
theorem map_eq_of_mapM_eq_ok {γ : Type*} {f : α → Except ε β} {xs : List α} {ys : List β}
    (h : xs.mapM f = .ok ys) {key : α → γ} {key' : β → γ}
    (hkey : ∀ x ∈ xs, ∀ y, f x = .ok y → key' y = key x) :
  ys.map key' = xs.map key
  := by
  induction mapM_eq_ok_iff.mp h with
  | nil => rfl
  | @cons x y xs ys hy hall ih =>
      obtain ⟨hx, hxs⟩ := List.forall_mem_cons.mp hkey
      rw [List.map_cons, List.map_cons, hx y hy, ih (mapM_eq_ok_iff.mpr hall) hxs]

/-- Of steps that may give nothing, what is given comes from items that stand in their order. -/
theorem exists_sublist_of_mapM_eq_ok {f : α → Except ε (Option β)} {xs : List α}
    {ys : List (Option β)} (h : xs.mapM f = .ok ys) :
  ∃ zs, zs.Sublist xs ∧ List.Forall₂ (fun z y => f z = .ok (some y)) zs (ys.filterMap id) ∧
    ∀ x ∈ xs, x ∈ zs ∨ f x = .ok none
  := by
  induction mapM_eq_ok_iff.mp h with
  | nil => exact ⟨[], List.Sublist.slnil, List.Forall₂.nil, by simp⟩
  | @cons x y? xs ys hx hall ih =>
      obtain ⟨zs, hsublist, hzs, hrest⟩ := ih (mapM_eq_ok_iff.mpr hall)
      cases y? with
      | none =>
          refine ⟨zs, hsublist.cons x, hzs, List.forall_mem_cons.mpr ⟨Or.inr hx, hrest⟩⟩
      | some y =>
          refine ⟨x :: zs, hsublist.cons_cons x, List.Forall₂.cons hx hzs, ?_⟩
          rw [List.forall_mem_cons]
          refine ⟨Or.inl List.mem_cons_self, ?_⟩
          intro x' hx'
          exact (hrest x' hx').imp_left (List.mem_cons_of_mem x)

end AgentBundles
