import Mathlib.Data.List.Forall2
import Mathlib.Data.List.Infix
import Mathlib.Data.List.TakeWhile
import Mathlib.Tactic.Common
import AgentBundles.Build.Settings

/-!
# Placeholders in settings

A text is read from its beginning: where a placeholder can begin one does, and every other character
stands for itself. Of a value nothing but the placeholders in its texts is replaced, each by the
value of its variable as it is.
-/

namespace AgentBundles.Build

variable {env env' : Environment}

/-! ### Reading a text -/

/-- How the placeholder of a variable is written: the name, which holds no closing brace, between
`${` and `}`. -/
def IsPlaceholder (name mark : List Char) : Prop :=
  name ≠ [] ∧ '}' ∉ name ∧ mark = ['$', '{'] ++ name ++ ['}']

/-- A name is taken up to the closing brace, unless there is nothing before it. -/
theorem takeName?_eq_some_iff {cs name rest : List Char} :
  takeName? cs = some (name, rest) ↔ name ≠ [] ∧ '}' ∉ name ∧ cs = name ++ '}' :: rest
  := by
  constructor
  · intro h
    rw [takeName?] at h
    have hcs : cs.takeWhile (· != '}') ++ cs.dropWhile (· != '}') = cs :=
      List.takeWhile_append_dropWhile
    have hname : ∀ c ∈ cs.takeWhile (· != '}'), (c != '}') = true := fun _ => List.mem_takeWhile_imp
    split at h
    · rename_i c name' rest' htake hdrop
      cases h
      rw [htake] at hcs hname
      rw [hdrop] at hcs
      refine ⟨List.cons_ne_nil _ _, ?_, hcs.symm⟩
      intro hmem
      apply absurd (hname _ hmem)
      decide
    · cases h
  · rintro ⟨hne, hname, rfl⟩
    have hbefore : ∀ c ∈ name, (c != '}') = true := by
      intro c hc
      rw [bne_iff_ne]
      rintro rfl
      exact hname hc
    obtain ⟨c, name, rfl⟩ := List.exists_cons_of_ne_nil hne
    rw [takeName?, List.takeWhile_append_of_pos hbefore, List.dropWhile_append_of_pos hbefore,
      List.takeWhile_cons_of_neg (by decide), List.dropWhile_cons_of_neg (by decide),
      List.append_nil]
    rfl

/-- How a text is read from its beginning: a placeholder where one can begin, and else a character
that stands for itself. -/
inductive Scans : List Char → List Piece → Prop
  | nil : Scans [] []
  | placeholder {name mark rest : List Char} {ps : List Piece} : IsPlaceholder name mark →
      Scans rest ps → Scans (mark ++ rest) (.variable name :: ps)
  | literal {c : Char} {cs : List Char} {ps : List Piece} :
      (∀ name mark rest, IsPlaceholder name mark → c :: cs ≠ mark ++ rest) → Scans cs ps →
      Scans (c :: cs) (.literal c :: ps)

theorem pieces_placeholder {name mark : List Char} (h : IsPlaceholder name mark) (rest : List Char)
    (fuel : Nat) :
  pieces (fuel + 1) (mark ++ rest) = .variable name :: pieces fuel rest
  := by
  obtain ⟨hne, hname, rfl⟩ := h
  have hmark : ['$', '{'] ++ name ++ ['}'] ++ rest = '$' :: '{' :: (name ++ '}' :: rest) := by simp
  rw [hmark, pieces, takeName?_eq_some_iff.mpr ⟨hne, hname, rfl⟩]

theorem pieces_literal {c : Char} {cs : List Char}
    (h : ∀ name mark rest, IsPlaceholder name mark → c :: cs ≠ mark ++ rest) (fuel : Nat) :
  pieces (fuel + 1) (c :: cs) = .literal c :: pieces fuel cs
  := by
  by_cases hmark : ∃ after, c = '$' ∧ cs = '{' :: after
  · obtain ⟨after, rfl, rfl⟩ := hmark
    rw [pieces]
    split
    · rename_i name rest htake
      obtain ⟨hne, hname, rfl⟩ := takeName?_eq_some_iff.mp htake
      apply absurd _ (h name _ rest ⟨hne, hname, rfl⟩)
      simp
    · rfl
  · rw [pieces]
    intro after hc hcs
    apply hmark ⟨after, hc, hcs⟩

theorem scans_pieces {fuel : Nat} {cs : List Char} (h : cs.length ≤ fuel) :
  Scans cs (pieces fuel cs)
  := by
  induction fuel generalizing cs with
  | zero =>
      rw [List.length_eq_zero_iff.mp (Nat.le_zero.mp h)]
      apply Scans.nil
  | succ fuel ih =>
      cases cs with
      | nil => apply Scans.nil
      | cons c cs =>
          by_cases hmark : ∃ name mark rest, IsPlaceholder name mark ∧ c :: cs = mark ++ rest
          · obtain ⟨name, mark, rest, hmark, heq⟩ := hmark
            have hlength : rest.length ≤ fuel := by
              obtain ⟨-, -, rfl⟩ := id hmark
              rw [heq] at h
              simp only [List.length_append, List.length_cons] at h
              omega
            rw [heq, pieces_placeholder hmark]
            apply Scans.placeholder hmark (ih hlength)
          · have hnone : ∀ name mark rest, IsPlaceholder name mark → c :: cs ≠ mark ++ rest :=
              fun name mark rest h heq => hmark ⟨name, mark, rest, h, heq⟩
            rw [pieces_literal hnone]
            apply Scans.literal hnone (ih (Nat.le_of_succ_le_succ h))

theorem Scans.pieces_eq {cs : List Char} {ps : List Piece} (h : Scans cs ps) {fuel : Nat}
    (hfuel : cs.length ≤ fuel) :
  pieces fuel cs = ps
  := by
  induction h generalizing fuel with
  | nil => cases fuel <;> rfl
  | @placeholder name mark rest ps hmark _ ih =>
      obtain ⟨-, -, rfl⟩ := id hmark
      simp only [List.length_append, List.length_cons] at hfuel
      obtain ⟨fuel, rfl⟩ : ∃ n, fuel = n + 1 := Nat.exists_eq_succ_of_ne_zero (by omega)
      rw [pieces_placeholder hmark, ih (by omega)]
  | @literal c cs ps hnone _ ih =>
      obtain ⟨fuel, rfl⟩ : ∃ n, fuel = n + 1 :=
        Nat.exists_eq_succ_of_ne_zero fun h => by simp [h] at hfuel
      rw [pieces_literal hnone, ih (Nat.le_of_succ_le_succ hfuel)]

/-- The pieces of a text are what it is read as, and nothing else. -/
theorem scans_iff {cs : List Char} {ps : List Piece} :
  Scans cs ps ↔ pieces cs.length cs = ps
  := by
  constructor
  · intro h
    apply h.pieces_eq le_rfl
  · rintro rfl
    apply scans_pieces le_rfl

/-- A text holds a placeholder. -/
def HasPlaceholder (s : String) : Prop :=
  ∃ name mark, IsPlaceholder name mark ∧ mark <:+: s.toList

/-- A variable is named in a placeholder of a text. -/
def Names (s name : String) : Prop :=
  ∃ ps, Scans s.toList ps ∧ Piece.variable name.toList ∈ ps

/-- Where a text has no placeholder, every character stands for itself. -/
theorem Scans.flatMap_resolve_eq_self {cs : List Char} {ps : List Piece} (h : Scans cs ps)
    (hnone : ∀ name mark, IsPlaceholder name mark → ¬ mark <:+: cs) :
  ps.flatMap (·.resolve env) = cs
  := by
  induction h with
  | nil => rfl
  | @placeholder name mark rest ps hmark _ _ =>
      exact absurd (List.prefix_append mark rest).isInfix (hnone name mark hmark)
  | @literal c cs ps _ _ ih =>
      rw [List.flatMap_cons, Piece.resolve, ih]
      · rfl
      · intro name mark hmark hin
        apply hnone name mark hmark (hin.trans (List.suffix_cons c cs).isInfix)

theorem resolveText_eq_self {s : String} (h : ¬ HasPlaceholder s) :
  resolveText env s = s
  := by
  have hscans : Scans s.toList (pieces s.toList.length s.toList) := scans_pieces le_rfl
  rw [resolveText,
    hscans.flatMap_resolve_eq_self fun name mark hmark hin => h ⟨name, mark, hmark, hin⟩,
    String.ofList_toList]

theorem mem_namesInText_iff {s name : String} :
  name ∈ namesInText s ↔ Names s name
  := by
  rw [namesInText, List.mem_filterMap]
  constructor
  · rintro ⟨c | chars, hpiece, heq⟩
    · cases heq
    · cases heq
      refine ⟨_, scans_pieces le_rfl, ?_⟩
      rw [String.toList_ofList]
      apply hpiece
  · rintro ⟨ps, hps, hpiece⟩
    rw [scans_iff.mp hps]
    refine ⟨_, hpiece, ?_⟩
    simp only [String.ofList_toList]

/-- What a text becomes depends on the variables that it names only. -/
theorem resolveText_congr {s : String}
    (h : ∀ name ∈ namesInText s, env.value name = env'.value name) :
  resolveText env s = resolveText env' s
  := by
  rw [resolveText, resolveText]
  congr 1
  apply List.flatMap_congr
  intro piece hpiece
  rcases piece with c | name
  · rfl
  · rw [Piece.resolve, Piece.resolve, h]
    rw [namesInText, List.mem_filterMap]
    exact ⟨_, hpiece, rfl⟩

/-! ### Texts in a value -/

theorem resolveItems_eq_map (env : Environment) (items : List Value) :
  resolveItems env items = items.map (resolve env)
  := by
  induction items with
  | nil => rfl
  | cons v vs ih => rw [resolveItems, ih, List.map_cons]

theorem resolveEntries_eq_map (env : Environment) (entries : Entries) :
  resolveEntries env entries = entries.map fun e => (e.1, resolve env e.2)
  := by
  induction entries with
  | nil => rfl
  | cons e rest ih =>
      obtain ⟨k, v⟩ := e
      rw [resolveEntries, ih, List.map_cons]

theorem mem_namesInItems_iff {items : List Value} {name : String} :
  name ∈ namesInItems items ↔ ∃ v ∈ items, name ∈ names v
  := by
  induction items with
  | nil => simp [namesInItems]
  | cons v vs ih => rw [namesInItems, List.mem_append, ih, List.exists_mem_cons_iff]

theorem mem_namesInEntries_iff {entries : Entries} {name : String} :
  name ∈ namesInEntries entries ↔ ∃ e ∈ entries, name ∈ names e.2
  := by
  induction entries with
  | nil => simp [namesInEntries]
  | cons e rest ih =>
      obtain ⟨k, v⟩ := e
      rw [namesInEntries, List.mem_append, ih, List.exists_mem_cons_iff]

/-- What holds of a text, of a list and a mapping if it holds of what is in them, and of all other
values, holds of every value. -/
theorem induction_parts {P : Value → Prop} (text : ∀ s, P (.str s))
    (list : ∀ items, (∀ v ∈ items, P v) → P (.list items))
    (map : ∀ entries : Entries, (∀ e ∈ entries, P e.2) → P (.map entries))
    (other : ∀ v, (∀ s, v ≠ .str s) → (∀ items, v ≠ .list items) →
      (∀ entries, v ≠ .map entries) → P v)
    (v : Value) :
  P v
  := by
  induction hsize : sizeOf v using Nat.strongRecOn generalizing v with
  | ind n ih =>
      cases v with
      | str s => apply text
      | list items =>
          rw [Value.list.sizeOf_spec] at hsize
          apply list
          intro v hmem
          have hlt := List.sizeOf_lt_of_mem hmem
          apply ih (sizeOf v) (by omega) v rfl
      | map entries =>
          rw [Value.map.sizeOf_spec] at hsize
          apply map
          rintro ⟨k, v⟩ hmem
          have hlt := List.sizeOf_lt_of_mem hmem
          rw [Prod.mk.sizeOf_spec] at hlt
          apply ih (sizeOf v) (by omega) v rfl
      | _ => apply other <;> simp

/-- A value that is neither a text nor a list nor a mapping stays as it is. -/
theorem resolve_of_ne {v : Value} (hstr : ∀ s, v ≠ .str s) (hlist : ∀ items, v ≠ .list items)
    (hmap : ∀ entries, v ≠ .map entries) :
  resolve env v = v
  := by
  cases v with
  | str s => exact absurd rfl (hstr s)
  | list items => exact absurd rfl (hlist items)
  | map entries => exact absurd rfl (hmap entries)
  | _ => rfl

/-- How a value becomes another one: its texts are read, and each placeholder gives way to the value
of its variable; lists keep their length and mappings their keys; and all other values stay as they
are. -/
inductive Resolves (env : Environment) : Value → Value → Prop
  | text {s : String} {ps : List Piece} : Scans s.toList ps →
      Resolves env (.str s) (.str (String.ofList (ps.flatMap (·.resolve env))))
  | list {items items' : List Value} : items.length = items'.length →
      (∀ p ∈ items.zip items', Resolves env p.1 p.2) → Resolves env (.list items) (.list items')
  | map {entries entries' : Entries} : entries.map (·.1) = entries'.map (·.1) →
      (∀ p ∈ entries.zip entries', Resolves env p.1.2 p.2.2) →
      Resolves env (.map entries) (.map entries')
  | other {v : Value} : (∀ s, v ≠ .str s) → (∀ items, v ≠ .list items) →
      (∀ entries, v ≠ .map entries) → Resolves env v v

theorem resolves_resolve (env : Environment) (v : Value) :
  Resolves env v (resolve env v)
  := by
  induction v using induction_parts with
  | text s => exact .text (scans_pieces le_rfl)
  | list items ih =>
      obtain ⟨hlength, hitems⟩ :=
        List.forall₂_iff_zip.mp (List.forall₂_map_right_iff.mpr (List.forall₂_same.mpr ih))
      rw [resolve, resolveItems_eq_map]
      exact .list hlength fun _ hp => hitems hp
  | map entries ih =>
      have hentries : List.Forall₂ (fun e e' => Resolves env e.2 e'.2) entries
          (entries.map fun e => (e.1, resolve env e.2)) :=
        List.forall₂_map_right_iff.mpr (List.forall₂_same.mpr ih)
      rw [resolve, resolveEntries_eq_map]
      apply Resolves.map
      · rw [List.map_map]
        rfl
      · intro p hp
        apply (List.forall₂_iff_zip.mp hentries).2 hp
  | other v hstr hlist hmap =>
      rw [resolve_of_ne hstr hlist hmap]
      exact .other hstr hlist hmap

/-- A value becomes what it is resolved to, and nothing else. -/
theorem resolves_iff {v w : Value} :
  Resolves env v w ↔ resolve env v = w
  := by
  constructor
  · intro h
    induction h with
    | text hscans => rw [resolve, resolveText, scans_iff.mp hscans]
    | @list items items' hlength _ ih =>
        have hitems : List.Forall₂ (fun v w => resolve env v = w) items items' :=
          List.forall₂_iff_zip.mpr ⟨hlength, fun hmem => ih _ hmem⟩
        rw [← List.forall₂_map_left_iff, List.forall₂_eq_eq_eq] at hitems
        rw [resolve, resolveItems_eq_map, hitems]
    | @map entries entries' hkeys _ ih =>
        rw [← List.forall₂_eq_eq_eq, List.forall₂_map_left_iff, List.forall₂_map_right_iff,
          List.forall₂_iff_zip] at hkeys
        have hentries : List.Forall₂ (fun e e' => (e.1, resolve env e.2) = e') entries
            entries' := by
          refine List.forall₂_iff_zip.mpr ⟨hkeys.1, ?_⟩
          intro e e' hmem
          have hkey : e.1 = e'.1 := hkeys.2 hmem
          exact Prod.ext hkey (ih _ hmem)
        rw [← List.forall₂_map_left_iff, List.forall₂_eq_eq_eq] at hentries
        rw [resolve, resolveEntries_eq_map, hentries]
    | other hstr hlist hmap => apply resolve_of_ne hstr hlist hmap
  · rintro rfl
    apply resolves_resolve

/-- A text is among those of a value; the keys of mappings do not count. -/
inductive HasText : Value → String → Prop
  | text {s : String} : HasText (.str s) s
  | item {items : List Value} {v : Value} {s : String} : v ∈ items → HasText v s →
      HasText (.list items) s
  | entry {entries : Entries} {e : Value × Value} {s : String} : e ∈ entries → HasText e.2 s →
      HasText (.map entries) s

/-- The names in a value are those in the placeholders of its texts. -/
theorem mem_names_iff {v : Value} {name : String} :
  name ∈ names v ↔ ∃ s, HasText v s ∧ Names s name
  := by
  constructor
  · intro h
    induction v using induction_parts with
    | text s => exact ⟨s, .text, mem_namesInText_iff.mp h⟩
    | list items ih =>
        obtain ⟨v, hv, hname⟩ := mem_namesInItems_iff.mp h
        obtain ⟨s, hs, hnames⟩ := ih v hv hname
        exact ⟨s, .item hv hs, hnames⟩
    | map entries ih =>
        obtain ⟨e, he, hname⟩ := mem_namesInEntries_iff.mp h
        obtain ⟨s, hs, hnames⟩ := ih e he hname
        exact ⟨s, .entry he hs, hnames⟩
    | other v hstr hlist hmap =>
        cases v with
        | str s => exact absurd rfl (hstr s)
        | list items => exact absurd rfl (hlist items)
        | map entries => exact absurd rfl (hmap entries)
        | _ => cases h
  · rintro ⟨s, hs, hname⟩
    induction hs with
    | text => apply mem_namesInText_iff.mpr hname
    | item hv _ ih => exact mem_namesInItems_iff.mpr ⟨_, hv, ih hname⟩
    | entry he _ ih => exact mem_namesInEntries_iff.mpr ⟨_, he, ih hname⟩

/-- A value stays as it is if its texts do. -/
theorem resolve_eq_self {v : Value} (h : ∀ s, HasText v s → resolveText env s = s) :
  resolve env v = v
  := by
  induction v using induction_parts with
  | text s => rw [resolve, h s .text]
  | list items ih =>
      rw [resolve, resolveItems_eq_map,
        List.map_congr_left fun v hv => ih v hv fun s hs => h s (.item hv hs), List.map_id']
  | map entries ih =>
      have hsame : ∀ e ∈ entries, (e.1, resolve env e.2) = e :=
        fun e he => Prod.ext rfl (ih e he fun s hs => h s (.entry he hs))
      rw [resolve, resolveEntries_eq_map, List.map_congr_left hsame, List.map_id']
  | other v hstr hlist hmap => apply resolve_of_ne hstr hlist hmap

/-- A value becomes the same in two environments if its texts do. -/
theorem resolve_congr {v : Value} (h : ∀ s, HasText v s → resolveText env s = resolveText env' s) :
  resolve env v = resolve env' v
  := by
  induction v using induction_parts with
  | text s => rw [resolve, resolve, h s .text]
  | list items ih =>
      rw [resolve, resolve, resolveItems_eq_map, resolveItems_eq_map,
        List.map_congr_left fun v hv => ih v hv fun s hs => h s (.item hv hs)]
  | map entries ih =>
      rw [resolve, resolve, resolveEntries_eq_map, resolveEntries_eq_map]
      congr 1
      apply List.map_congr_left
      intro e he
      rw [ih e he fun s hs => h s (.entry he hs)]
  | other v hstr hlist hmap => rw [resolve_of_ne hstr hlist hmap, resolve_of_ne hstr hlist hmap]

/-- Nothing of a value but the placeholders in its texts is replaced. A value without placeholders
stays as it is, and environments in which the variables named in placeholders have the same values
make the same of a value. -/
theorem resolve_replaces_placeholders (env : Environment) (v : Value) :
  (∀ w, Resolves env v w ↔ resolve env v = w) ∧
    ((∀ s, HasText v s → ¬ HasPlaceholder s) → resolve env v = v) ∧
    (∀ name, name ∈ names v ↔ ∃ s, HasText v s ∧ Names s name) ∧
    ∀ env', (∀ name ∈ names v, env.value name = env'.value name) → resolve env v = resolve env' v
  := by
  refine ⟨fun _ => resolves_iff, ?_, fun _ => mem_names_iff, ?_⟩
  · intro hnone
    apply resolve_eq_self
    intro s hs
    apply resolveText_eq_self (hnone s hs)
  · intro env' hagree
    apply resolve_congr
    intro s hs
    apply resolveText_congr
    intro name hname
    apply hagree name (mem_names_iff.mpr ⟨s, hs, mem_namesInText_iff.mp hname⟩)

/-- Settings with a placeholder for a secret, placeholders without a name or an end, and one in a
key. -/
def secretSettings : Value :=
  .map [(.str "$\x7bKEY\x7d", .list [.str "a $\x7bSECRET\x7d b $\x7b\x7d $\x7bx", .int 3]),
    (.int 1, .str "$\x7bTOKEN\x7d")]

/-- A secret that looks like a placeholder. -/
def secretEnvironment : Environment := [("SECRET", "$\x7bTOKEN\x7d")]

/-- The secret is put in as it is, and the variable named in a key is not looked at. -/
theorem resolve_replaces_placeholders_secret :
  Resolves secretEnvironment secretSettings (.map [
      (.str "$\x7bKEY\x7d", .list [.str "a $\x7bTOKEN\x7d b $\x7b\x7d $\x7bx", .int 3]),
      (.int 1, .str "")]) ∧
    resolve secretEnvironment (.list [.str "$5 \x7bx\x7d"]) = .list [.str "$5 \x7bx\x7d"] ∧
    resolve secretEnvironment secretSettings
      = resolve (("KEY", "k") :: secretEnvironment) secretSettings
  := by
  obtain ⟨hresolves, -, -, hsame⟩ := resolve_replaces_placeholders secretEnvironment secretSettings
  obtain ⟨-, hself, -, -⟩ :=
    resolve_replaces_placeholders secretEnvironment (.list [.str "$5 \x7bx\x7d"])
  refine ⟨(hresolves _).mpr rfl, hself ?_, hsame _ ?_⟩
  · rintro s (_ | ⟨hv, hs⟩) ⟨name, mark, ⟨-, -, rfl⟩, hin⟩
    rw [List.mem_singleton.mp hv] at hs
    cases hs
    have hstart : ['$', '{'] <:+: "$5 \x7bx\x7d".toList := by
      refine List.IsInfix.trans ?_ hin
      rw [List.append_assoc]
      apply (List.prefix_append _ _).isInfix
    revert hstart
    decide
  · have hnames : ∀ name ∈ names secretSettings, name ≠ "KEY" := by decide
    intro name hname
    have hne : ("KEY" == name) = false := beq_eq_false_iff_ne.mpr (hnames name hname).symm
    rw [Environment.value, Environment.value, List.find?_cons, hne]

end AgentBundles.Build
