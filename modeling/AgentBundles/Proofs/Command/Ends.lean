import AgentBundles.Command.Run
import AgentBundles.Proofs.Build.Reported

/-!
# How commands end

A command ends with a code and what it prints, or with a fault that is not reported. We find out
what in the settings, on the disk and in the replies of the web makes such a fault; settings that
make one always do.
-/

namespace AgentBundles

open Disk Disk.Action

/-! ### Settings -/

/-- The settings that make a fault that is not reported: their YAML, a document that holds itself or
is no mapping, or a key that is no text. An empty document is a mapping without entries. -/
inductive SettingsFault.Escapes (env : Build.Environment) (path : FilePath) (text : String) :
    SettingsFault → Prop where
  | yaml {f : Yaml.Fault} : BuildSettings.document path text = .error (.yaml f) →
      f.kind.isReported = false → Escapes env path text (.yaml f)
  | endless {v : Value} : BuildSettings.document path text = .ok v → Build.isEndless v = true →
      Escapes env path text .endless
  | notMapping {v : Value} : BuildSettings.document path text = .ok v → Build.isEndless v = false →
      v.isEmpty = false → (∀ entries, v ≠ .map entries) →
      Escapes env path text (.notMapping (Build.resolve env v))
  | keys {entries : Entries} {e : Value × Value} : BuildSettings.document path text
      = .ok (.map entries) → Build.isEndless (.map entries) = false → e ∈ entries →
      BuildSettings.isTextKey e.1 = false → Escapes env path text .keys

namespace BuildSettings

variable {env : Build.Environment} {path : FilePath} {text : String}

theorem resolve_ne_map {v : Value} (h : ∀ entries, v ≠ .map entries) (entries : Entries) :
  Build.resolve env v ≠ .map entries
  := by
  cases v with
  | map entries' => exact absurd rfl (h entries')
  | _ => rintro ⟨⟩

theorem map_fst_resolveEntries (entries : Entries) :
  (Build.resolveEntries env entries).map (·.1) = entries.map (·.1)
  := by
  induction entries with
  | nil => rfl
  | cons e entries ih =>
      rw [Build.resolveEntries, List.map_cons, List.map_cons, ih]

theorem all_isTextKey_resolveEntries (entries : Entries) :
  ((Build.resolveEntries env entries).all fun e => isTextKey e.1)
    = entries.all fun e => isTextKey e.1
  := by
  have hmap : ∀ es : Entries, (es.all fun e => isTextKey e.1) = (es.map (·.1)).all isTextKey := by
    intro es
    rw [List.all_map]
    rfl
  rw [hmap, hmap, map_fst_resolveEntries]

/-- A mapping is read as settings, and only a key that is no text is not reported. -/
theorem ofDocument_map {entries : Entries} {f : SettingsFault}
    (hendless : Build.isEndless (.map entries) = false) :
  ofDocument env (.map entries) = .error f ∧ f.kind.isReported = false ↔
    (∃ e ∈ entries, isTextKey e.1 = false) ∧ f = .keys
  := by
  have hempty : (if Value.isEmpty (.map entries) then .map [] else .map entries)
      = Value.map entries := by
    cases entries with
    | nil => rfl
    | cons e entries => rfl
  rw [ofDocument, hendless, if_neg Bool.false_ne_true, hempty, Build.resolve]
  dsimp only
  rw [all_isTextKey_resolveEntries]
  cases hkeys : entries.all fun e => isTextKey e.1 with
  | true =>
      rw [if_pos rfl]
      constructor
      · rintro ⟨h, hkind⟩
        obtain ⟨f', -, rfl⟩ := mapError_eq_error_iff.mp h
        cases hkind
      · rintro ⟨⟨e, he, hkey⟩, -⟩
        rw [List.all_eq_true.mp hkeys e he] at hkey
        cases hkey
  | false =>
      have hany : ∃ e ∈ entries, isTextKey e.1 = false := by simpa using hkeys
      rw [if_neg Bool.false_ne_true]
      constructor
      · rintro ⟨⟨⟩, -⟩
        exact ⟨hany, rfl⟩
      · rintro ⟨-, rfl⟩
        exact ⟨rfl, rfl⟩

/-- A value that is not a mapping holds no settings, unless it is empty. -/
theorem ofDocument_of_ne_map {v : Value} {f : SettingsFault} (hendless : Build.isEndless v = false)
    (hne : ∀ entries, v ≠ .map entries) :
  ofDocument env v = .error f ∧ f.kind.isReported = false
    ↔ v.isEmpty = false ∧ f = .notMapping (Build.resolve env v)
  := by
  cases hempty : v.isEmpty with
  | true =>
      have hsame : ofDocument env v = ofDocument env (.map []) := by
        rw [ofDocument, ofDocument, hendless, hempty]
        rfl
      rw [hsame, ofDocument_map rfl]
      simp
  | false =>
      rw [ofDocument, hendless, if_neg Bool.false_ne_true, hempty, if_neg Bool.false_ne_true]
      split
      · rename_i entries hmap
        exact absurd hmap (resolve_ne_map hne entries)
      · constructor
        · rintro ⟨⟨⟩, -⟩
          exact ⟨rfl, rfl⟩
        · rintro ⟨-, rfl⟩
          exact ⟨rfl, rfl⟩

/-- What keeps a text from holding settings is not reported exactly if it escapes. -/
theorem escapes_iff {f : SettingsFault} :
  f.Escapes env path text ↔ (document path text >>= ofDocument env) = .error f ∧
    f.kind.isReported = false
  := by
  constructor
  · rintro (⟨hdocument, hkind⟩ | ⟨hdocument, hendless⟩ | ⟨hdocument, hendless, hempty, hne⟩ |
      ⟨hdocument, hendless, he, hkey⟩)
    · rw [hdocument]
      exact ⟨rfl, hkind⟩
    · rw [hdocument, ok_bind, ofDocument, hendless]
      exact ⟨rfl, rfl⟩
    · rw [hdocument, ok_bind]
      exact (ofDocument_of_ne_map hendless hne).mpr ⟨hempty, rfl⟩
    · rw [hdocument, ok_bind]
      exact (ofDocument_map hendless).mpr ⟨⟨_, he, hkey⟩, rfl⟩
  · rintro ⟨h, hkind⟩
    rcases bind_eq_error_iff.mp h with h | ⟨v, hv, h⟩
    · rw [document] at h
      split at h
      · rename_i hyaml
        obtain ⟨f', hread, rfl⟩ := mapError_eq_error_iff.mp h
        apply SettingsFault.Escapes.yaml _ hkind
        rw [document, if_pos hyaml, hread]
        rfl
      · obtain ⟨f', -, rfl⟩ := mapError_eq_error_iff.mp h
        have hreported := f'.isReported
        rw [SettingsFault.kind, hreported] at hkind
        cases hkind
    · cases hendless : Build.isEndless v with
      | true =>
          rw [ofDocument, hendless] at h
          cases h
          exact .endless hv hendless
      | false =>
          by_cases hmap : ∃ entries, v = .map entries
          · obtain ⟨entries, rfl⟩ := hmap
            obtain ⟨⟨e, he, hkey⟩, rfl⟩ := (ofDocument_map hendless).mp ⟨h, hkind⟩
            exact .keys hv hendless he hkey
          · rw [not_exists] at hmap
            obtain ⟨hempty, rfl⟩ := (ofDocument_of_ne_map hendless hmap).mp ⟨h, hkind⟩
            exact .notMapping hv hendless hempty hmap

end BuildSettings

theorem Disk.has_of_read {d : Disk} {p : FilePath} {s : String} (h : d.read p = .ok s) :
  d.has p = .ok true
  := by
  rw [read] at h
  obtain ⟨c, hc, -⟩ := bind_eq_ok_iff.mp h
  rw [content] at hc
  split at hc
  · cases hc
  · rename_i hplain
    have hplain : p.isPlain = true := by simpa using hplain
    cases hfind : d.find p with
    | error cause =>
        rw [hfind] at hc
        cases hc
    | ok node =>
        rw [has, find?, hplain, if_pos rfl, hfind]
        rfl

/-! ### Commands -/

namespace Command

variable {env : Build.Environment} {web : Web} {d : Disk}

/-- The settings in a file have a fault that is not reported exactly if its text makes one. -/
theorem settingsIn_eq_error_iff {path : FilePath} {f : Build.Fault} :
  settingsIn env path d = .error f ∧ f.kind.isReported = false ↔
    ∃ text f', d.read path = .ok text ∧ f'.Escapes env path text ∧ f = .settings f'
  := by
  constructor
  · rintro ⟨h, hkind⟩
    rw [settingsIn] at h
    rcases bind_eq_error_iff.mp h with h | ⟨has, -, h⟩
    · obtain ⟨f', -, rfl⟩ := mapError_eq_error_iff.mp h
      have hreported := f'.isReported
      rw [Build.Fault.kind, hreported] at hkind
      cases hkind
    · dsimp only at h
      split at h
      · cases h
        cases hkind
      · obtain ⟨f', hread, rfl⟩ := mapError_eq_error_iff.mp h
        rw [BuildSettings.read] at hread
        rcases bind_eq_error_iff.mp hread with h | ⟨text, htext, h⟩
        · obtain ⟨f', -, rfl⟩ := mapError_eq_error_iff.mp h
          have hreported := f'.isReported
          rw [Build.Fault.kind, SettingsFault.kind, hreported] at hkind
          cases hkind
        · exact ⟨text, f', mapError_eq_ok_iff.mp htext,
            BuildSettings.escapes_iff.mpr ⟨h, hkind⟩, rfl⟩
  · rintro ⟨text, f', htext, hescapes, rfl⟩
    obtain ⟨h, hkind⟩ := BuildSettings.escapes_iff.mp hescapes
    rw [settingsIn, Disk.has_of_read htext, Except.mapError, ok_bind, Bool.not_true,
      if_neg Bool.false_ne_true, BuildSettings.read, htext, Except.mapError, ok_bind, h]
    exact ⟨rfl, hkind⟩

/-- What ends a command with a fault that is not reported: its settings, a build, a bundle that is
validated, or a publication. -/
inductive Escapes (env : Build.Environment) (web : Web) (d : Disk) : Command → Build.Fault →
    Prop where
  | settings {c : Command} {path : FilePath} {text : String} {f : SettingsFault} : c.settings?
      = some path → d.read path = .ok text → f.Escapes env path text →
      Escapes env web d c (.settings f)
  | compile {settings : FilePath} {ids : List String} {bump : Option String} {s : BuildSettings}
      {f : Build.Fault} : settingsIn env settings d = .ok s → Build.RunEscapes s web ids bump d f →
      Escapes env web d (.compile settings ids bump) f
  | validate {paths : List FilePath} {path : FilePath} {f : Build.Fault} : path ∈ paths →
      Build.ReportEscapes d path f → Escapes env web d (.validate paths) f
  | publish {settings : FilePath} {s : BuildSettings} {f : Build.Fault} : settingsIn env settings d
      = .ok s → Build.PublishEscapes s.output d f → Escapes env web d (.publish settings) f

/-- How a command ends that ends with a code: done, with a fault that is reported, or with bundles
that are not valid. -/
inductive Ends (d : Disk) : Command → Outcome → Prop where
  | done {c : Command} {out : String} : Ends d c ⟨0, out, ""⟩
  | failed {c : Command} {f : Build.Fault} : f.kind.isReported = true →
      Ends d c ⟨1, "", "Error: " ++ f.message ++ "\n"⟩
  | invalid {paths : List FilePath} {path : FilePath} {r : Report} {out : String} : path ∈ paths →
      Build.validatePath d path = .ok r → r.ok = false → Ends d (.validate paths) ⟨1, out, ""⟩

/-- A fault of the settings is one that is not reported, or is reported. -/
theorem escapes_of_settingsIn {c : Command} {path : FilePath} (hpath : c.settings? = some path)
    {f : Build.Fault} (h : settingsIn env path d = .error f) :
  f.kind.isReported = true ∨ c.Escapes env web d f
  := by
  apply (isReported_or_not Build.Fault.kind f).imp_right
  intro hkind
  obtain ⟨text, f', htext, hescapes, rfl⟩ := settingsIn_eq_error_iff.mp ⟨h, hkind⟩
  exact .settings hpath htext hescapes

/-- Whatever ends a command is reported, or escapes. -/
theorem escapes_of_perform {c : Command} {d' : Disk} {f : Build.Fault}
    (h : (perform env web c).outcome d = (.error f, d')) :
  f.kind.isReported = true ∨ c.Escapes env web d f
  := by
  cases c with
  | compile settings ids bump =>
      rcases outcome_bind_eq_error_iff.mp h with h | ⟨s, d₁, hs, h⟩
      · rw [outcome_look, Prod.mk.injEq] at h
        apply escapes_of_settingsIn rfl h.1
      · rw [outcome_look, Prod.mk.injEq] at hs
        obtain ⟨hs, rfl⟩ := hs
        rcases outcome_bind_eq_error_iff.mp h with h | ⟨products, d₂, -, h⟩
        · apply (Build.escapes_of_run h).imp_right
          apply Escapes.compile hs
        · cases h
  | validate paths =>
      rcases outcome_bind_eq_error_iff.mp h with h | ⟨reports, d₁, -, h⟩
      · rw [outcome_look, Prod.mk.injEq] at h
        obtain ⟨path, hpath, h⟩ := exists_of_mapM_eq_error h.1
        apply (Build.reports_validatePath f h).imp_right
        apply Escapes.validate hpath
      · cases h
  | publish settings =>
      rcases outcome_bind_eq_error_iff.mp h with h | ⟨s, d₁, hs, h⟩
      · rw [outcome_look, Prod.mk.injEq] at h
        apply escapes_of_settingsIn rfl h.1
      · rw [outcome_look, Prod.mk.injEq] at hs
        obtain ⟨hs, rfl⟩ := hs
        rcases outcome_bind_eq_error_iff.mp h with h | ⟨path, d₂, -, h⟩
        · apply (Build.escapes_of_publish h).imp_right
          apply Escapes.publish hs
        · cases h

/-- A command that is carried out is done, or finds bundles that are not valid. -/
theorem ends_of_perform {c : Command} {d' : Disk} {o : Outcome}
    (h : (perform env web c).outcome d = (.ok o, d')) :
  Ends d c o
  := by
  cases c with
  | compile settings ids bump =>
      obtain ⟨s, d₁, -, h⟩ := outcome_bind_eq_ok_iff.mp h
      obtain ⟨products, d₂, -, h⟩ := outcome_bind_eq_ok_iff.mp h
      cases h
      exact .done
  | validate paths =>
      obtain ⟨reports, d₁, hreports, h⟩ := outcome_bind_eq_ok_iff.mp h
      rw [outcome_look, Prod.mk.injEq] at hreports
      cases h
      cases hall : reports.all (·.ok) with
      | true => exact .done
      | false =>
          obtain ⟨r, hr, hok⟩ := List.all_eq_false.mp hall
          obtain ⟨path, hpath, hvalidate⟩ := (mem_of_mapM_eq_ok hreports.1).mp hr
          exact .invalid hpath hvalidate (Bool.eq_false_iff.mpr hok)
  | publish settings =>
      obtain ⟨s, d₁, -, h⟩ := outcome_bind_eq_ok_iff.mp h
      obtain ⟨path, d₂, -, h⟩ := outcome_bind_eq_ok_iff.mp h
      cases h
      exact .done

/-- A command that is run ends as it does when it is carried out, but for faults that are
reported. -/
theorem outcome_run (c : Command) :
  (run env web c).outcome d = match (perform env web c).outcome d with
    | (.ok o, d') => (.ok o, d')
    | (.error f, d') => if f.kind.isReported then (.ok (.failed f.message), d') else (.error f, d')
  := by
  have hcatch : (run env web c).outcome d = ExceptT.tryCatch (perform env web c)
      (fun f => if f.kind.isReported then pure (.failed f.message) else throw f) d := rfl
  rw [hcatch, outcome]
  simp only [ExceptT.tryCatch, ExceptT.mk, bind, StateT.bind]
  obtain ⟨r, d'⟩ := perform env web c d
  cases r with
  | ok o => rfl
  | error f =>
      dsimp only
      cases f.kind.isReported with
      | true => rfl
      | false => rfl

/-- Settings that make a fault that is not reported end a command with it, and nothing is changed on
the disk. -/
theorem outcome_run_of_escapes {c : Command} {path : FilePath} {text : String} {f : SettingsFault}
    (hpath : c.settings? = some path) (htext : d.read path = .ok text)
    (hescapes : f.Escapes env path text) :
  (run env web c).outcome d = (.error (.settings f), d)
  := by
  obtain ⟨hsettings, hkind⟩ := settingsIn_eq_error_iff.mpr ⟨text, f, htext, hescapes, rfl⟩
  have hlook : ∀ {α : Type} (g : BuildSettings → Action Build.Fault α),
      (Action.look (settingsIn env path) >>= g).outcome d = (.error (.settings f), d) := by
    intro α g
    apply outcome_bind_eq_error_iff.mpr
    left
    rw [outcome_look, hsettings]
  have hperform : (perform env web c).outcome d = (.error (.settings f), d) := by
    cases c with
    | compile settings ids bump =>
        cases hpath
        apply hlook
    | validate paths => cases hpath
    | publish settings =>
        cases hpath
        apply hlook
  rw [outcome_run, hperform]
  dsimp only
  rw [hkind]
  rfl

/-- A disk with settings that are a list. -/
def listedSettings : Disk where
  tree := ⟨[(["build.json"], .file (.text "[1]"))]⟩
  directory := []

/-- The arguments that compile with these settings. -/
def listedArguments : List String := ["compile", "--config", "build.json"]

theorem ofArguments_listed :
  ofArguments listedArguments = .ok (.compile (.ofText "build.json") [] none)
  := by
  decide +kernel

theorem escapes_listed (env : Build.Environment) :
  listedSettings.read (.ofText "build.json") = .ok "[1]" ∧
    SettingsFault.Escapes env (.ofText "build.json") "[1]" (.notMapping (.list [.int 1]))
  := by
  have hread : listedSettings.read (.ofText "build.json") = .ok "[1]" := by
    apply eq_ok_of_toOption
    decide +kernel
  have hdocument : BuildSettings.document (.ofText "build.json") "[1]"
      = .ok (.list [.int 1]) := by rfl
  refine ⟨hread, .notMapping hdocument rfl rfl ?_⟩
  rintro entries ⟨⟩

end Command

end AgentBundles
