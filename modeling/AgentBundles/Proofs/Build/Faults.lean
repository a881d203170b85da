import AgentBundles.Build.Stack
import AgentBundles.Proofs.Compile.Closed
import AgentBundles.Proofs.Compile.Bundle
import AgentBundles.Proofs.Compile.Sections
import AgentBundles.Proofs.Source.Skills
import AgentBundles.Proofs.Validation.Ending

/-!
# Faults that are not reported

Most faults are of kinds that are reported. Here we find out which faults of the parts of a build
are not, and what in the inputs makes them: the documents of the source tree, the settings of
templates, replies of the web, hooks, and short names that lead on.
-/

namespace AgentBundles

/-! ### Steps -/

section Steps

variable {ε ε' α β : Type} {kind : ε → FaultKind} {escapes : ε → Prop}

/-- The faults of steps are of kinds that are reported, or among some that escape. -/
def Reports (kind : ε → FaultKind) (escapes : ε → Prop) (x : Except ε α) : Prop :=
  ∀ f, x = .error f → (kind f).isReported = true ∨ escapes f

theorem reports_ok (a : α) :
  Reports kind escapes (.ok a : Except ε α)
  := by
  rintro f ⟨⟩

theorem reports_error {f : ε} (h : (kind f).isReported = true ∨ escapes f) :
  Reports kind escapes (.error f : Except ε α)
  := by
  rintro _ ⟨⟩
  exact h

theorem reports_bind {x : Except ε α} {g : α → Except ε β} (hx : Reports kind escapes x)
    (hg : ∀ a, x = .ok a → Reports kind escapes (g a)) :
  Reports kind escapes (x >>= g)
  := by
  intro f hf
  rcases bind_eq_error_iff.mp hf with hf | ⟨a, ha, hf⟩
  · apply hx f hf
  · apply hg a ha f hf

theorem reports_ite {c : Prop} [Decidable c] {x y : Except ε α} (hx : Reports kind escapes x)
    (hy : Reports kind escapes y) :
  Reports kind escapes (if c then x else y)
  := by
  split
  · exact hx
  · exact hy

/-- Steps that go on unless something holds, which is a fault of its own. -/
theorem reports_unless {c : Prop} [Decidable c] {f : ε} {g : β → Except ε α} {x : Except ε α}
    (hf : c → (kind f).isReported = true ∨ escapes f) (hx : ¬ c → Reports kind escapes x) :
  Reports kind escapes (if c then throw f >>= g else x)
  := by
  split
  · rename_i hc
    apply reports_error (hf hc)
  · rename_i hc
    exact hx hc

theorem reports_map {x : Except ε α} {g : α → β} (hx : Reports kind escapes x) :
  Reports kind escapes (x.map g)
  := by
  intro f hf
  cases x with
  | ok a => cases hf
  | error e =>
      cases hf
      apply hx f rfl

/-- Faults that are seen as others are reported if the others are, and escape as the others do. -/
theorem reports_mapError {escapes' : ε' → Prop} {kind' : ε' → FaultKind} {x : Except ε α}
    {g : ε → ε'} (h : ∀ f, x = .error f → (kind' (g f)).isReported = true ∨ escapes' (g f)) :
  Reports kind' escapes' (x.mapError g)
  := by
  intro f' hf'
  obtain ⟨f, hf, rfl⟩ := mapError_eq_error_iff.mp hf'
  apply h f hf

theorem reports_mapM {g : α → Except ε β} {xs : List α} (h : ∀ x ∈ xs, Reports kind escapes (g x)) :
  Reports kind escapes (xs.mapM g)
  := by
  intro f hf
  obtain ⟨x, hx, hf⟩ := exists_of_mapM_eq_error hf
  apply h x hx f hf

/-- What is not reported escapes. -/
theorem isReported_or_not (kind : ε → FaultKind) (f : ε) :
  (kind f).isReported = true ∨ (kind f).isReported = false
  := by
  cases (kind f).isReported
  · exact Or.inr rfl
  · exact Or.inl rfl

end Steps

/-! ### Faults of which all are reported -/

theorem FileFault.isReported (f : FileFault) :
  f.kind.isReported = true
  := by
  cases f with
  | path cause p => cases cause <;> rfl
  | _ => rfl

theorem StorageFault.isReported (f : StorageFault) :
  f.kind.isReported = true
  := by
  cases f with
  | file f => apply f.isReported
  | _ => rfl

theorem Json.Fault.isReported (f : Json.Fault) :
  f.kind.isReported = true
  := by
  rw [kind]
  split
  all_goals rfl

theorem CatalogFault.isReported (f : CatalogFault) :
  f.kind.isReported = true
  := by
  cases f
  all_goals rfl

theorem Domain.Fault.isReported (f : Domain.Fault) :
  f.kind.isReported = true
  := by
  cases f
  all_goals rfl

/-! ### YAML -/

/-- A text is well-formed YAML with a value that does not exist, of a kind that is not reported. -/
structure Yaml.Slips (text : String) (f : Yaml.Fault) : Prop where
  read_eq : Yaml.read text = .error f
  ne_malformed : f ≠ .malformed
  not_reported : f.kind.isReported = false

/-- The header of a text is well-formed YAML with a value that does not exist, of a kind that is not
reported. -/
def Header.Slips (text : String) (f : Yaml.Fault) : Prop :=
  ∃ lines rest, block? text.toList = some (lines, rest) ∧ Yaml.Slips (String.ofList lines) f

theorem Header.parse_slips {text : String} {f : Yaml.Fault} (h : parse text = .error f) :
  f.kind.isReported = true ∨ Slips text f
  := by
  obtain ⟨lines, rest, hblock, hread, hne⟩ := parse_eq_error_iff.mp h
  apply (isReported_or_not Yaml.Fault.kind f).imp_right
  intro hkind
  exact ⟨lines, rest, hblock, hread, hne, hkind⟩

theorem Header.split_eq_error_iff {text : String} {f : Yaml.Fault} :
  split text = .error f ↔ parse text = .error f
  := by
  rw [split, parse, map_eq_error_iff, map_eq_error_iff]

/-! ### Source trees -/

/-- The paths of the YAML documents of a source tree. -/
inductive SourceTree.HasDocument (t : SourceTree) (d : Disk) : FilePath → Prop where
  | matrix : t.HasDocument d (t.root.below ["skills-matrix.yaml"])
  | profiles : t.HasDocument d (t.root.below ["agents.yaml"])
  | metadata {place : Place} : place ∈ t.skillPlaces d →
      t.HasDocument d ((t.skillsRoot.below place).below [SourceTree.metadataFile])
  | stack {id : String} :
      t.HasDocument d (.ofPlace (d.resolve ((t.stacksRoot.child id).below [SourceTree.stackFile])))

/-- The documents of a source tree that make a fault that is not reported: their YAML, or that of
the header of a skill. -/
inductive SourceFault.Escapes (t : SourceTree) (d : Disk) : SourceFault → Prop where
  | yaml {path : FilePath} {text : String} {f : Yaml.Fault} : t.HasDocument d path →
      d.read path = .ok text → Yaml.Slips text f → Escapes t d (.yaml path f)
  | header {place : Place} {text : String} {f : Yaml.Fault} : place ∈ t.skillPlaces d →
      d.read ((t.skillsRoot.below place).below [SourceTree.skillFile]) = .ok text →
      Header.Slips text f → Escapes t d (.header f)

namespace SourceTree

variable {t : SourceTree} {d : Disk} {α : Type}

/-- Steps on a source tree whose faults are reported, or escape. -/
abbrev Accounted (t : SourceTree) (d : Disk) (x : Except SourceFault α) : Prop :=
  Reports SourceFault.kind (SourceFault.Escapes t d) x

theorem accounted_file (x : Except FileFault α) :
  Accounted t d (x.mapError .file)
  := reports_mapError fun f _ => Or.inl f.isReported

theorem accounted_text (path : FilePath) :
  Accounted t d (t.text d path)
  := by
  rw [text]
  apply reports_bind (accounted_file _)
  intro is _
  apply reports_unless (fun _ => Or.inl rfl)
  intro _
  apply reports_unless (fun _ => Or.inl rfl)
  intro _
  apply accounted_file

theorem accounted_document {path : FilePath} (hpath : t.HasDocument d path)
    (read : Value → Except Record.Fault α) :
  Accounted t d (t.document d path read)
  := by
  rw [document]
  apply reports_bind (accounted_text path)
  intro s hs
  apply reports_bind
  · apply reports_mapError
    intro f hf
    by_cases hne : f = .malformed
    · subst hne
      exact Or.inl rfl
    · have hkind : (SourceFault.yaml path f).kind = f.kind := by
        cases f
        case malformed => exact absurd rfl hne
        all_goals rfl
      rw [hkind]
      apply (isReported_or_not Yaml.Fault.kind f).imp_right
      intro hkind
      exact .yaml hpath (read_of_text hs) ⟨hf, hne, hkind⟩
  · intro v _
    apply reports_mapError fun _ _ => Or.inl rfl

theorem accounted_resources (directory : FilePath) :
  Accounted t d (t.resources d directory)
  := by
  apply reports_mapM
  intro place _
  apply reports_map (accounted_text _)

theorem accounted_skill? {place : Place} (hplace : place ∈ t.skillPlaces d) :
  Accounted t d (t.skill? d place)
  := by
  rw [skill?]
  apply reports_bind (accounted_file _)
  intro is _
  split
  · apply reports_ok
  · apply reports_bind (accounted_text _)
    intro s hs
    apply reports_bind
    · apply reports_mapError
      intro f hf
      apply (Header.parse_slips (Header.split_eq_error_iff.mp hf)).imp_right
      apply SourceFault.Escapes.header hplace (read_of_text hs)
    · rintro ⟨header, body⟩ _
      dsimp only
      split
      · apply reports_bind (accounted_document (.metadata hplace) _)
        intro metadata _
        apply reports_bind
        · rw [descriptionIn]
          split
          · split
            · apply reports_ok
            · split
              · apply reports_ok
              · apply reports_error (Or.inl rfl)
          · apply reports_ok
        · intro description _
          apply reports_bind (accounted_resources _)
          intro resources _
          apply reports_ok
      · apply reports_ok

theorem accounted_catalog :
  Accounted t d (t.catalog d)
  := by
  rw [catalog]
  apply reports_bind (accounted_document .matrix _)
  intro matrix _
  apply reports_bind
  · rw [skills]
    apply reports_bind (accounted_file _)
    intro is _
    apply reports_unless (fun _ => Or.inl rfl)
    intro _
    apply reports_bind (reports_mapM fun place => accounted_skill?)
    intro skills _
    apply reports_ok
  · intro skills _
    apply reports_mapError fun f _ => Or.inl f.isReported

theorem accounted_profiles :
  Accounted t d (t.profiles d)
  := by
  rw [profiles]
  apply reports_bind (accounted_file _)
  intro is _
  split
  · apply reports_ok
  · apply reports_bind (accounted_document .profiles _)
    intro profiles _
    apply reports_ok

theorem accounted_stack (id : String) :
  Accounted t d (t.stack d id)
  := by
  rw [stack]
  apply reports_unless (fun _ => Or.inl rfl)
  intro _
  apply reports_unless (fun _ => Or.inl rfl)
  intro _
  apply accounted_document .stack

end SourceTree

/-! ### Templates -/

/-- What makes a fault of the template with an identifier on the web that is not reported: its
address, or the one that the reply names, the headers of the reply, the limit of replies, or the
character set of the reply. -/
inductive TemplateFault.Escapes (site : TemplateSite) (web : Web) (id : String) : TemplateFault →
    Prop where
  | address {f : AddressFault} : site.addressOf id = .error (.address f) →
      Escapes site web id (.address f)
  | location {request : Web.Request} {status : Nat} {headers : Web.Headers} {body : List UInt8}
      {location : String} {f : AddressFault} : site.request id = .ok request →
      web request = .answer status headers body → Web.location? status headers = some location →
      Web.checkLocation request location = .error (.address f) →
      Escapes site web id (.reply (.address f))
  | header {request : Web.Request} {f : Web.HeaderFault} : site.request id = .ok request →
      web request = .unreadable f → f.kind.isReported = false →
      Escapes site web id (.reply (.header f))
  | limit : site.limit.asNumber? = none → Escapes site web id (.limit site.limit)
  | charset {request : Web.Request} {c : Web.Content} {f : Charset.Fault} : site.request id
      = .ok request → (web request).content request = .ok c → c.text = .error f →
      f.kind.isReported = false → Escapes site web id (.charset f)

/-- Faults of templates that are not there are none. -/
theorem Template.of_found_eq_error {r : Except TemplateFault String} {f : TemplateFault}
    (h : found r = .error f) :
  r = .error f
  := by
  cases r with
  | ok s => cases h
  | error e =>
      rw [found] at h
      split at h
      · cases h
      · cases h
        rfl

theorem TemplateDirectory.isReported_of_get {t : TemplateDirectory} {d : Disk} {id : String}
    {f : TemplateFault} (h : t.get d id = .error f) :
  f.kind.isReported = true
  := by
  have hall : Reports TemplateFault.kind (fun _ => False) (t.get d id) := by
    rw [get]
    apply reports_unless (fun _ => Or.inl rfl)
    intro _
    apply reports_unless (fun _ => Or.inl rfl)
    intro _
    apply reports_bind (reports_mapError fun f _ => Or.inl f.isReported)
    intro is _
    apply reports_unless (fun _ => Or.inl rfl)
    intro _
    apply reports_unless (fun _ => Or.inl rfl)
    intro _
    apply reports_mapError fun f _ => Or.inl f.isReported
  simpa using hall f h

namespace TemplateSite

variable {site : TemplateSite} {web : Web} {α : Type}

/-- Steps on templates of the web whose faults are reported, or escape. -/
abbrev Accounted (site : TemplateSite) (web : Web) (id : String) (x : Except TemplateFault α) :
    Prop :=
  Reports TemplateFault.kind (TemplateFault.Escapes site web id) x

theorem accounted_addressOf (id : String) :
  Accounted site web id (site.addressOf id)
  := by
  have hall : Reports TemplateFault.kind (fun f => ∃ f', f = .address f') (site.addressOf id) := by
    rw [addressOf]
    apply reports_bind
    · rw [addressText]
      split
      · apply reports_ok
      · apply reports_error (Or.inl rfl)
    · intro text _
      apply reports_bind (reports_mapError fun f _ => Or.inr ⟨f, rfl⟩)
      intro address _
      split
      · apply reports_ok
      · apply reports_mapError fun f _ => Or.inr ⟨f, rfl⟩
  intro f hf
  rcases hall f hf with hkind | ⟨f', rfl⟩
  · exact Or.inl hkind
  · exact Or.inr (.address hf)

theorem accounted_request (id : String) :
  Accounted site web id (site.request id)
  := by
  rw [request]
  apply reports_bind (accounted_addressOf id)
  intro address _
  apply reports_bind
  · rw [withHost]
    split
    · apply reports_ok
    · apply reports_mapError fun f _ => Or.inl f.isReported
  · intro headers _
    apply reports_ok

/-- The address that a reply names is none, or makes a fault that is reported. -/
theorem reports_checkLocation (request : Web.Request) (location : String) :
  Reports Web.ReplyFault.kind (fun f => ∃ f', f = .address f') (Web.checkLocation request location)
  := by
  rw [Web.checkLocation]
  apply reports_bind (reports_mapError fun _ _ => Or.inl rfl)
  intro a _
  apply reports_bind (reports_mapError fun f _ => Or.inl f.isReported)
  intro _ _
  split
  · apply reports_bind (reports_mapError fun f _ => Or.inr ⟨f, rfl⟩)
    intro _ _
    apply reports_ok
  · apply reports_ok

/-- An answer has content, but for faults that are reported and addresses that are none. -/
theorem reports_content_answer (request : Web.Request) (status : Nat) (headers : Web.Headers)
    (body : List UInt8) :
  Reports Web.ReplyFault.kind (fun f => ∃ location f',
    Web.location? status headers = some location ∧ f = .address f' ∧
    Web.checkLocation request location = .error (.address f'))
      ((Web.Reply.answer status headers body).content request)
  := by
  rw [Web.Reply.content]
  split
  · apply reports_unless (fun _ => Or.inl rfl)
    intro _
    split
    · rename_i location hsome
      apply reports_bind
      · intro f hf
        rcases reports_checkLocation request location f hf with hkind | ⟨f', rfl⟩
        · exact Or.inl hkind
        · exact Or.inr ⟨location, f', hsome, rfl, hf⟩
      · intro _ _
        apply reports_ok
    · apply reports_ok
  · apply reports_error (Or.inl rfl)

/-- What keeps a reply from having content: it is not reported if its headers cannot be read, or it
names an address that is none. -/
theorem of_content_eq_error {request : Web.Request} {reply : Web.Reply} {f : Web.ReplyFault}
    (h : reply.content request = .error f) :
  f.kind.isReported = true ∨
    (∃ f', reply = .unreadable f' ∧ f = .header f' ∧ f'.kind.isReported = false) ∨
    ∃ status headers body location f', reply = .answer status headers body ∧
      Web.location? status headers = some location ∧ f = .address f' ∧
      Web.checkLocation request location = .error (.address f')
  := by
  cases reply with
  | none =>
      cases h
      exact Or.inl rfl
  | unreadable f' =>
      cases h
      apply (isReported_or_not Web.HeaderFault.kind f').imp_right
      intro hkind
      exact Or.inl ⟨f', rfl, rfl, hkind⟩
  | answer status headers body =>
      rcases reports_content_answer request status headers body f h
        with hkind | ⟨location, f', hsome, rfl, hcheck⟩
      · exact Or.inl hkind
      · exact Or.inr (Or.inr ⟨status, headers, body, location, f', rfl, hsome, rfl, hcheck⟩)

theorem accounted_get (id : String) :
  Accounted site web id (site.get web id)
  := by
  rw [get]
  apply reports_bind (accounted_request id)
  intro request hrequest
  apply reports_bind
  · apply reports_mapError
    intro f hf
    rcases of_content_eq_error hf with hkind | ⟨f', hreply, rfl, hkind⟩ | ⟨_, _, _, _, f', hreply,
      hsome, rfl, hcheck⟩
    · exact Or.inl hkind
    · exact Or.inr (.header hrequest hreply hkind)
    · exact Or.inr (.location hrequest hreply hsome hcheck)
  · intro c hc
    rw [textOf]
    apply reports_unless (fun _ => Or.inl rfl)
    intro _
    apply reports_unless (fun _ => Or.inl rfl)
    intro _
    apply reports_bind
    · rw [exceeds]
      split
      · apply reports_ok
      · apply reports_ok
      · rename_i hnone
        apply reports_error (Or.inr (.limit hnone))
    · intro is _
      apply reports_unless (fun _ => Or.inl rfl)
      intro _
      apply reports_mapError
      intro f hf
      apply (isReported_or_not Charset.Fault.kind f).imp_right
      intro hkind
      exact .charset hrequest (mapError_eq_ok_iff.mp hc) hf hkind

end TemplateSite

/-- What makes a fault of templates with some identifiers that is not reported: they are on the
web. -/
def TemplateSource.Escapes (source : TemplateSource) (web : Web) (ids : List String)
    (f : TemplateFault) : Prop :=
  ∃ site, source = .site site ∧ ∃ id ∈ ids, f.Escapes site web id

theorem TemplateSource.reports_fetch {source : TemplateSource} {d : Disk} {web : Web}
    (ids : List String) :
  Reports TemplateFault.kind (source.Escapes web ids) (source.fetch d web ids)
  := by
  rw [fetch, Template.fetch]
  apply reports_bind
  · apply reports_mapM
    intro id hid
    apply reports_map
    intro f hf
    have hget := Template.of_found_eq_error hf
    cases source with
    | directory t => exact Or.inl (TemplateDirectory.isReported_of_get hget)
    | site t =>
        apply (TemplateSite.accounted_get id f hget).imp_right
        intro hescapes
        exact ⟨t, rfl, id, Text.mem_distinct.mp hid, hescapes⟩
  · intro found _
    apply reports_ok

/-! ### Where templates come from -/

/-- The settings of templates on the web that make a fault that is not reported. -/
inductive SiteFault.Escapes (options : Entries) : SiteFault → Prop where
  | noBase : options.field? "base_url" = none → Escapes options .noBase
  | base {v : Value} : options.field? "base_url" = some v → (∀ s, v ≠ .str s) →
      Escapes options (.base v)
  | query {f : Web.QueryFault} : Web.Query.ofValue (TemplateSite.setting options "params")
      = .error f → f.kind.isReported = false → Escapes options (.query f)
  | header {f : Web.HeaderFault} : Web.Headers.ofValue (TemplateSite.setting options "headers")
      = .error f → f.kind.isReported = false → Escapes options (.header f)

theorem TemplateSite.reports_ofSettings (options : Entries) (callerRequests : Bool) :
  Reports SiteFault.kind (SiteFault.Escapes options)
    (TemplateSite.ofSettings options callerRequests)
  := by
  rw [ofSettings]
  apply reports_unless
  · intro hnone
    exact Or.inr (.noBase (Option.isNone_iff_eq_none.mp hnone))
  · intro hsome
    obtain ⟨v, hv⟩ : ∃ v, options.field? "base_url" = some v := by
      rw [← Option.ne_none_iff_exists']
      simpa using hsome
    apply reports_unless (fun _ => Or.inl rfl)
    intro _
    apply reports_bind
    · rw [baseOf]
      have hsetting : TemplateSite.setting options "base_url" = v := by
        rw [setting, hv]
        rfl
      rw [hsetting]
      split
      · apply reports_bind (reports_mapError fun _ _ => Or.inl rfl)
        intro scheme _
        apply reports_unless (fun _ => Or.inl rfl)
        intro _
        apply reports_ok
      · rename_i hne
        apply reports_error (Or.inr (.base hv hne))
    · intro base _
      apply reports_bind
      · apply reports_mapError
        intro f hf
        apply (isReported_or_not Web.QueryFault.kind f).imp_right
        apply SiteFault.Escapes.query hf
      · intro query _
        apply reports_bind
        · apply reports_mapError
          intro f hf
          apply (isReported_or_not Web.HeaderFault.kind f).imp_right
          apply SiteFault.Escapes.header hf
        · intro headers _
          apply reports_ok

/-- The settings of templates that make a fault that is not reported. -/
inductive Build.TemplatesEscape (s : TemplateSettings) : Build.Fault → Prop where
  | root {v : Value} : s.provider = "fs" → s.options.field? "root" = some v →
      (∀ path, v ≠ .str path) → TemplatesEscape s (.templatePath v)
  | site {f : SiteFault} : s.provider = "http" → f.Escapes s.options → TemplatesEscape s (.site f)

theorem TemplateSource.reports_ofSettings (t : SourceTree) (d : Disk)
    (s? : Option TemplateSettings) :
  Reports Build.Fault.kind (fun f => ∃ s, s? = some s ∧ Build.TemplatesEscape s f)
    (TemplateSource.ofSettings t d s?)
  := by
  have hdirectory : ∀ r,
      Reports Build.Fault.kind (fun f => ∃ s, s? = some s ∧ Build.TemplatesEscape s f)
      (TemplateSource.ofDirectory r) :=
    fun r => reports_mapError fun f _ => Or.inl f.isReported
  rw [ofSettings.eq_def]
  split
  · apply hdirectory
  · rename_i s
    split
    · rename_i hprovider
      rw [directoryOf]
      split
      · apply hdirectory
      · apply hdirectory
      · rename_i v hne hroot
        apply reports_error
        exact Or.inr ⟨s, rfl, .root hprovider hroot hne⟩
    · rename_i hprovider
      apply reports_mapError
      intro f hf
      have hsite : TemplateSite.ofSettings s.options false = .error f := by
        cases hsite : TemplateSite.ofSettings s.options false with
        | ok site =>
            rw [hsite] at hf
            cases hf
        | error e =>
            rw [hsite] at hf
            cases hf
            rfl
      apply (TemplateSite.reports_ofSettings s.options false f hsite).imp_right
      intro hescapes
      exact ⟨s, rfl, .site hprovider hescapes⟩
    · apply reports_error (Or.inl rfl)

/-! ### Compiling -/

/-- What makes a fault of compiling that is not reported: hooks that have no JSON text, or a short
name that is the identifier of a skill and leads on to something that is none. -/
inductive CompileFault.Escapes (c : Catalog) (hooks : Value) : CompileFault → Prop where
  | hooks {part : Json.Unwritable} : Json.unwritable? (.ofFields [("hooks", hooks)]) = some part →
      part.kind.isReported = false → Escapes c hooks (.hooks part)
  | skill {id : String} : c.contains id = true → c.skill? id = none →
      Escapes c hooks (.unknownSkill (c.resolve id))

namespace Compile

variable {c : Catalog} {s : ValidatedSelection} {hooks : Value} {α : Type}

/-- Steps of compiling whose faults are reported, or escape. -/
abbrev Accounted (c : Catalog) (hooks : Value) (x : Except CompileFault α) : Prop :=
  Reports CompileFault.kind (CompileFault.Escapes c hooks) x

theorem accounted_skillOf {id : String} (h : c.contains id = true) :
  Accounted c hooks (skillOf c id)
  := by
  rw [skillOf]
  split
  · apply reports_ok
  · rename_i hnone
    apply reports_error (Or.inr (.skill h hnone))

/-- The skills that a profile preloads are there, if the profile can be compiled. -/
theorem contains_of_preloadedIds {p : AgentProfile} {templates : Table String} {ids : List String}
    (h : preloadedIds c p templates = .ok ids) :
  ∀ id ∈ ids, c.contains id = true
  := by
  rw [preloadedIds] at h
  split at h
  · cases h
  · split at h
    · cases h
    · rename_i hnone
      cases h
      intro id hid
      rw [Text.mem_distinct] at hid
      simp only [Bool.not_eq_true, Bool.not_eq_false', List.isEmpty_iff, List.filter_eq_nil_iff]
        at hnone
      simpa using hnone id hid

/-- What keeps skills from being looked up for an agent: one of them is not there. -/
theorem of_relevant_eq_error {r : Routing} {name id : String} {ids : List String}
    (h : r.relevant c name ids = .error id) :
  ∃ id' ∈ ids, id = c.resolve id' ∧ c.skill? id' = none
  := by
  rw [Routing.relevant] at h
  split at h
  · cases h
  · rcases bind_eq_error_iff.mp h with h | ⟨kept, -, ⟨⟩⟩
    obtain ⟨id', hid', h⟩ := exists_of_mapM_eq_error h
    split at h
    · cases h
    · rename_i hnone
      cases h
      exact ⟨id', hid', rfl, hnone⟩

theorem accounted_agent (hs : ∀ id ∈ s.selection.ids, c.contains id = true) (p : AgentProfile)
    (templates : Table String) (routing : Routing) :
  Accounted c hooks (agent c s p templates routing)
  := by
  intro f hf
  rcases agent_eq_error_iff.mp hf
    with hf | ⟨ids, hids, ⟨id, hunknown, rfl⟩ | ⟨relevant, hrelevant, hf | ⟨preloaded, -, hf⟩⟩⟩
  · rw [preloadedIds] at hf
    split at hf
    · cases hf
      exact Or.inl rfl
    · split at hf
      · cases hf
        exact Or.inl rfl
      · cases hf
  · obtain ⟨id', hid', rfl, hnone⟩ := of_relevant_eq_error hunknown
    exact Or.inr (.skill (hs id' hid') hnone)
  · exact reports_mapM (fun id hid => accounted_skillOf (contains_of_preloadedIds hids id hid)) f hf
  · refine reports_mapM (fun id hid => accounted_skillOf ?_) f hf
    rcases List.mem_append.mp (Text.mem_distinct.mp (List.mem_of_mem_filter hid)) with hid | hid
    · apply contains_of_preloadedIds hids id hid
    · apply hs id (mem_of_relevant hrelevant hid)

theorem accounted_agents (hs : ∀ id ∈ s.selection.ids, c.contains id = true)
    (templates : Table String) (routing : Routing) (seen : List String)
    (profiles : List AgentProfile) :
  Accounted c hooks (agents c s templates routing seen profiles)
  := by
  induction profiles generalizing seen with
  | nil => apply reports_ok
  | cons p profiles ih =>
      rw [agents]
      split
      · apply reports_error (Or.inl rfl)
      · apply reports_bind (accounted_agent hs p templates routing)
        intro a _
        apply reports_bind (ih _)
        intro as _
        apply reports_ok

/-- The skills that go into an agent are there. -/
theorem contains_of_contributors (hs : ∀ id ∈ s.selection.ids, c.contains id = true)
    {p : AgentProfile} {templates : Table String} {routing : Routing} {a : AgentCompilation}
    (h : agent c s p templates routing = .ok a) :
  ∀ id ∈ a.document.contributors, c.contains id = true
  := by
  obtain ⟨ids, relevant, preloaded, indexed, hparts⟩ := agent_eq_ok_iff.mp h
  intro id hid
  rw [hparts.contributors_eq, Text.mem_distinct] at hid
  rcases List.mem_append.mp hid with hid | hid
  · apply contains_of_preloadedIds hparts.preloadedIds_eq id hid
  · apply hs id (mem_of_relevant hparts.relevant_eq hid)

theorem accounted_skills {ids : List String} (hids : ∀ id ∈ ids, c.contains id = true)
    (seen : Table String) :
  Accounted c hooks (skills c seen ids)
  := by
  induction ids generalizing seen with
  | nil => apply reports_ok
  | cons id ids ih =>
      obtain ⟨hid, hids⟩ := List.forall_mem_cons.mp hids
      rw [skills]
      apply reports_bind (accounted_skillOf hid)
      intro t _
      split
      · apply reports_error (Or.inl rfl)
      · apply reports_bind (ih hids _)
        intro ts _
        apply reports_ok

theorem accounted_hooksDocument :
  Accounted c hooks (hooksDocument hooks)
  := by
  rw [hooksDocument]
  split
  · apply reports_ok
  · dsimp only
    split
    · rename_i part hpart
      apply reports_error
      apply (isReported_or_not Json.Unwritable.kind part).imp_right
      apply CompileFault.Escapes.hooks hpart
    · apply reports_ok

/-- Compiling a selection of skills that are there ends with a fault that is reported, but for hooks
without JSON text and short names that lead on. -/
theorem accounted_bundle (hs : ∀ id ∈ s.selection.ids, c.contains id = true)
    (profiles : List AgentProfile) (templates : Table String) (name : String) (routing : Routing) :
  Accounted c hooks (bundle c s profiles templates name routing hooks)
  := by
  rw [bundle]
  apply reports_bind (accounted_agents hs templates routing [] profiles)
  intro as has
  apply reports_bind
  · apply accounted_skills
    intro id hid
    rcases List.mem_append.mp (Text.mem_distinct.mp hid) with hid | hid
    · apply hs id hid
    · obtain ⟨a, ha, hid⟩ := List.mem_flatMap.mp hid
      obtain ⟨p, -, hcompiled⟩ := (mem_of_mapM_eq_ok (mapM_agent_of_agents has)).mp ha
      apply contains_of_contributors hs hcompiled id hid
  · intro ss _
    apply reports_bind accounted_hooksDocument
    intro hooks _
    apply reports_ok

end Compile

/-- The skills of a selection that passed validation are there. -/
theorem Catalog.contains_of_validated? {c : Catalog} {s : Selection String} {v : ValidatedSelection}
    (h : (c.validate s).validated? = some v) :
  ∀ id ∈ v.selection.ids, c.contains id = true
  := by
  have hok : (c.validate s).ok = true := by
    rw [← validated?_isSome_iff, h]
    rfl
  rw [selection_of_validated?_eq_some h]
  apply ((validate_ok_iff s).mp hok).1

end AgentBundles
