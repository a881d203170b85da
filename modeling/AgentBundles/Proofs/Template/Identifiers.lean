import AgentBundles.Proofs.Data.Entries
import AgentBundles.Proofs.Validation.Grammars
import AgentBundles.Proofs.Web.Continued
import AgentBundles.Template.Remote

/-!
# Identifiers that are asked for

Which identifiers of templates are asked for on the web, and at which addresses. Every segment of
such an identifier is a name that stands for itself in an address, but that a line feed may follow
it, which is written as a byte. The base stands before the identifier as it is, without slashes at
its end; what the web is asked for is the normal form of the whole.
-/

namespace AgentBundles

namespace TemplateSite

open Address

variable {t : TemplateSite} {id : String}

/-! ### Names -/

/-- Names that stand for themselves in an address: an ASCII letter or digit, and letters, digits,
dots, underscores and hyphens after it. -/
def IsSafeName (cs : List Char) : Prop :=
  ∃ c ds, cs = c :: ds ∧ Text.isAsciiAlphanumeric c = true ∧ ∀ d ∈ ds, isNameChar d = true

theorem IsSafeName.isNameChar {cs : List Char} (h : IsSafeName cs) :
  ∀ c ∈ cs, isNameChar c = true
  := by
  obtain ⟨c, ds, rfl, hc, hds⟩ := h
  rw [List.forall_mem_cons]
  refine ⟨?_, hds⟩
  simp [TemplateSite.isNameChar, hc]

theorem IsSafeName.feed_not_mem {cs : List Char} (h : IsSafeName cs) :
  '\n' ∉ cs
  := by
  intro hmem
  have hfeed := h.isNameChar '\n' hmem
  revert hfeed
  decide

/-- Identifiers of which every segment is such a name. -/
def IsSafe (id : String) : Prop := ∀ n ∈ Text.segments id, IsSafeName n.toList

/-- Identifiers of which every segment is such a name, or one with a line feed after it. -/
def IsAccepted (id : String) : Prop := ∀ n ∈ Text.segments id, Text.MayEndLine IsSafeName n.toList

theorem isName_iff {n : String} :
  isName n = true ↔ Text.MayEndLine IsSafeName n.toList
  := by
  rw [← Text.dropFinalBreak_iff fun _ h => h.feed_not_mem, isName]
  cases Text.dropFinalBreak n.toList with
  | nil => simp [IsSafeName]
  | cons c ds => simp [IsSafeName]

theorem all_isName_iff :
  (Text.segments id).all isName = true ↔ IsAccepted id
  := by
  rw [List.all_eq_true]
  simp only [isName_iff, IsAccepted]

theorem IsSafe.isAccepted (h : IsSafe id) :
  IsAccepted id
  := fun n hn => Or.inl (h n hn)

/-- A segment that is asked for may have a line feed at its end only. -/
theorem IsAccepted.exists_line (h : IsAccepted id) {n : String} (hn : n ∈ Text.segments id) :
  ∃ line, IsSafeName line ∧ (n.toList = line ∨ n.toList = line ++ ['\n'])
  := by
  rcases h n hn with hsafe | ⟨line, hsafe, heq⟩
  · exact ⟨n.toList, hsafe, Or.inl rfl⟩
  · exact ⟨line, hsafe, Or.inr heq⟩

theorem exists_segment_of_mem {c : Char} (h : c ∈ id.toList) :
  c = '/' ∨ ∃ n ∈ Text.segments id, c ∈ n.toList
  := by
  rcases Text.mem_fields_of_mem h with heq | ⟨f, hf, hc⟩
  · exact Or.inl heq
  · refine Or.inr ⟨String.ofList f, List.mem_map.mpr ⟨f, hf, rfl⟩, ?_⟩
    rw [String.toList_ofList]
    apply hc

/-- The characters of an identifier that is asked for. -/
theorem IsAccepted.of_mem (h : IsAccepted id) {c : Char} (hc : c ∈ id.toList) :
  c = '/' ∨ c = '\n' ∨ isNameChar c = true
  := by
  rcases exists_segment_of_mem hc with heq | ⟨n, hn, hmem⟩
  · exact Or.inl heq
  · obtain ⟨line, hsafe, heq | heq⟩ := h.exists_line hn
    · rw [heq] at hmem
      exact Or.inr (Or.inr (hsafe.isNameChar c hmem))
    · rw [heq, List.mem_append, List.mem_singleton] at hmem
      rcases hmem with hmem | hfeed
      · exact Or.inr (Or.inr (hsafe.isNameChar c hmem))
      · exact Or.inr (Or.inl hfeed)

/-- An identifier that is asked for stands for itself exactly if there is no line feed in it. -/
theorem IsAccepted.isSafe_iff (h : IsAccepted id) :
  IsSafe id ↔ '\n' ∉ id.toList
  := by
  constructor
  · intro hsafe hmem
    rcases exists_segment_of_mem hmem with heq | ⟨n, hn, hmem⟩
    · cases heq
    · exact (hsafe n hn).feed_not_mem hmem
  · intro hfeed n hn
    obtain ⟨line, hsafe, heq | heq⟩ := h.exists_line hn
    · rw [heq]
      apply hsafe
    · apply absurd _ hfeed
      apply Text.mem_of_mem_segments hn
      rw [heq]
      exact List.mem_append_right line (List.mem_singleton_self _)

/-! ### Identifiers in addresses -/

/-- What is put for a character of an identifier. -/
def put (c : Char) : List Char := if c == '\n' then ['%', '0', 'A'] else [c]

/-- An identifier with its line feeds written as bytes. -/
def written (id : String) : String := String.ofList (id.toList.flatMap put)

theorem written_eq_self (h : '\n' ∉ id.toList) :
  written id = id
  := by
  have hput : id.toList.flatMap put = id.toList.flatMap fun c => [c] := by
    apply List.flatMap_congr
    intro c hc
    have hne : c ≠ '\n' := by
      rintro rfl
      exact h hc
    rw [put, beq_eq_false_iff_ne.mpr hne, if_neg Bool.false_ne_true]
  rw [written, hput, List.flatMap_singleton', String.ofList_toList]

theorem put_injective {cs ds : List Char} (hcs : '%' ∉ cs) (hds : '%' ∉ ds)
    (h : cs.flatMap put = ds.flatMap put) :
  cs = ds
  := by
  induction cs generalizing ds with
  | nil =>
      cases ds with
      | nil => rfl
      | cons d ds =>
          rw [List.flatMap_nil, List.flatMap_cons, put] at h
          split at h
          · cases h
          · cases h
  | cons c cs ih =>
      rw [List.mem_cons, not_or] at hcs
      cases ds with
      | nil =>
          rw [List.flatMap_nil, List.flatMap_cons, put] at h
          split at h
          · cases h
          · cases h
      | cons d ds =>
          rw [List.mem_cons, not_or] at hds
          rw [List.flatMap_cons, List.flatMap_cons, put, put] at h
          split at h
          · rename_i hc
            split at h
            · rename_i hd
              rw [eq_of_beq hc, eq_of_beq hd, ih hcs.2 hds.2 (List.append_cancel_left h)]
            · injection h with hd _
              exact absurd hd hds.1
          · split at h
            · injection h with hc _
              exact absurd hc.symm hcs.1
            · injection h with hhead htail
              rw [hhead, ih hcs.2 hds.2 htail]

theorem IsAccepted.percent_not_mem (h : IsAccepted id) :
  '%' ∉ id.toList
  := by
  intro hmem
  rcases h.of_mem hmem with heq | heq | hname
  · cases heq
  · cases heq
  · revert hname
    decide

/-- Different identifiers are written differently. -/
theorem written_injective {id' : String} (h : IsAccepted id) (h' : IsAccepted id')
    (heq : written id = written id') :
  id = id'
  := by
  rw [written, written, String.ofList_inj] at heq
  rw [← String.toList_inj]
  apply put_injective h.percent_not_mem h'.percent_not_mem heq

/-- The names of an identifier as they stand in an address. -/
def names (id : String) : List String :=
  (Text.segments id).map fun n => String.ofList (Text.percentEncode Text.isUnreserved n.toList)

theorem isUnreserved_of_isNameChar {c : Char} (h : isNameChar c = true) :
  Text.isUnreserved c = true
  := by
  rw [Text.isUnreserved, Bool.or_eq_true]
  exact Or.inl h

theorem put_of_isNameChar {c : Char} (h : isNameChar c = true) :
  put c = [c]
  := by
  have hne : c ≠ '\n' := by
    rintro rfl
    revert h
    decide
  rw [put, beq_eq_false_iff_ne.mpr hne, if_neg Bool.false_ne_true]

theorem IsAccepted.join_names (h : IsAccepted id) :
  Text.join "/" (names id) = written id
  := by
  have hfields : (names id).map String.toList
      = (Text.fields '/' id.toList).map (Text.percentEncode Text.isUnreserved) := by
    rw [names, Text.segments, Text.split, List.map_map, List.map_map]
    apply List.map_congr_left
    intro f _
    simp
  have hjoin : (Text.join "/" (names id)).toList
      = ['/'].intercalate ((names id).map String.toList) := Text.toList_join '/' _
  rw [← String.toList_inj, hjoin, hfields, written, String.toList_ofList]
  apply (Text.intercalate_map_fields '/' _ id.toList).trans
  apply List.flatMap_congr
  intro c hc
  rcases h.of_mem hc with rfl | rfl | hname
  · rfl
  · decide
  · have hne : c ≠ '/' := by
      rintro rfl
      revert hname
      decide
    rw [beq_eq_false_iff_ne.mpr hne, if_neg Bool.false_ne_true, isUnreserved_of_isNameChar hname,
      if_pos rfl, put_of_isNameChar hname]

/-- A name of an identifier that is asked for begins with a letter or digit, and no slash stands in
it. -/
theorem IsAccepted.of_mem_names (h : IsAccepted id) {n : String} (hn : n ∈ names id) :
  ∃ c ds, n.toList = c :: ds ∧ Text.isAsciiAlphanumeric c = true ∧ '/' ∉ n.toList
  := by
  obtain ⟨m, hm, rfl⟩ := List.mem_map.mp hn
  obtain ⟨line, hsafe, heq⟩ := h.exists_line hm
  have hstand : Text.percentEncode Text.isUnreserved line = line :=
    Text.percentEncode_of_stand fun c hc => isUnreserved_of_isNameChar (hsafe.isNameChar c hc)
  have hslash : '/' ∉ line := by
    intro hmem
    have hname := hsafe.isNameChar '/' hmem
    revert hname
    decide
  obtain ⟨c, ds, rfl, hc, hds⟩ := hsafe
  rw [String.toList_ofList]
  rcases heq with heq | heq
  · rw [heq, hstand]
    exact ⟨c, ds, rfl, hc, hslash⟩
  · have hfeed : Text.percentEncode Text.isUnreserved ['\n'] = ['%', '0', 'A'] := by decide
    rw [heq, Text.percentEncode_append, hstand, hfeed]
    refine ⟨c, _, rfl, hc, ?_⟩
    rw [List.mem_append, not_or]
    exact ⟨hslash, by decide⟩

theorem isTailChar_of_isNameChar {c : Char} (h : isNameChar c = true) :
  isTailChar c = true
  := by
  simp only [isNameChar, Bool.or_eq_true, beq_iff_eq] at h
  rcases h with ((h | rfl) | rfl) | rfl
  · rw [isTailChar, h, Bool.true_or]
  all_goals decide

theorem IsAccepted.isTailChar_of_mem (h : IsAccepted id) :
  ∀ c ∈ (written id ++ ".md").toList, isTailChar c = true
  := by
  rw [written, String.toList_append, String.toList_ofList, List.forall_mem_append]
  have hending : ".md".toList.all isTailChar = true := by decide
  refine ⟨?_, List.all_eq_true.mp hending⟩
  intro c hc
  obtain ⟨d, hd, hput⟩ := List.mem_flatMap.mp hc
  rcases h.of_mem hd with rfl | rfl | hname
  · rw [List.mem_singleton.mp hput]
    decide
  · have hall : (put '\n').all isTailChar = true := by decide
    apply List.all_eq_true.mp hall c hput
  · rw [put_of_isNameChar hname, List.mem_singleton] at hput
    rw [hput]
    apply isTailChar_of_isNameChar hname

/-- The last name of an identifier has the ending in addition. -/
theorem IsAccepted.exists_segments (h : IsAccepted id) {n : String}
    (hn : n ∈ Text.segments (written id ++ ".md")) :
  ∃ c ds, n.toList = c :: ds ∧ Text.isAsciiAlphanumeric c = true
  := by
  have hne : names id ≠ [] := mt List.map_eq_nil_iff.mp (Text.segments_ne_nil id)
  have hall : ∀ m ∈ (names id).dropLast ++ [(names id).getLast hne ++ ".md"],
      ∃ c ds, m.toList = c :: ds ∧ Text.isAsciiAlphanumeric c = true ∧ '/' ∉ m.toList := by
    rw [List.forall_mem_append, List.forall_mem_singleton]
    refine ⟨fun m hm => h.of_mem_names (List.dropLast_subset _ hm), ?_⟩
    obtain ⟨c, ds, heq, hc, hslash⟩ := h.of_mem_names (List.getLast_mem hne)
    rw [String.toList_append]
    refine ⟨c, ds ++ ".md".toList, by rw [heq]; rfl, hc, ?_⟩
    rw [List.mem_append, not_or]
    exact ⟨hslash, by decide⟩
  rw [← h.join_names, ← List.dropLast_append_getLast hne, Text.join_concat_append,
    Text.segments_join] at hn
  · obtain ⟨c, ds, heq, hc, -⟩ := hall n hn
    exact ⟨c, ds, heq, hc⟩
  · apply List.concat_ne_nil
  · intro m hm
    obtain ⟨-, -, -, -, hslash⟩ := hall m hm
    apply hslash

/-- An identifier that is asked for may follow the base. -/
theorem IsAccepted.isTail (h : IsAccepted id) :
  IsTail (written id ++ ".md")
  := by
  have hnot : ∀ n ∈ Text.segments (written id ++ ".md"), n ≠ "" ∧ n ≠ "." ∧ n ≠ ".." := by
    intro n hn
    obtain ⟨c, ds, heq, hc⟩ := h.exists_segments hn
    refine ⟨?_, ?_, ?_⟩
    · rintro rfl
      cases heq
    · rintro rfl
      cases heq
      cases hc
    · rintro rfl
      cases heq
      cases hc
  constructor
  · apply h.isTailChar_of_mem
  · rintro c hc rfl
    obtain ⟨cs, hcs⟩ := List.head?_eq_some_iff.mp hc
    have hempty : "" ∈ Text.segments (written id ++ ".md") := by
      rw [Text.segments, Text.split, hcs, Text.fields]
      apply List.mem_cons_self
    exact (hnot "" hempty).1 rfl
  · exact fun hmem => (hnot _ hmem).2.1 rfl
  · exact fun hmem => (hnot _ hmem).2.2 rfl

/-! ### Requests -/

theorem addressText_of_isAccepted (t : TemplateSite) (h : IsAccepted id) :
  t.addressText id = .ok (t.base ++ "/" ++ written id ++ ".md")
  := by
  rw [addressText, if_pos (all_isName_iff.mpr h), ← h.join_names]
  rfl

theorem addressText_of_not_isAccepted (t : TemplateSite) (h : ¬ IsAccepted id) :
  t.addressText id = .error (.notAddress id)
  := by
  rw [addressText, if_neg (mt all_isName_iff.mp h)]

theorem of_baseOf_eq_ok {options : Entries} {base s : String}
    (hbase : setting options "base_url" = .str base) (h : baseOf options = .ok s) :
  s = base
  := by
  rw [baseOf, hbase] at h
  dsimp only at h
  obtain ⟨scheme, -, h⟩ := bind_eq_ok_iff.mp h
  split at h
  · cases h
  · exact (Except.ok.inj h).symm

/-- The base of a source has no slashes at its end. -/
theorem base_of_ofBase {base : String} {options : Entries} {callerRequests : Bool}
    (h : ofBase (.str base) options callerRequests = .ok t) :
  t.base = Text.trimSlashes base
  := by
  have hsetting : setting (options.insert (.str "base_url") (.str base)) "base_url"
      = .str base := by
    rw [setting, Entries.field?_insert_self]
    rfl
  rw [ofBase] at h
  split at h
  · cases h
  · rw [ofSettings] at h
    split at h
    · cases h
    · split at h
      · cases h
      · obtain ⟨text, htext, h⟩ := bind_eq_ok_iff.mp h
        obtain ⟨query, -, h⟩ := bind_eq_ok_iff.mp h
        obtain ⟨headers, -, h⟩ := bind_eq_ok_iff.mp h
        cases h
        rw [of_baseOf_eq_ok hsetting htext]
        rfl

theorem getLast?_trimSlashes_ne (s : String) :
  (Text.trimSlashes s).toList.getLast? ≠ some '/'
  := by
  intro hlast
  rw [Text.trimSlashes, String.toList_ofList, Text.stripEndBy, List.getLast?_reverse] at hlast
  have hstop := List.head?_dropWhile_not (· == '/') s.toList.reverse
  rw [hlast] at hstop
  cases hstop

/-- The part of its address in which the base of a source ends. -/
def basePart (t : TemplateSite) : Part := openPart t.base.toList

/-- The address of a template is made of the text of the base and the identifier, and takes the
query of the source. -/
theorem of_addressOf_eq_ok {a : Address} (hid : IsAccepted id) (h : t.addressOf id = .ok a) :
  ∃ a₁ a₂, ofText (t.base ++ "/" ++ (written id ++ ".md")) = .ok a₁ ∧ a₁.toRequest = .ok a₂ ∧
    ((t.query = [] ∧ a = a₂) ∨ (t.query ≠ [] ∧ (a₂.withQuery t.query.text).renew = .ok a))
  := by
  rw [addressOf, addressText_of_isAccepted t hid, ok_bind, String.append_assoc] at h
  obtain ⟨a₂, ha₂, h⟩ := bind_eq_ok_iff.mp h
  obtain ⟨a₁, ha₁, ha₂⟩ := bind_eq_ok_iff.mp (mapError_eq_ok_iff.mp ha₂)
  refine ⟨a₁, a₂, ha₁, ha₂, ?_⟩
  split at h
  · rename_i hempty
    exact Or.inl ⟨List.isEmpty_iff.mp hempty, (Except.ok.inj h).symm⟩
  · rename_i hquery
    exact Or.inr ⟨mt List.isEmpty_iff.mpr hquery, mapError_eq_ok_iff.mp h⟩

/-- An identifier stands in the part of the address in which the base ends, and nothing else in the
address depends on it, unless that part is replaced or does not count. -/
theorem exists_addressOf_eq (hbase : t.base.toList.getLast? ≠ some '/')
    (hpart : t.basePart = .query → t.query = []) :
  ∃ b : Address, b.parts.IsOpen t.basePart ∧ ∀ id a, IsAccepted id → t.addressOf id = .ok a →
    (t.basePart = .fragment → a.isRelative = false) → a = b.extend t.basePart (written id ++ ".md")
  := by
  obtain ⟨b₁, hopen₁, htext⟩ := exists_ofText_append hbase
  obtain ⟨b₂, hopen₂, hrequest⟩ := exists_toRequest_extend hopen₁
  by_cases hquery : t.query = []
  · use b₂, hopen₂
    intro id a hid ha hhost
    obtain ⟨a₁, a₂, ha₁, ha₂, ⟨-, rfl⟩ | ⟨hsome, -⟩⟩ := of_addressOf_eq_ok hid ha
    · rw [htext _ _ hid.isTail ha₁] at ha₂
      apply hrequest _ _ hid.isTail ha₂ hhost
    · exact absurd hquery hsome
  · obtain ⟨b₃, hopen₃, hrenew⟩ := exists_renew_query_extend hopen₂ (mt hpart hquery) t.query.text
    use b₃, hopen₃
    intro id a hid ha hhost
    obtain ⟨a₁, a₂, ha₁, ha₂, ⟨hnil, -⟩ | ⟨-, ha⟩⟩ := of_addressOf_eq_ok hid ha
    · exact absurd hnil hquery
    · have hhost₂ : t.basePart = .fragment → a₂.isRelative = false := by
        intro hfragment
        rw [Bool.eq_false_iff]
        intro hrelative
        have hscheme : (a₂.withQuery t.query.text).scheme = "" := by
          change a₂.scheme = ""
          apply scheme_of_toRequest ha₂ hrelative
        have hhost := hhost hfragment
        rw [isRelative_of_scheme (scheme_of_renew hscheme ha)] at hhost
        cases hhost
      rw [htext _ _ hid.isTail ha₁] at ha₂
      rw [hrequest _ _ hid.isTail ha₂ hhost₂] at ha
      apply hrenew _ _ hid.isTail ha

/-- A query of the source takes the place of that in which the base ends, and the identifiers with
it. -/
theorem exists_addressOf_eq_of_query (hbase : t.base.toList.getLast? ≠ some '/')
    (hpart : t.basePart = .query) (hquery : t.query ≠ []) :
  ∃ b : Address, ∀ id a, IsAccepted id → t.addressOf id = .ok a → a = b
  := by
  obtain ⟨b₁, hopen₁, htext⟩ := exists_ofText_append hbase
  obtain ⟨b₂, -, hrequest⟩ := exists_toRequest_extend hopen₁
  have hasked : ∀ id a, IsAccepted id → t.addressOf id = .ok a → (b₂.withQuery t.query.text).renew
      = .ok a := by
    intro id a hid ha
    obtain ⟨a₁, a₂, ha₁, ha₂, ⟨hnil, -⟩ | ⟨-, ha⟩⟩ := of_addressOf_eq_ok hid ha
    · exact absurd hnil hquery
    · have hnot : openPart t.base.toList = .fragment → a₂.isRelative = false := by
        intro hfragment
        rw [← basePart, hpart] at hfragment
        cases hfragment
      rw [htext _ _ hid.isTail ha₁] at ha₂
      rw [hrequest _ _ hid.isTail ha₂ hnot, ← basePart, hpart, withQuery_extend_query] at ha
      apply ha
  cases hrenew : (b₂.withQuery t.query.text).renew with
  | error f =>
      use b₂
      intro id a hid ha
      have ha := hasked id a hid ha
      rw [hrenew] at ha
      cases ha
  | ok b =>
      use b
      intro id a hid ha
      have ha := hasked id a hid ha
      rw [hrenew] at ha
      exact (Except.ok.inj ha).symm

theorem addressOf_of_request {r : Web.Request} (h : t.request id = .ok r) :
  t.addressOf id = .ok r.address
  := by
  rw [request] at h
  obtain ⟨a, ha, h⟩ := bind_eq_ok_iff.mp h
  obtain ⟨headers, -, h⟩ := bind_eq_ok_iff.mp h
  cases h
  apply ha

theorem request_of_not_isAccepted (t : TemplateSite) (h : ¬ IsAccepted id) :
  t.request id = .error (.notAddress id)
  := by
  rw [request, addressOf, addressText_of_not_isAccepted t h]
  rfl

theorem of_addressOf_eq_error {f : TemplateFault} (hid : IsAccepted id)
    (h : t.addressOf id = .error f) :
  ∃ g, f = .address g
  := by
  rw [addressOf, addressText_of_isAccepted t hid, ok_bind] at h
  rcases bind_eq_error_iff.mp h with h | ⟨a, -, h⟩
  · obtain ⟨g, -, rfl⟩ := mapError_eq_error_iff.mp h
    exact ⟨g, rfl⟩
  · split at h
    · cases h
    · obtain ⟨g, -, rfl⟩ := mapError_eq_error_iff.mp h
      exact ⟨g, rfl⟩

/-- Nothing but the address keeps a template from being asked for under an identifier that is
accepted. -/
theorem of_request_eq_error {f : TemplateFault} (hid : IsAccepted id)
    (h : t.request id = .error f) :
  (∃ g, f = .address g) ∨ ∃ g, f = .domain g
  := by
  rw [request] at h
  rcases bind_eq_error_iff.mp h with h | ⟨a, -, h⟩
  · exact Or.inl (of_addressOf_eq_error hid h)
  · rcases bind_eq_error_iff.mp h with h | ⟨headers, -, h⟩
    · rw [withHost] at h
      split at h
      · cases h
      · obtain ⟨g, -, rfl⟩ := mapError_eq_error_iff.mp h
        exact Or.inr ⟨g, rfl⟩
    · cases h

/-- No reply makes an identifier one that is not accepted. -/
theorem ne_notAddress_of_textOf {c : Web.Content} {f : TemplateFault} (h : t.textOf id c = .error f)
    (id' : String) :
  f ≠ .notAddress id'
  := by
  rw [textOf] at h
  split at h
  · cases h
    exact TemplateFault.noConfusion
  · split at h
    · cases h
      exact TemplateFault.noConfusion
    · rcases bind_eq_error_iff.mp h with h | ⟨large, -, h⟩
      · rw [exceeds] at h
        split at h
        · cases h
        · cases h
        · cases h
          exact TemplateFault.noConfusion
      · split at h
        · cases h
          exact TemplateFault.noConfusion
        · obtain ⟨g, -, rfl⟩ := mapError_eq_error_iff.mp h
          exact TemplateFault.noConfusion

theorem ne_notAddress_of_get {web : Web} {f : TemplateFault} (hid : IsAccepted id)
    (h : t.get web id = .error f) (id' : String) :
  f ≠ .notAddress id'
  := by
  rw [get] at h
  rcases bind_eq_error_iff.mp h with h | ⟨r, -, h⟩
  · obtain ⟨g, rfl⟩ | ⟨g, rfl⟩ := of_request_eq_error hid h
    all_goals exact TemplateFault.noConfusion
  · rcases bind_eq_error_iff.mp h with h | ⟨c, -, h⟩
    · obtain ⟨g, -, rfl⟩ := mapError_eq_error_iff.mp h
      exact TemplateFault.noConfusion
    · apply ne_notAddress_of_textOf h

/-! ### What reaches the host -/

/-- What is asked of the host by a source with a base. -/
structure Asks (t : TemplateSite) (base : String) : Prop where
  refuses : ∀ id, ¬ IsAccepted id →
    t.request id = .error (.notAddress id) ∧ ∀ web, t.get web id = .error (.notAddress id)
  accepts : ∀ id, IsAccepted id → ∀ web f, t.get web id = .error f → ∀ id', f ≠ .notAddress id'
  makes : ∀ id, IsAccepted id → ∀ f, t.request id = .error f → (∃ g, f = .address g) ∨
    ∃ g, f = .domain g
  text : ∀ id, IsAccepted id →
    t.addressText id = .ok (Text.trimSlashes base ++ "/" ++ written id ++ ".md")
  text_injective : ∀ id id', IsAccepted id → IsAccepted id' → t.addressText id = t.addressText id' →
    id = id'
  safe : ∀ id, IsSafe id → IsAccepted id ∧ written id = id
  safe_iff : ∀ id, IsAccepted id → (IsSafe id ↔ '\n' ∉ id.toList)
  address : (t.basePart = .query → t.query = []) → ∃ before after, ∀ id r, IsAccepted id →
    t.request id = .ok r → (t.basePart = .fragment → r.address.isRelative = false) →
    r.address.text = before ++ (written id ++ ".md") ++ after
  address_injective : (t.basePart = .query → t.query = []) → ∀ id id' r r', IsAccepted id →
    IsAccepted id' → t.request id = .ok r → t.request id' = .ok r' →
    (t.basePart = .fragment → r.address.isRelative = false) →
      r.address = r'.address → id = id'
  replaced : t.basePart = .query → t.query ≠ [] → ∃ a, ∀ id r, IsAccepted id →
    t.request id = .ok r → r.address = a

/-- Only names that stand for themselves are asked for, but that a line feed may end each of them:
under different identifiers different addresses are asked, unless the source has a query and its
base another one. -/
theorem safe_identifiers_only {base : String} {options : Entries} {callerRequests : Bool}
    (h : ofBase (.str base) options callerRequests = .ok t) :
  t.Asks base
  := by
  have hbase := base_of_ofBase h
  have hslash : t.base.toList.getLast? ≠ some '/' := by
    rw [hbase]
    apply getLast?_trimSlashes_ne
  have haddress : (t.basePart = .query → t.query = []) → ∃ before after, ∀ id r, IsAccepted id →
      t.request id = .ok r → (t.basePart = .fragment → r.address.isRelative = false) →
        r.address.text = before ++ (written id ++ ".md") ++ after := by
    intro hpart
    obtain ⟨b, hopen, heq⟩ := exists_addressOf_eq hslash hpart
    obtain ⟨before, after, htext⟩ := exists_text_extend hopen
    use before, after
    intro id r hid hr hhost
    rw [heq id r.address hid (addressOf_of_request hr) hhost, htext]
  constructor
  · intro id hid
    have hrequest := request_of_not_isAccepted t hid
    refine ⟨hrequest, ?_⟩
    intro web
    rw [get, hrequest]
    rfl
  · intro id hid web f hf
    apply ne_notAddress_of_get hid hf
  · intro id hid f hf
    apply of_request_eq_error hid hf
  · intro id hid
    rw [addressText_of_isAccepted t hid, hbase]
  · intro id id' hid hid' heq
    rw [addressText_of_isAccepted t hid, addressText_of_isAccepted t hid', Except.ok.injEq,
      String.append_left_inj, String.append_right_inj] at heq
    apply written_injective hid hid' heq
  · intro id hid
    refine ⟨hid.isAccepted, written_eq_self ?_⟩
    rw [← hid.isAccepted.isSafe_iff]
    apply hid
  · intro id hid
    apply hid.isSafe_iff
  · apply haddress
  · intro hpart id id' r r' hid hid' hr hr' hhost heq
    obtain ⟨before, after, htext⟩ := haddress hpart
    have hwritten := htext id r hid hr hhost
    rw [heq] at hhost
    rw [heq, htext id' r' hid' hr' hhost, String.append_left_inj, String.append_right_inj,
      String.append_left_inj]
      at hwritten
    apply written_injective hid hid' hwritten.symm
  · intro hpart hquery
    obtain ⟨b, heq⟩ := exists_addressOf_eq_of_query hslash hpart hquery
    use b
    intro id r hid hr
    apply heq id r.address hid (addressOf_of_request hr)

theorem safe_identifiers_only_partials :
  ∃ t, ofBase (.str "https://t.example/x/") [] false = .ok t ∧ t.Asks "https://t.example/x/" ∧
    t.addressText "partials/core-principles.v2"
      = .ok "https://t.example/x/partials/core-principles.v2.md"
  := by
  obtain ⟨t, ht⟩ : ∃ t, ofBase (.str "https://t.example/x/") [] false = .ok t := ⟨_, rfl⟩
  refine ⟨t, ht, safe_identifiers_only ht, ?_⟩
  cases ht
  rfl

/-- An identifier that ends in a line feed is asked for. -/
theorem request_of_line_feed :
  ∃ t r, ofBase (.str "https://t.example") [] false = .ok t ∧ ¬ IsSafe "agent\n" ∧
    t.request "agent\n" = .ok r ∧ r.address.text = "https://t.example/agent%0A.md"
  := by
  refine ⟨_, _, rfl, ?_, rfl, ?_⟩
  · intro hsafe
    exact (hsafe "agent\n" (by decide)).feed_not_mem (by decide)
  · decide +kernel

end TemplateSite

end AgentBundles
