import Mathlib.Data.List.TakeWhile
import AgentBundles.Proofs.Outcome
import AgentBundles.Proofs.Files.Paths
import AgentBundles.Web.Address

/-!
# Addresses that go on

What becomes of the address of a text when names follow the text after a slash. The names go to the
part of the address that is open at the end of the text: the fragment if there is one, else the
query if there is one, else the path. They stand there as they are, and nothing else in the address
depends on them.
-/

namespace AgentBundles

/-! ### Percent encoding -/

theorem Text.percentEncode_append (mayStand : Char → Bool) (cs ds : List Char) :
  percentEncode mayStand (cs ++ ds) = percentEncode mayStand cs ++ percentEncode mayStand ds
  := List.flatMap_append

/-- Characters that may stand are not written as bytes. -/
theorem Text.percentEncode_of_stand {mayStand : Char → Bool} {cs : List Char}
    (h : ∀ c ∈ cs, mayStand c = true) :
  percentEncode mayStand cs = cs
  := by
  have hsingle : percentEncode mayStand cs = cs.flatMap fun c => [c] := by
    apply List.flatMap_congr
    intro c hc
    rw [h c hc, if_pos rfl]
  rw [hsingle, List.flatMap_singleton']

namespace Address

/-! ### Names that follow a text -/

/-- The characters of names, of slashes between them, and of bytes that are written as digits. -/
def isTailChar (c : Char) : Bool := Text.isAsciiAlphanumeric c || "-._/%".toList.contains c

/-- Names that may follow a text after a slash. -/
structure IsTail (s : String) : Prop where
  isTailChar : ∀ c ∈ s.toList, isTailChar c = true
  ne_slash : ∀ c, s.toList.head? = some c → c ≠ '/'
  not_dot : "." ∉ Text.segments s
  not_up : ".." ∉ Text.segments s

theorem lt_of_isTailChar {c : Char} (h : isTailChar c = true) :
  c.toNat < 0x80
  := by
  have hmarks : "-._/%".toList.all (fun d => decide (d.toNat < 0x80)) = true := by decide
  simp only [isTailChar, Text.isAsciiAlphanumeric, Text.isAsciiLetter, Text.isAsciiDigit,
    Bool.or_eq_true, Bool.and_eq_true, decide_eq_true_eq, List.contains_iff_mem, Char.le_def,
    UInt32.le_iff_toNat_le] at h
  rcases h with ((h | h) | h) | h
  · exact Nat.lt_of_le_of_lt h.2 (by decide)
  · exact Nat.lt_of_le_of_lt h.2 (by decide)
  · exact Nat.lt_of_le_of_lt h.2 (by decide)
  · exact of_decide_eq_true (List.all_eq_true.mp hmarks c h)

/-- A character of names stands in every part of an address behind the host, and separates none. -/
theorem of_isTailChar {c : Char} (h : isTailChar c = true) :
  inPath c = true ∧ inQuery c = true ∧ inFragment c = true ∧ c ≠ ':' ∧ c ≠ '?' ∧ c ≠ '#'
  := by
  have hall : ∀ n < 0x80, isTailChar (Char.ofNat n) = true → inPath (Char.ofNat n) = true ∧
      inQuery (Char.ofNat n) = true ∧ inFragment (Char.ofNat n) = true ∧ Char.ofNat n ≠ ':' ∧
      Char.ofNat n ≠ '?' ∧
        Char.ofNat n ≠ '#' := by decide +kernel
  rw [← Char.ofNat_toNat c] at h ⊢
  apply hall _ (lt_of_isTailChar (by rwa [Char.ofNat_toNat] at h)) h

/-- No name is begun at the end of characters. -/
def Whole (cs : List Char) : Prop := ∀ c, cs.getLast? = some c → c = '/'

theorem whole_concat (cs : List Char) :
  Whole (cs ++ ['/'])
  := by
  intro c hc
  rw [List.getLast?_concat] at hc
  exact (Option.some.inj hc).symm

theorem Whole.cases {cs : List Char} (h : Whole cs) :
  cs = [] ∨ ∃ front, cs = front ++ ['/']
  := by
  cases hlast : cs.getLast? with
  | none => exact Or.inl (List.getLast?_eq_none_iff.mp hlast)
  | some c =>
      have hc := h c hlast
      subst hc
      exact Or.inr ⟨cs.dropLast, (List.dropLast_append_getLast? '/' hlast).symm⟩

/-! ### Parts that go on -/

/-- The parts of an address behind the host. -/
inductive Part where
  | path
  | query
  | fragment
  deriving DecidableEq

/-- The part of an address that is open at the end of its text. -/
def openPart (cs : List Char) : Part :=
  if '#' ∈ cs then .fragment else if '?' ∈ cs then .query else .path

/-- An address with a part that goes on. -/
def extend (a : Address) (part : Part) (s : String) : Address :=
  match part with
  | .path => { a with path := a.path ++ s }
  | .query => { a with query := a.query.map (· ++ s) }
  | .fragment => { a with fragment := a.fragment.map (· ++ s) }

/-- The text of an address up to the path. -/
def origin (a : Address) : String :=
  (if a.scheme.isEmpty then "" else a.scheme ++ ":") ++
    (if a.authority.isEmpty then "" else "//" ++ a.authority)

theorem text_eq (a : Address) :
  a.text = a.origin ++ a.path ++ marked "?" a.query ++ marked "#" a.fragment
  := rfl

@[simp]
theorem origin_extend (a : Address) (part : Part) (s : String) :
  (a.extend part s).origin = a.origin
  := by
  cases part
  all_goals rfl

/-- The characters of the parts of an address. -/
structure Parts where
  scheme : List Char
  authority : List Char
  path : List Char
  query : Option (List Char)
  fragment : Option (List Char)

namespace Parts

/-- The address of some parts. -/
def address (p : Parts) : Except AddressFault Address :=
    ofParts p.scheme p.authority p.path p.query p.fragment

/-- Parts of which one goes on. -/
def extend (p : Parts) (part : Part) (cs : List Char) : Parts :=
  match part with
  | .path => { p with path := p.path ++ cs }
  | .query => { p with query := p.query.map (· ++ cs) }
  | .fragment => { p with fragment := p.fragment.map (· ++ cs) }

/-- A part is there, and no name in it is begun that could go on. -/
def IsOpen (p : Parts) (part : Part) : Prop :=
  match part with
  | .path => Whole p.path
  | .query => p.query.isSome = true
  | .fragment => p.fragment.isSome = true

theorem extend_append (p : Parts) (part : Part) (cs ds : List Char) :
  p.extend part (cs ++ ds) = (p.extend part cs).extend part ds
  := by
  cases part with
  | path => simp [extend]
  | query => simp [extend, Function.comp_def]
  | fragment => simp [extend, Function.comp_def]

end Parts

/-- The parts of an address. -/
def parts (a : Address) : Parts :=
  ⟨a.scheme.toList, a.authority.toList, a.path.toList, a.query.map String.toList,
    a.fragment.map String.toList⟩

theorem parts_extend (a : Address) (part : Part) (s : String) :
  (a.extend part s).parts = a.parts.extend part s.toList
  := by
  have hauthority : (a.extend part s).authority = a.authority := by
    cases part
    all_goals rfl
  rw [parts, hauthority]
  cases part with
  | path => simp [extend, parts, Parts.extend]
  | query => simp [extend, parts, Parts.extend, Function.comp_def]
  | fragment => simp [extend, parts, Parts.extend, Function.comp_def]

/-- What a part goes on with stands in the text of the address, and nothing else there depends on
it. -/
theorem exists_text_extend {a : Address} {part : Part} (h : a.parts.IsOpen part) :
  ∃ before after, ∀ s, (a.extend part s).text = before ++ s ++ after
  := by
  cases part with
  | path =>
      use a.origin ++ a.path, marked "?" a.query ++ marked "#" a.fragment
      intro s
      rw [text_eq, origin_extend]
      simp only [extend, String.append_assoc]
  | query =>
      obtain ⟨q, hq⟩ : ∃ q, a.query = some q :=
        Option.isSome_iff_exists.mp (by simpa [Parts.IsOpen, parts] using h)
      use a.origin ++ a.path ++ "?" ++ q, marked "#" a.fragment
      intro s
      rw [text_eq, origin_extend]
      simp only [extend, hq, Option.map_some, marked.eq_1, String.append_assoc]
  | fragment =>
      obtain ⟨f, hf⟩ : ∃ f, a.fragment = some f :=
        Option.isSome_iff_exists.mp (by simpa [Parts.IsOpen, parts] using h)
      use a.origin ++ a.path ++ marked "?" a.query ++ "#" ++ f, ""
      intro s
      rw [text_eq, origin_extend]
      simp only [extend, hf, Option.map_some, marked.eq_1, String.append_assoc, String.append_empty]

/-! ### Normal form -/

/-- What stands before the path of an address. -/
def frameOf (scheme authority : List Char) : Except AddressFault Address := do
  let (user, rest) := cutUser authority
  let (host, number) := cutHost rest
  let host ← hostOf host
  let port ← portOf (String.ofList scheme)
    (if number.head? == some ':' then number.tail else number)
  return ⟨String.ofList (scheme.map Char.toLower), encode inUser user, host, port, "", none, none⟩

/-- Whether something stands where the host is named. -/
def hasAuthority (a : Address) : Bool := !(a.user.isEmpty && a.host.isEmpty && a.port.isNone)

/-- A path, without dots if there is a scheme or a host. -/
def pathOf (scheme : List Char) (hasAuthority : Bool) (path : List Char) : List Char :=
  if scheme.isEmpty && !hasAuthority then path else (withoutDots (String.ofList path)).toList

/-- The address with some parts behind what stands before the path. -/
def Parts.onFrame (p : Parts) (frame : Address) : Address :=
  { frame with
    path := encode inPath (pathOf p.scheme frame.hasAuthority p.path)
    query := p.query.map (encode inQuery)
    fragment := p.fragment.map (encode inFragment) }

theorem Parts.of_address_eq_ok {p : Parts} {a : Address} (h : p.address = .ok a) :
  ∃ frame, frameOf p.scheme p.authority = .ok frame ∧ a = p.onFrame frame
  := by
  rw [address, ofParts] at h
  dsimp only at h
  obtain ⟨host, hhost, h⟩ := bind_eq_ok_iff.mp h
  obtain ⟨port, hport, h⟩ := bind_eq_ok_iff.mp h
  obtain ⟨-, -, h⟩ := bind_eq_ok_iff.mp h
  cases h
  refine ⟨⟨String.ofList (p.scheme.map Char.toLower), encode inUser (cutUser p.authority).1, host,
    port, "", none, none⟩, ?_, rfl⟩
  rw [frameOf]
  dsimp only
  rw [hhost, ok_bind, hport]
  rfl

theorem encode_append (mayStand : Char → Bool) (cs ds : List Char) :
  encode mayStand (cs ++ ds) = encode mayStand cs ++ encode mayStand ds
  := by
  rw [encode, Text.percentEncode_append, String.ofList_append]
  rfl

theorem IsTail.encode_eq {s : String} (h : IsTail s) {mayStand : Char → Bool}
    (hstand : ∀ {c}, Address.isTailChar c = true → mayStand c = true) :
  encode mayStand s.toList = s
  := by
  rw [encode, Text.percentEncode_of_stand fun c hc => hstand (h.isTailChar c hc),
    String.ofList_toList]

/-- Names that are no dots are put behind the ones before them. -/
theorem foldl_step {names : List String} (hdot : "." ∉ names) (hup : ".." ∉ names)
    (done : List String) :
  names.foldl step done = done ++ names
  := by
  induction names generalizing done with
  | nil => rw [List.foldl_nil, List.append_nil]
  | cons n names ih =>
      rw [List.mem_cons, not_or] at hdot hup
      have hstep : step done n = done ++ [n] := by
        rw [step, beq_eq_false_iff_ne.mpr (Ne.symm hdot.1), beq_eq_false_iff_ne.mpr (Ne.symm hup.1),
          if_neg Bool.false_ne_true, if_neg Bool.false_ne_true]
      rw [List.foldl_cons, hstep, ih hdot.2 hup.2, List.append_assoc]
      rfl

theorem whole_nil :
  Whole []
  := by
  intro c hc
  cases hc

/-- Whether there are dots among the names of a path. -/
def hasDots (path : String) : Bool := (Text.segments path).contains "." ||
    (Text.segments path).contains ".."

theorem withoutDots_of_hasDots {path : String} (h : hasDots path = true) :
  withoutDots path = Text.join "/" ((Text.segments path).foldl step [])
  := if_pos h

theorem withoutDots_of_not_hasDots {path : String} (h : hasDots path = false) :
  withoutDots path = path
  := by
  apply if_neg
  rw [← hasDots, h]
  apply Bool.false_ne_true

theorem IsTail.hasDots_eq {s : String} (h : IsTail s) :
  hasDots s = false
  := by
  simp [hasDots, h.not_dot, h.not_up]

theorem IsTail.hasDots_append {s : String} (h : IsTail s) (path : String) :
  hasDots (path ++ "/" ++ s) = hasDots path
  := by
  rw [hasDots, Text.segments_append_slash]
  simp [hasDots, h.not_dot, h.not_up]

/-- Names at the end of a path are there when the dots are gone. -/
theorem exists_withoutDots {cs : List Char} (h : Whole cs) :
  ∃ front, Whole front ∧ ∀ s, IsTail s → (withoutDots (String.ofList (cs ++ s.toList))).toList
    = front ++ s.toList
  := by
  rcases h.cases with rfl | ⟨q, rfl⟩
  · use [], whole_nil
    intro s hs
    rw [List.nil_append, String.ofList_toList, withoutDots_of_not_hasDots hs.hasDots_eq]
  · have hpath : ∀ s : String, String.ofList (q ++ ['/'] ++ s.toList)
        = String.ofList q ++ "/" ++ s := by
      intro s
      rw [String.ofList_append, String.ofList_append, String.ofList_toList]
    cases hdots : hasDots (String.ofList q) with
    | false =>
        use q ++ ['/'], whole_concat q
        intro s hs
        have hnone : hasDots (String.ofList (q ++ ['/'] ++ s.toList)) = false := by
          rw [hpath, hs.hasDots_append, hdots]
        rw [withoutDots_of_not_hasDots hnone, String.toList_ofList]
    | true =>
        have hjoin : ∀ s, IsTail s → withoutDots (String.ofList (q ++ ['/'] ++ s.toList))
            = Text.join "/"
              ((Text.segments (String.ofList q)).foldl step [] ++ Text.segments s) := by
          intro s hs
          rw [hpath, withoutDots_of_hasDots ((hs.hasDots_append _).trans hdots),
            Text.segments_append_slash, List.foldl_append, foldl_step hs.not_dot hs.not_up]
        generalize (Text.segments (String.ofList q)).foldl step [] = names at hjoin
        -- Of a path of dots nothing is left, and then no slash stands before the names.
        by_cases hnil : names = []
        · use [], whole_nil
          intro s hs
          rw [hjoin s hs, hnil, List.nil_append, Text.join_segments]
          rfl
        · use (Text.join "/" names).toList ++ ['/'], whole_concat _
          intro s hs
          rw [hjoin s hs, Text.join_append hnil (Text.segments_ne_nil s), Text.join_segments,
            String.toList_append, String.toList_append]
          rfl

/-- Names at the end of a path stand in the path of the address. -/
theorem exists_pathOf {cs : List Char} (h : Whole cs) (scheme : List Char) (hasAuthority : Bool) :
  ∃ front, Whole front ∧ ∀ s, IsTail s → pathOf scheme hasAuthority (cs ++ s.toList)
    = front ++ s.toList
  := by
  cases hplain : scheme.isEmpty && !hasAuthority with
  | true =>
      use cs, h
      intro s _
      rw [pathOf, hplain, if_pos rfl]
  | false =>
      obtain ⟨front, hfront, heq⟩ := exists_withoutDots h
      use front, hfront
      intro s hs
      rw [pathOf, hplain, if_neg Bool.false_ne_true, heq s hs]

theorem Whole.encode {cs : List Char} (h : Whole cs) :
  Whole (encode inPath cs).toList
  := by
  rcases h.cases with rfl | ⟨front, rfl⟩
  · apply whole_nil
  · have hslash : Address.encode inPath ['/'] = "/" := by decide
    rw [encode_append, hslash, String.toList_append]
    apply whole_concat

/-- Names that follow a part stand in that part of the address. -/
theorem Parts.exists_onFrame_extend {p : Parts} {part : Part} (h : p.IsOpen part)
    (frame : Address) :
  ∃ b : Address, b.parts.IsOpen part ∧ ∀ s, IsTail s → (p.extend part s.toList).onFrame frame
    = b.extend part s
  := by
  cases part with
  | path =>
      obtain ⟨front, hfront, hpath⟩ := exists_pathOf h p.scheme frame.hasAuthority
      refine ⟨{ p.onFrame frame with path := Address.encode inPath front }, hfront.encode, ?_⟩
      intro s hs
      have hwhole := hpath s hs
      simp only [Parts.extend, onFrame, Address.extend]
      rw [hwhole, encode_append, hs.encode_eq fun hc => (of_isTailChar hc).1]
  | query =>
      obtain ⟨q, hq⟩ := Option.isSome_iff_exists.mp h
      refine ⟨p.onFrame frame, ?_, ?_⟩
      · simp [IsOpen, Address.parts, onFrame, hq]
      · intro s hs
        simp only [Parts.extend, onFrame, Address.extend, hq, Option.map_some, encode_append]
        rw [hs.encode_eq fun hc => (of_isTailChar hc).2.1]
  | fragment =>
      obtain ⟨f, hf⟩ := Option.isSome_iff_exists.mp h
      refine ⟨p.onFrame frame, ?_, ?_⟩
      · simp [IsOpen, Address.parts, onFrame, hf]
      · intro s hs
        simp only [Parts.extend, onFrame, Address.extend, hf, Option.map_some, encode_append]
        rw [hs.encode_eq fun hc => (of_isTailChar hc).2.2.1]

theorem Parts.exists_address_extend {p : Parts} {part : Part} (h : p.IsOpen part) :
  ∃ b : Address, b.parts.IsOpen part ∧ ∀ s a, IsTail s → (p.extend part s.toList).address = .ok a →
    a = b.extend part s
  := by
  have hscheme : ∀ cs, (p.extend part cs).scheme = p.scheme ∧ (p.extend part cs).authority
      = p.authority := by
    cases part
    all_goals exact fun cs => ⟨rfl, rfl⟩
  by_cases hframe : ∃ frame, frameOf p.scheme p.authority = .ok frame
  · obtain ⟨frame, hframe⟩ := hframe
    obtain ⟨b, hb, heq⟩ := exists_onFrame_extend h frame
    use b, hb
    intro s a hs ha
    obtain ⟨frame', hframe', rfl⟩ := of_address_eq_ok ha
    rw [(hscheme s.toList).1, (hscheme s.toList).2, hframe] at hframe'
    cases hframe'
    apply heq s hs
  · -- Nothing that goes on with names has an address, so that any address will do.
    refine ⟨⟨"", "", "", none, "", some "", some ""⟩, ?_, ?_⟩
    · cases part
      · apply whole_nil
      · rfl
      · rfl
    · intro s a hs ha
      obtain ⟨frame, hframe', -⟩ := of_address_eq_ok ha
      rw [(hscheme s.toList).1, (hscheme s.toList).2] at hframe'
      exact absurd ⟨frame, hframe'⟩ hframe

/-- The address that is brought into normal form once more goes on in the same way. -/
theorem exists_renew_extend {a : Address} {part : Part} (h : a.parts.IsOpen part) :
  ∃ b : Address, b.parts.IsOpen part ∧ ∀ s a', IsTail s → (a.extend part s).renew = .ok a' →
    a' = b.extend part s
  := by
  obtain ⟨b, hb, heq⟩ := Parts.exists_address_extend h
  use b, hb
  intro s a' hs ha'
  apply heq s a' hs
  rw [← parts_extend]
  rw [renew] at ha'
  obtain ⟨-, -, ha'⟩ := bind_eq_ok_iff.mp ha'
  apply ha'

/-! ### Parts of texts -/

theorem cutAt_of_none {p : Char → Bool} {cs : List Char} (h : ∀ c ∈ cs, p c = false) :
  cutAt p cs = (cs, [])
  := by
  have htake : cs.takeWhile (fun c => !p c) = cs :=
    List.takeWhile_eq_self_iff.mpr fun c hc => by rw [h c hc]; rfl
  have hdrop : cs.dropWhile (fun c => !p c) = [] :=
    List.dropWhile_eq_nil_iff.mpr fun c hc => by rw [h c hc]; rfl
  rw [cutAt, htake, hdrop]

theorem cutAt_append_cons {p : Char → Bool} {xs : List Char} {c : Char} (h : ∀ x ∈ xs, p x = false)
    (hc : p c = true) (ys : List Char) :
  cutAt p (xs ++ c :: ys) = (xs, c :: ys)
  := by
  have hxs : ∀ x ∈ xs, (!p x) = true := fun x hx => by rw [h x hx]; rfl
  have hstop : ¬ (!p c) = true := by simp [hc]
  have htake : (c :: ys).takeWhile (fun c => !p c) = [] := List.takeWhile_cons_of_neg hstop
  have hdrop : (c :: ys).dropWhile (fun c => !p c) = c :: ys := List.dropWhile_cons_of_neg hstop
  rw [cutAt, List.takeWhile_append_of_pos hxs, List.dropWhile_append_of_pos hxs, htake, hdrop,
    List.append_nil]

/-- Among characters none has a property, or there is a first one that has it. -/
theorem none_or_first (p : Char → Bool) (cs : List Char) :
  (∀ c ∈ cs, p c = false) ∨ ∃ xs c ys, cs = xs ++ c :: ys ∧ (∀ x ∈ xs, p x = false) ∧ p c = true
  := by
  cases hfind : cs.find? p with
  | none =>
      apply Or.inl
      simpa using List.find?_eq_none.mp hfind
  | some c =>
      obtain ⟨hc, xs, ys, heq, hxs⟩ := List.find?_eq_some_iff_append.mp hfind
      exact Or.inr ⟨xs, c, ys, heq, by simpa using hxs, hc⟩

/-- The parts of a text of which the scheme and what stands before the path are known. -/
def partsBehind (scheme authority cs : List Char) : Parts :=
  let (path, rest) := cutAt (fun c => c == '?' || c == '#') cs
  let (query, fragment) := cutAt (· == '#') rest
  ⟨scheme, authority, path, after? '?' query, after? '#' fragment⟩

/-- The parts of a text. -/
def partsOf (cs : List Char) : Parts :=
  let (scheme, rest) := cutScheme cs
  let (authority, rest) := cutAuthority rest
  partsBehind scheme authority rest

theorem of_ofText_eq_ok {s : String} {a : Address} (h : ofText s = .ok a) :
  (partsOf s.toList).address = .ok a
  := by
  rw [ofText] at h
  split at h
  · cases h
  · dsimp only at h
    split at h
    · cases h
    · apply h

variable {cs tail : List Char}

theorem cutScheme_append (h : ':' ∉ tail) (cs : List Char) :
  cutScheme (cs ++ tail) = ((cutScheme cs).1, (cutScheme cs).2 ++ tail)
  := by
  rcases none_or_first (· == ':') cs with hnone | ⟨xs, c, ys, rfl, hxs, hc⟩
  · have hall : ∀ c ∈ cs ++ tail, (c == ':') = false := by
      rw [List.forall_mem_append]
      refine ⟨hnone, ?_⟩
      intro c hc
      rw [beq_eq_false_iff_ne]
      rintro rfl
      exact h hc
    rw [cutScheme, cutScheme, cutAt_of_none hall, cutAt_of_none hnone]
  · rw [cutScheme, cutScheme, List.append_assoc, List.cons_append, cutAt_append_cons hxs hc,
      cutAt_append_cons hxs hc]
    dsimp only
    split
    · rfl
    · rw [List.append_assoc, List.cons_append]

theorem isSchemeChar_of_isScheme (h : isScheme cs = true) :
  ∀ c ∈ cs, isSchemeChar c = true
  := by
  cases cs with
  | nil => simp
  | cons c cs =>
      rw [isScheme, Bool.and_eq_true, List.all_eq_true] at h
      rw [List.forall_mem_cons]
      refine ⟨?_, h.2⟩
      simp [isSchemeChar, Text.isAsciiAlphanumeric, h.1]

/-- A character that stands in no scheme stands behind the scheme of a text. -/
theorem mem_cutScheme_iff {c : Char} (hc : isSchemeChar c = false) (hcolon : c ≠ ':') :
  c ∈ (cutScheme cs).2 ↔ c ∈ cs
  := by
  rcases none_or_first (· == ':') cs with hnone | ⟨xs, d, ys, rfl, hxs, hd⟩
  · rw [cutScheme, cutAt_of_none hnone]
  · rw [cutScheme, cutAt_append_cons hxs hd]
    dsimp only
    split
    · rename_i hscheme
      have hnot : c ∉ xs := by
        intro hmem
        rw [isSchemeChar_of_isScheme hscheme c hmem] at hc
        cases hc
      have hne : c ≠ d := by
        rw [eq_of_beq hd]
        apply hcolon
      simp [hnot, hne]
    · rfl

theorem cutAuthority_of_not_slashes (h : ∀ rest, cs ≠ '/' :: '/' :: rest) :
  cutAuthority cs = ([], cs)
  := by
  rw [cutAuthority]
  apply h

/-- If no slash ends a text, names that follow it after a slash do not stand where the host is
named. -/
theorem cutAuthority_append (h : cs.getLast? ≠ some '/') (htail : tail.head? ≠ some '/') :
  cutAuthority (cs ++ '/' :: tail) = ((cutAuthority cs).1, (cutAuthority cs).2 ++ '/' :: tail)
  := by
  by_cases hslashes : ∃ rest, cs = '/' :: '/' :: rest
  · obtain ⟨rest, rfl⟩ := hslashes
    have hslash : ('/' == '/' || '/' == '?' || '/' == '#') = true := by decide
    rw [cutAuthority, List.cons_append, List.cons_append, cutAuthority]
    rcases none_or_first (fun c => c == '/' || c == '?' || c == '#') rest
      with hnone | ⟨xs, c, ys, rfl, hxs, hc⟩
    · rw [cutAt_append_cons hnone hslash, cutAt_of_none hnone]
      rfl
    · rw [List.append_assoc, List.cons_append, cutAt_append_cons hxs hc, cutAt_append_cons hxs hc]
      rfl
  · have hnone : ∀ rest, cs ≠ '/' :: '/' :: rest := fun rest heq => hslashes ⟨rest, heq⟩
    have hnone' : ∀ rest, cs ++ '/' :: tail ≠ '/' :: '/' :: rest := by
      intro rest heq
      rcases cs with _ | ⟨c, _ | ⟨d, cs⟩⟩
      · rw [List.nil_append, List.cons.injEq] at heq
        apply htail
        rw [heq.2]
        rfl
      · injection heq with hc _
        subst hc
        apply h rfl
      · injection heq with hc heq
        injection heq with hd _
        subst hc hd
        apply hnone cs rfl
    rw [cutAuthority_of_not_slashes hnone, cutAuthority_of_not_slashes hnone']

/-- A character that ends the name of a host, and is no slash, stands behind it. -/
theorem mem_cutAuthority_iff {c : Char} (hc : (c == '?' || c == '#') = true) :
  c ∈ (cutAuthority cs).2 ↔ c ∈ cs
  := by
  have hnot : ∀ {ds : List Char}, (∀ d ∈ ds, (d == '/' || d == '?' || d == '#') = false) →
      c ∉ ds := by
    intro ds hds hmem
    have hfalse := hds c hmem
    rw [Bool.or_assoc, hc, Bool.or_true] at hfalse
    cases hfalse
  by_cases hslashes : ∃ rest, cs = '/' :: '/' :: rest
  · obtain ⟨rest, rfl⟩ := hslashes
    have hslash : c ≠ '/' := by
      rintro rfl
      cases hc
    rcases none_or_first (fun c => c == '/' || c == '?' || c == '#') rest
      with hnone | ⟨xs, d, ys, rfl, hxs, hd⟩
    · rw [cutAuthority, cutAt_of_none hnone]
      simp [hnot hnone, hslash]
    · rw [cutAuthority, cutAt_append_cons hxs hd]
      simp [hnot hxs, hslash]
  · rw [cutAuthority_of_not_slashes fun rest heq => hslashes ⟨rest, heq⟩]

/-- The parts that characters are behind a scheme and an authority, and the one that is open at
their end. -/
inductive Splits (scheme authority : List Char) : List Char → Parts → Part → Prop
  | path {path : List Char} : (∀ c ∈ path, (c == '?' || c == '#') = false) →
      Splits scheme authority path ⟨scheme, authority, path, none, none⟩ .path
  | query {path query : List Char} : (∀ c ∈ path, (c == '?' || c == '#') = false) →
      (∀ c ∈ query, (c == '#') = false) →
        Splits scheme authority (path ++ '?' :: query)
          ⟨scheme, authority, path, some query, none⟩ .query
  | fragment {path query fragment : List Char} : (∀ c ∈ path, (c == '?' || c == '#') = false) →
      (∀ c ∈ query, (c == '#') = false) → (∀ c, query.head? = some c → c = '?') →
        Splits scheme authority (path ++ (query ++ '#' :: fragment))
          ⟨scheme, authority, path, after? '?' query, some fragment⟩ .fragment

theorem exists_splits (scheme authority cs : List Char) :
  ∃ p part, Splits scheme authority cs p part
  := by
  rcases none_or_first (fun c => c == '?' || c == '#') cs
    with hnone | ⟨path, c, rest, rfl, hpath, hc⟩
  · exact ⟨_, _, .path hnone⟩
  · rcases none_or_first (· == '#') (c :: rest) with hnone | ⟨query, d, fragment, heq, hquery, hd⟩
    · obtain ⟨hne, hrest⟩ := List.forall_mem_cons.mp hnone
      rw [hne, Bool.or_false] at hc
      rw [eq_of_beq hc]
      exact ⟨_, _, .query hpath hrest⟩
    · rw [heq, eq_of_beq hd]
      refine ⟨_, _, .fragment hpath hquery ?_⟩
      intro e he
      obtain ⟨query, rfl⟩ := List.head?_eq_some_iff.mp he
      injection heq with hce _
      rw [hce, hquery e List.mem_cons_self, Bool.or_false] at hc
      apply eq_of_beq hc

namespace Splits

variable {scheme authority : List Char} {p : Parts} {part : Part}

theorem partsBehind_eq (h : Splits scheme authority cs p part) :
  partsBehind scheme authority cs = p
  := by
  cases h with
  | path hpath =>
      rw [partsBehind, cutAt_of_none hpath]
      rfl
  | @query _ query hpath hquery =>
      have hall : ∀ c ∈ '?' :: query, (c == '#') = false :=
        List.forall_mem_cons.mpr ⟨by decide, hquery⟩
      rw [partsBehind, cutAt_append_cons hpath (by decide)]
      dsimp only
      rw [cutAt_of_none hall]
      rfl
  | @fragment path query fragment hpath hquery hhead =>
      have hsharp : ('#' == '#') = true := by decide
      have hcut : cutAt (fun c => c == '?' || c == '#') (path ++ (query ++ '#' :: fragment))
          = (path, query ++ '#' :: fragment) := by
        cases query with
        | nil => apply cutAt_append_cons hpath (by decide)
        | cons c query =>
            rw [hhead c rfl]
            apply cutAt_append_cons hpath (by decide)
      rw [partsBehind, hcut]
      dsimp only
      rw [cutAt_append_cons hquery hsharp]
      rfl

theorem openPart_eq (h : Splits scheme authority cs p part) :
  openPart cs = part
  := by
  have hfragment : ∀ {ds : List Char}, (∀ c ∈ ds, (c == '#') = false) → '#' ∉ ds :=
    fun hds hmem => by simpa using hds '#' hmem
  have hmarks : ∀ {ds : List Char}, (∀ c ∈ ds, (c == '?' || c == '#') = false) → '?' ∉ ds ∧
      '#' ∉ ds :=
    fun hds => ⟨fun hmem => by simpa using hds '?' hmem, fun hmem => by simpa using hds '#' hmem⟩
  cases h with
  | path hpath => simp [openPart, hmarks hpath]
  | query hpath hquery => simp [openPart, hmarks hpath, hfragment hquery]
  | fragment hpath hquery hhead => simp [openPart]

/-- Characters that separate no parts go to the part that is open. -/
theorem append (h : Splits scheme authority cs p part)
    (htail : ∀ c ∈ tail, (c == '?' || c == '#') = false) :
  Splits scheme authority (cs ++ tail) (p.extend part tail) part
  := by
  cases h with
  | path hpath =>
      apply Splits.path
      exact List.forall_mem_append.mpr ⟨hpath, htail⟩
  | query hpath hquery =>
      rw [List.append_assoc, List.cons_append]
      apply Splits.query hpath
      exact List.forall_mem_append.mpr
        ⟨hquery, fun c hc => (Bool.or_eq_false_iff.mp (htail c hc)).2⟩
  | fragment hpath hquery hhead =>
      rw [List.append_assoc, List.append_assoc, List.cons_append]
      apply Splits.fragment hpath hquery hhead

theorem isOpen (h : Splits scheme authority cs p part) :
  (p.extend part ['/']).IsOpen part
  := by
  cases h with
  | path hpath => apply whole_concat
  | query hpath hquery => rfl
  | fragment hpath hquery hhead => rfl

end Splits

theorem openPart_cutAuthority (cs : List Char) :
  openPart (cutAuthority (cutScheme cs).2).2 = openPart cs
  := by
  have hquery : '?' ∈ (cutAuthority (cutScheme cs).2).2 ↔ '?' ∈ cs := by
    rw [mem_cutAuthority_iff (by decide), mem_cutScheme_iff (by decide) (by decide)]
  have hfragment : '#' ∈ (cutAuthority (cutScheme cs).2).2 ↔ '#' ∈ cs := by
    rw [mem_cutAuthority_iff (by decide), mem_cutScheme_iff (by decide) (by decide)]
  simp only [openPart, hquery, hfragment]

theorem getLast?_cutScheme_ne (h : cs.getLast? ≠ some '/') :
  (cutScheme cs).2.getLast? ≠ some '/'
  := by
  have hsuffix : (cutScheme cs).2 <:+ cs := by
    rcases none_or_first (· == ':') cs with hnone | ⟨xs, d, ys, rfl, hxs, hd⟩
    · exact ⟨[], by rw [List.nil_append, cutScheme, cutAt_of_none hnone]⟩
    · rw [cutScheme, cutAt_append_cons hxs hd]
      dsimp only
      split
      · exact ⟨xs ++ [d], by simp⟩
      · apply List.suffix_refl
  obtain ⟨front, heq⟩ := hsuffix
  intro hlast
  apply h
  rw [← heq, List.getLast?_append, hlast]
  rfl

theorem splits_partsOf (cs : List Char) :
  Splits (cutScheme cs).1 (cutAuthority (cutScheme cs).2).1 (cutAuthority (cutScheme cs).2).2
    (partsOf cs) (openPart cs)
  := by
  obtain ⟨p, part, hsplits⟩ :=
    exists_splits (cutScheme cs).1 (cutAuthority (cutScheme cs).2).1
      (cutAuthority (cutScheme cs).2).2
  have hparts : partsOf cs = p := hsplits.partsBehind_eq
  rw [hparts, ← openPart_cutAuthority, hsplits.openPart_eq]
  apply hsplits

/-- Names that follow a text after a slash go to the part that is open. -/
theorem partsOf_append (h : cs.getLast? ≠ some '/') (htail : tail.head? ≠ some '/')
    (hplain : ∀ c ∈ tail, c ≠ ':' ∧ c ≠ '?' ∧ c ≠ '#') :
  partsOf (cs ++ '/' :: tail) = (partsOf cs).extend (openPart cs) ('/' :: tail)
  := by
  have hcolon : ':' ∉ '/' :: tail := by
    rw [List.mem_cons, not_or]
    exact ⟨by decide, fun hmem => (hplain _ hmem).1 rfl⟩
  have hmarks : ∀ c ∈ '/' :: tail, (c == '?' || c == '#') = false := by
    rw [List.forall_mem_cons]
    refine ⟨by decide, ?_⟩
    intro c hc
    simp [(hplain c hc).2]
  rw [partsOf, cutScheme_append hcolon]
  dsimp only
  rw [cutAuthority_append (getLast?_cutScheme_ne h) htail]
  dsimp only
  apply ((splits_partsOf cs).append hmarks).partsBehind_eq

/-- Of a text that goes on with names after a slash there is one address that goes on with the
names. -/
theorem exists_ofText_append {base : String} (h : base.toList.getLast? ≠ some '/') :
  ∃ b : Address, b.parts.IsOpen (openPart base.toList) ∧
    ∀ s a, IsTail s → ofText (base ++ "/" ++ s) = .ok a → a = b.extend (openPart base.toList) s
  := by
  obtain ⟨b, hb, heq⟩ := Parts.exists_address_extend (splits_partsOf base.toList).isOpen
  use b, hb
  intro s a hs ha
  apply heq s a hs
  have hplain : ∀ c ∈ s.toList, c ≠ ':' ∧ c ≠ '?' ∧ c ≠ '#' :=
    fun c hc => (of_isTailChar (hs.isTailChar c hc)).2.2.2
  have hhead : s.toList.head? ≠ some '/' := fun hhead => hs.ne_slash '/' hhead rfl
  have htext : (base ++ "/" ++ s).toList = base.toList ++ '/' :: s.toList := by simp
  have hparts := of_ofText_eq_ok ha
  rw [htext, partsOf_append h hhead hplain] at hparts
  rw [← Parts.extend_append]
  apply hparts

/-! ### Addresses that can be asked -/

/-- What stands in front of the host and the host itself are the same when a part goes on. -/
theorem isRelative_extend (a : Address) (part : Part) (s : String) :
  (a.extend part s).isRelative = a.isRelative
  := by
  cases part
  all_goals rfl

/-- What counts of an address without a host: the path, from the root, and the query. -/
def withoutHost (a : Address) : Address where
  scheme := ""
  user := ""
  host := ""
  port := none
  path := "/" ++ String.ofList (a.path.toList.dropWhile (· == '/'))
  query := a.query
  fragment := none

theorem dropWhile_append_tail {s : String} (h : IsTail s) (cs : List Char) :
  (cs ++ s.toList).dropWhile (· == '/') = cs.dropWhile (· == '/') ++ s.toList
  := by
  have hs : s.toList.dropWhile (· == '/') = s.toList := by
    cases heq : s.toList with
    | nil => rfl
    | cons c cs =>
        apply List.dropWhile_cons_of_neg
        rw [beq_iff_eq]
        apply h.ne_slash c
        rw [heq]
        rfl
  rw [List.dropWhile_append]
  split
  · rename_i hnil
    rw [hs, List.isEmpty_iff.mp hnil, List.nil_append]
  · rfl

theorem withoutHost_extend {s : String} (hs : IsTail s) (a : Address) {part : Part}
    (hpart : part ≠ .fragment) :
  (a.extend part s).withoutHost = a.withoutHost.extend part s
  := by
  cases part with
  | path =>
      simp only [withoutHost, extend, String.toList_append]
      rw [dropWhile_append_tail hs, String.ofList_append, String.ofList_toList, String.append_assoc]
  | query => rfl
  | fragment => exact absurd rfl hpart

theorem isOpen_withoutHost {a : Address} {part : Part} (h : a.parts.IsOpen part)
    (hpart : part ≠ .fragment) :
  a.withoutHost.parts.IsOpen part
  := by
  cases part with
  | path =>
      intro c hc
      have hpath : (parts a.withoutHost).path = '/' :: a.path.toList.dropWhile (· == '/') := by
        simp [parts, withoutHost]
      rw [hpath] at hc
      cases hdrop : a.path.toList.dropWhile (· == '/') with
      | nil =>
          rw [hdrop] at hc
          exact (Option.some.inj hc).symm
      | cons d ds =>
          have hsuffix : a.path.toList.dropWhile (· == '/') <:+ a.path.toList :=
            List.dropWhile_suffix _
          obtain ⟨front, heq⟩ := hsuffix
          apply h c
          change a.path.toList.getLast? = some c
          rw [← heq, hdrop, List.getLast?_append]
          rw [hdrop, List.getLast?_cons_cons] at hc
          rw [hc]
          rfl
  | query => apply h
  | fragment => exact absurd rfl hpart

theorem scheme_of_renew {a a' : Address} (h : a.scheme = "") (ha' : a.renew = .ok a') :
  a'.scheme = ""
  := by
  rw [renew] at ha'
  obtain ⟨-, -, ha'⟩ := bind_eq_ok_iff.mp ha'
  obtain ⟨frame, hframe, rfl⟩ := a.parts.of_address_eq_ok ha'
  rw [frameOf] at hframe
  dsimp only at hframe
  obtain ⟨host, -, hframe⟩ := bind_eq_ok_iff.mp hframe
  obtain ⟨port, -, hframe⟩ := bind_eq_ok_iff.mp hframe
  cases hframe
  simp [Parts.onFrame, parts, h]

theorem isRelative_of_scheme {a : Address} (h : a.scheme = "") :
  a.isRelative = true
  := by
  rw [isRelative, h]
  rfl

/-- What is asked without a host is asked without a scheme. -/
theorem scheme_of_toRequest {a a' : Address} (h : a.toRequest = .ok a')
    (hrelative : a'.isRelative = true) :
  a'.scheme = ""
  := by
  rw [toRequest] at h
  split at h
  · apply scheme_of_renew rfl h
  · rename_i hhost
    cases h
    exact absurd hrelative hhost

/-- The address that is asked goes on in the same way, unless it has no host and ends in a
fragment. -/
theorem exists_toRequest_extend {a : Address} {part : Part} (h : a.parts.IsOpen part) :
  ∃ b : Address, b.parts.IsOpen part ∧ ∀ s a', IsTail s → (a.extend part s).toRequest = .ok a' →
    (part = .fragment → a'.isRelative = false) → a' = b.extend part s
  := by
  have hrequest : ∀ s, (a.extend part s).toRequest
      = if a.isRelative then (a.extend part s).withoutHost.renew else .ok (a.extend part s) := by
    intro s
    rw [toRequest, isRelative_extend]
    rfl
  simp only [hrequest]
  cases hrelative : a.isRelative with
  | false =>
      use a, h
      intro s a' _ ha' _
      exact (Except.ok.inj ha').symm
  | true =>
      by_cases hpart : part = .fragment
      · use a, h
        intro s a' _ ha' hhost
        rw [isRelative_of_scheme (scheme_of_renew rfl ha')] at hhost
        cases hhost hpart
      · obtain ⟨b, hb, heq⟩ := exists_renew_extend (isOpen_withoutHost h hpart)
        use b, hb
        intro s a' hs ha' _
        rw [if_pos rfl, withoutHost_extend hs a hpart] at ha'
        apply heq s a' hs ha'

/-- An address with another query. -/
def withQuery (a : Address) (q : String) : Address := { a with query := some q }

/-- With another query nothing is left of what the query goes on with. -/
theorem withQuery_extend_query (a : Address) (s q : String) :
  (a.extend .query s).withQuery q = a.withQuery q
  := rfl

/-- The address with another query goes on in the same way, unless the query is what goes on. -/
theorem exists_renew_query_extend {a : Address} {part : Part} (h : a.parts.IsOpen part)
    (hpart : part ≠ .query) (q : String) :
  ∃ b : Address, b.parts.IsOpen part ∧ ∀ s a', IsTail s →
    ((a.extend part s).withQuery q).renew = .ok a' → a' = b.extend part s
  := by
  have hopen : (a.withQuery q).parts.IsOpen part := by
    cases part with
    | path => apply h
    | query => exact absurd rfl hpart
    | fragment => apply h
  obtain ⟨b, hb, heq⟩ := exists_renew_extend hopen
  use b, hb
  intro s a' hs ha'
  apply heq s a' hs
  cases part with
  | path => apply ha'
  | query => exact absurd rfl hpart
  | fragment => apply ha'

end Address

end AgentBundles
