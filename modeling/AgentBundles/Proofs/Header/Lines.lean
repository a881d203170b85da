import Mathlib.Data.List.Basic
import Mathlib.Tactic.Common
import AgentBundles.Header

/-!
# The lines of a header

A header is told from the text after it by lines. The text begins with the mark on a line of its
own, and the header ends at a line that has nothing but blanks after the mark: the first such line
below the one after the opening mark, which belongs to the header in any case.
-/

namespace AgentBundles.Header

/-! ### Lines -/

/-- A line of a text, and the line break that ends it; the last line may have none. -/
structure Line where
  chars : List Char
  ending : List Char

/-- A line with its line break. -/
def Line.text (l : Line) : List Char := l.chars ++ l.ending

/-- A character at the beginning of the first of some lines. -/
def consLine (c : Char) : List Line → List Line
  | [] => [⟨[c], []⟩]
  | l :: ls => ⟨c :: l.chars, l.ending⟩ :: ls

/-- The lines of a text: each ends at the next line feed, or at the carriage return before it. -/
def lines : List Char → List Line
  | [] => []
  | '\r' :: '\n' :: cs => ⟨[], ['\r', '\n']⟩ :: lines cs
  | '\n' :: cs => ⟨[], ['\n']⟩ :: lines cs
  | c :: cs => consLine c (lines cs)

/-- Lines one after the other. -/
def joinLines (ls : List Line) : List Char := ls.flatMap Line.text

/-- Lines one after the other, without the line break of the last one. -/
def contentOf : List Line → List Char
  | [] => []
  | [l] => l.chars
  | l :: ls => l.text ++ contentOf ls

/-- A line that may close a header: the mark, and then spaces and tabs only. -/
def Line.IsClosing (l : Line) : Prop :=
  ∃ blanks, l.chars = mark ++ blanks ∧ ∀ c ∈ blanks, c = ' ' ∨ c = '\t'

/-- Whether a line may close a header. -/
def Line.closes (l : Line) : Bool :=
  mark.isPrefixOf l.chars && (l.chars.drop 3).all fun c => c == ' ' || c == '\t'

theorem Line.closes_eq_true_iff {l : Line} :
  l.closes = true ↔ l.IsClosing
  := by
  rw [closes, Bool.and_eq_true, List.isPrefixOf_iff_prefix, List.all_eq_true]
  constructor
  · rintro ⟨⟨blanks, hblanks⟩, hall⟩
    refine ⟨blanks, hblanks.symm, ?_⟩
    intro c hc
    have h := hall c (by rw [← hblanks]; exact hc)
    simpa using h
  · rintro ⟨blanks, hchars, hall⟩
    rw [hchars]
    refine ⟨List.prefix_append _ _, ?_⟩
    intro c hc
    simpa using hall c hc

/-- The lines of a text, one after the other, are the text. -/
theorem joinLines_lines (cs : List Char) :
  joinLines (lines cs) = cs
  := by
  have hcons : ∀ c ls, joinLines (consLine c ls) = c :: joinLines ls := by
    intro c ls
    cases ls with
    | nil => rfl
    | cons l ls => rfl
  fun_induction lines cs with
  | case1 => rfl
  | case2 cs ih => exact congrArg (['\r', '\n'] ++ ·) ih
  | case3 cs ih => exact congrArg (['\n'] ++ ·) ih
  | case4 c cs _ _ ih => rw [hcons, ih]

/-- A text begins with its first line. -/
theorem chars_isPrefix {cs : List Char} {l : Line} {ls : List Line} (h : lines cs = l :: ls) :
  l.chars <+: cs
  := by
  have hjoin := joinLines_lines cs
  rw [h] at hjoin
  refine ⟨l.ending ++ joinLines ls, ?_⟩
  rw [← hjoin, ← List.append_assoc]
  rfl

/-- The line that some lines with a character at the beginning begin with. -/
theorem exists_consLine (c : Char) (ls : List Line) :
  ∃ l ls', consLine c ls = l :: ls' ∧ c ∈ l.chars
  := by
  cases ls with
  | nil => exact ⟨_, _, rfl, List.mem_singleton_self c⟩
  | cons l ls => exact ⟨_, _, rfl, List.mem_cons_self⟩

/-- A character before a text that is no line break, alone or with the text, belongs to the first
line. -/
theorem lines_cons {c : Char} {cs : List Char} (h : afterBreak? (c :: cs) = none) :
  lines (c :: cs) = consLine c (lines cs)
  := by
  rw [lines]
  · rintro cs' rfl rfl
    cases h
  · rintro rfl
    cases h

theorem lines_mark_append (rest : List Char) :
  lines (mark ++ rest) = consLine '-' (consLine '-' (consLine '-' (lines rest)))
  := by
  simp only [mark, List.cons_append, List.nil_append]
  rw [lines_cons rfl, lines_cons rfl, lines_cons rfl]

/-- After a line break comes the next line. -/
theorem lines_of_afterBreak? {cs rest : List Char} (h : afterBreak? cs = some rest) :
  ∃ ending, lines cs = ⟨[], ending⟩ :: lines rest
  := by
  rw [afterBreak?.eq_def] at h
  split at h
  · cases h
    exact ⟨_, rfl⟩
  · cases h
    exact ⟨_, rfl⟩
  · cases h

/-- A text that begins with a line break begins with no space or tab. -/
theorem not_isBlank_of_afterBreak? {c : Char} {cs rest : List Char}
    (h : afterBreak? (c :: cs) = some rest) :
  (c == ' ' || c == '\t') = false
  := by
  rw [afterBreak?.eq_def] at h
  split at h
  · next heq =>
      cases heq
      rfl
  · next heq =>
      cases heq
      rfl
  · cases h

/-! ### Closing lines -/

/-- The text after a line of spaces and tabs is the next lines. -/
theorem afterBlanks_eq (cs : List Char) :
  (match cs.dropWhile fun c => c == ' ' || c == '\t' with
    | [] => some []
    | rest => afterBreak? rest)
    = match lines cs with
      | [] => some []
      | l :: ls => if l.chars.all fun c => c == ' ' || c == '\t' then some (joinLines ls) else none
  := by
  induction cs with
  | nil => rfl
  | cons c cs ih =>
      rw [List.dropWhile_cons]
      cases hbreak : afterBreak? (c :: cs) with
      | some rest =>
          obtain ⟨ending, hlines⟩ := lines_of_afterBreak? hbreak
          rw [not_isBlank_of_afterBreak? hbreak, hlines]
          simp [hbreak, joinLines_lines]
      | none =>
          rw [lines_cons hbreak]
          by_cases hc : (c == ' ' || c == '\t') = true
          · rw [if_pos hc, ih]
            cases lines cs with
            | nil => simp [consLine, hc, joinLines]
            | cons l ls => simp [consLine, hc]
          · obtain ⟨l, ls, hlines, hmem⟩ := exists_consLine c (lines cs)
            have hall : ¬ (l.chars.all fun c => c == ' ' || c == '\t') := fun h =>
              hc (List.all_eq_true.mp h c hmem)
            simp only [if_neg hc, hlines, if_neg hall, hbreak]

/-- The text after a closing line is the lines after the first one. -/
theorem afterClosing?_eq (cs : List Char) :
  afterClosing? cs
    = match lines cs with
      | [] => none
      | l :: ls => if l.closes then some (joinLines ls) else none
  := by
  rw [afterClosing?]
  by_cases hmark : mark.isPrefixOf cs = true
  · obtain ⟨rest, rfl⟩ := List.isPrefixOf_iff_prefix.mp hmark
    have hdrop : (mark ++ rest).drop 3 = rest := rfl
    rw [if_pos hmark, hdrop, lines_mark_append]
    apply (afterBlanks_eq rest).trans
    cases lines rest with
    | nil => rfl
    | cons l ls => rfl
  · rw [if_neg hmark]
    cases hlines : lines cs with
    | nil => rfl
    | cons l ls =>
        have hcloses : ¬ l.closes = true := fun h => by
          obtain ⟨blanks, hchars, -⟩ := Line.closes_eq_true_iff.mp h
          have hbegins : mark <+: l.chars := ⟨blanks, hchars.symm⟩
          exact hmark (List.isPrefixOf_iff_prefix.mpr (hbegins.trans (chars_isPrefix hlines)))
        simp only [if_neg hcloses]

/-- The lines before the first closing line, and the lines after it. -/
def enclosed? : List Line → Option (List Line × List Line)
  | [] => none
  | l :: ls => if l.closes then some ([], ls) else (enclosed? ls).map fun p => (l :: p.1, p.2)

/-- The first of some lines and those before the next closing line, and the text after that one. -/
def cutLines : List Line → Option (List Char × List Char)
  | [] => none
  | l :: ls => (enclosed? ls).map fun p => (contentOf (l :: p.1), joinLines p.2)

theorem cutLines_consLine (c : Char) (ls : List Line) :
  cutLines (consLine c ls) = (cutLines ls).map fun p => (c :: p.1, p.2)
  := by
  cases ls with
  | nil => rfl
  | cons l ls =>
      have hcontent : ∀ ls', contentOf (⟨c :: l.chars, l.ending⟩ :: ls')
          = c :: contentOf (l :: ls') := by
        intro ls'
        cases ls' with
        | nil => rfl
        | cons l' ls' => rfl
      simp only [consLine, cutLines, Option.map_map, hcontent]
      rfl

theorem cutLines_empty (ending cs : List Char) :
  cutLines (⟨[], ending⟩ :: lines cs)
    = match afterClosing? cs with
      | some rest => some ([], rest)
      | none => (cutLines (lines cs)).map fun p => (ending ++ p.1, p.2)
  := by
  rw [afterClosing?_eq]
  cases lines cs with
  | nil => rfl
  | cons l ls =>
      by_cases hcloses : l.closes = true
      · simp only [cutLines, enclosed?, if_pos hcloses]
        rfl
      · simp only [cutLines, enclosed?, if_neg hcloses, Option.map_map]
        rfl

/-- A text is cut at the first closing line after its first line. -/
theorem cut_eq (cs : List Char) :
  cut cs = cutLines (lines cs)
  := by
  fun_induction lines cs with
  | case1 => rfl
  | case2 cs ih =>
      -- After the carriage return the line feed is looked at once more, with the same lines after
      -- it.
      rw [cutLines_empty, cut, cut, ih]
      simp only [afterBreak?, Option.bind_some]
      cases afterClosing? cs with
      | some rest => rfl
      | none =>
          rw [Option.map_map]
          rfl
  | case3 cs ih =>
      rw [cutLines_empty, cut, ih]
      simp only [afterBreak?, Option.bind_some]
      cases afterClosing? cs with
      | some rest => rfl
      | none => rfl
  | case4 c cs hreturn hfeed ih =>
      have hbreak : afterBreak? (c :: cs) = none := by
        rw [afterBreak?.eq_def]
        split
        · next heq =>
            cases heq
            exact (hreturn _ rfl rfl).elim
        · next heq =>
            cases heq
            exact (hfeed rfl).elim
        · rfl
      rw [cutLines_consLine, cut, hbreak, ih]
      rfl

/-- The header of a text and the text after it lie below a first line that is the mark. -/
theorem block?_eq (cs : List Char) :
  block? cs
    = match lines cs with
      | [] => none
      | opening :: ls => if opening.chars = mark then cutLines ls else none
  := by
  rw [block?]
  by_cases hmark : mark.isPrefixOf cs = true
  · obtain ⟨rest, rfl⟩ := List.isPrefixOf_iff_prefix.mp hmark
    have hdrop : (mark ++ rest).drop 3 = rest := rfl
    rw [if_pos hmark, hdrop, lines_mark_append]
    cases hbreak : afterBreak? rest with
    | some rest' =>
        obtain ⟨ending, hrest⟩ := lines_of_afterBreak? hbreak
        rw [hrest, Option.bind_some, cut_eq]
        rfl
    | none =>
        cases rest with
        | nil => rfl
        | cons c cs =>
            obtain ⟨l, ls, hfirst, hmem⟩ := exists_consLine c (lines cs)
            rw [lines_cons hbreak, hfirst]
            have hne : ¬ ('-' :: '-' :: '-' :: l.chars) = mark := by
              intro h
              cases hchars : l.chars with
              | nil => simp [hchars] at hmem
              | cons c cs => simp [hchars, mark] at h
            simp only [consLine, if_neg hne, Option.bind_none]
  · rw [if_neg hmark]
    cases hlines : lines cs with
    | nil => rfl
    | cons opening ls =>
        have hne : ¬ opening.chars = mark := fun h => by
          exact hmark (List.isPrefixOf_iff_prefix.mpr (h ▸ chars_isPrefix hlines))
        simp only [if_neg hne]

/-! ### Delimiters -/

theorem enclosed?_eq_some_iff {ls between after : List Line} :
  enclosed? ls = some (between, after)
    ↔ (∃ closing : Line, ls = between ++ closing :: after ∧ closing.IsClosing) ∧
    ∀ l ∈ between, ¬ l.IsClosing
  := by
  induction ls generalizing between with
  | nil => simp [enclosed?]
  | cons l ls ih =>
      rw [enclosed?]
      by_cases hcloses : l.closes = true
      · have hl := Line.closes_eq_true_iff.mp hcloses
        rw [if_pos hcloses]
        constructor
        · intro h
          cases h
          exact ⟨⟨l, rfl, hl⟩, by simp⟩
        · rintro ⟨⟨closing, heq, -⟩, hbetween⟩
          cases between with
          | nil =>
              cases heq
              rfl
          | cons m between =>
              cases heq
              exact (hbetween _ List.mem_cons_self hl).elim
      · have hl : ¬ l.IsClosing := fun h => hcloses (Line.closes_eq_true_iff.mpr h)
        rw [if_neg hcloses, Option.map_eq_some_iff]
        constructor
        · rintro ⟨⟨between, after'⟩, henclosed, heq⟩
          cases heq
          obtain ⟨⟨closing, rfl, hclosing⟩, hbetween⟩ := ih.mp henclosed
          exact ⟨⟨closing, rfl, hclosing⟩, List.forall_mem_cons.mpr ⟨hl, hbetween⟩⟩
        · rintro ⟨⟨closing, heq, hclosing⟩, hbetween⟩
          cases between with
          | nil =>
              cases heq
              exact (hl hclosing).elim
          | cons m between =>
              cases heq
              exact ⟨(between, after),
                ih.mpr ⟨⟨closing, rfl, hclosing⟩, (List.forall_mem_cons.mp hbetween).2⟩, rfl⟩

/-- A text is a line with the mark, some lines, a line that may close a header, and the lines after
it. -/
def Delimits (cs : List Char) (between after : List Line) : Prop :=
  ∃ opening closing : Line,
    lines cs = opening :: (between ++ closing :: after) ∧ opening.chars = mark ∧ closing.IsClosing

/-- The lines of a header, and the lines after the one that closes it: the first that may, below the
second line of the text. -/
def Encloses (cs : List Char) (between after : List Line) : Prop :=
  Delimits cs between after ∧ between ≠ [] ∧ ∀ l ∈ between.tail, ¬ l.IsClosing

theorem block?_eq_some_iff {cs content rest : List Char} :
  block? cs = some (content, rest)
    ↔ ∃ between after, Encloses cs between after ∧ contentOf between = content ∧
    joinLines after = rest
  := by
  rw [block?_eq]
  constructor
  · intro h
    cases hlines : lines cs with
    | nil => simp [hlines] at h
    | cons opening ls =>
        cases ls with
        | nil => simp [hlines, cutLines] at h
        | cons second ls =>
            simp only [hlines, cutLines, Option.ite_none_right_eq_some, Option.map_eq_some_iff] at h
            obtain ⟨hopening, ⟨between, after⟩, henclosed, heq⟩ := h
            cases heq
            obtain ⟨⟨closing, rfl, hclosing⟩, hbetween⟩ := enclosed?_eq_some_iff.mp henclosed
            refine ⟨second :: between, after, ?_, rfl, rfl⟩
            exact ⟨⟨opening, closing, hlines, hopening, hclosing⟩, by simp, hbetween⟩
  · rintro ⟨between, after, ⟨⟨opening, closing, hlines, hopening, hclosing⟩, hne, hbetween⟩,
      rfl, rfl⟩
    cases between with
    | nil => exact (hne rfl).elim
    | cons second between =>
        have henclosed : enclosed? (between ++ closing :: after) = some (between, after) :=
          enclosed?_eq_some_iff.mpr ⟨⟨closing, rfl, hclosing⟩, hbetween⟩
        simp [hlines, hopening, cutLines, henclosed]

/-- A header is the lines up to the first that may close it, in every text but those with two marks
next to each other. -/
theorem encloses_iff_delimits (cs : List Char) :
  (∀ between after, Encloses cs between after ↔ Delimits cs between after ∧ ∀ l ∈ between,
    ¬ l.IsClosing)
    ↔ ∀ after, ¬ Delimits cs [] after
  := by
  constructor
  · intro h after hdelimits
    have hencloses := (h [] after).2 ⟨hdelimits, by simp⟩
    exact hencloses.2.1 rfl
  · intro h between after
    constructor
    · rintro ⟨⟨opening, closing, hlines, hopening, hclosing⟩, hne, htail⟩
      cases between with
      | nil => exact (hne rfl).elim
      | cons second between =>
          have hsecond : ¬ second.IsClosing :=
            fun hsecond => h _ ⟨opening, second, hlines, hopening, hsecond⟩
          exact ⟨⟨opening, closing, hlines, hopening, hclosing⟩,
            List.forall_mem_cons.mpr ⟨hsecond, htail⟩⟩
    · rintro ⟨hdelimits, hbetween⟩
      cases between with
      | nil => exact (h after hdelimits).elim
      | cons second between => exact ⟨hdelimits, by simp, (List.forall_mem_cons.mp hbetween).2⟩

/-! ### Headers -/

/-- Lines whose YAML is a header: entries, or nothing at all. -/
def Describes (between : List Line) (header : Value) : Prop :=
  (Yaml.read (String.ofList (contentOf between)) = .ok .null ∧ header = .map [])
    ∨ ∃ entries, Yaml.read (String.ofList (contentOf between)) = .ok (.map entries) ∧
    header = .map entries

/-- Lines that are no header: malformed YAML, or a value that is neither null nor entries. -/
def DescribesNone (between : List Line) : Prop :=
  Yaml.read (String.ofList (contentOf between)) = .error .malformed
    ∨ ∃ v, Yaml.read (String.ofList (contentOf between)) = .ok v ∧ v ≠ .null ∧
    ∀ entries, v ≠ .map entries

/-- Lines whose YAML has a fault of its own, such as a date that does not exist. -/
def Misdescribes (between : List Line) (f : Yaml.Fault) : Prop :=
  Yaml.read (String.ofList (contentOf between)) = .error f ∧ f ≠ .malformed

/-- The lines of a header describe it, or none, or have a fault. -/
theorem describes_or (between : List Line) :
  (∃ header, Describes between header) ∨ DescribesNone between ∨ ∃ f, Misdescribes between f
  := by
  cases hread : Yaml.read (String.ofList (contentOf between)) with
  | error f =>
      by_cases hf : f = .malformed
      · exact .inr (.inl (.inl (hf ▸ hread)))
      · exact .inr (.inr ⟨f, hread, hf⟩)
  | ok v =>
      by_cases hnull : v = .null
      · exact .inl ⟨_, .inl ⟨hnull ▸ hread, rfl⟩⟩
      · by_cases hmap : ∃ entries, v = .map entries
        · obtain ⟨entries, rfl⟩ := hmap
          exact .inl ⟨_, .inr ⟨entries, hread, rfl⟩⟩
        · exact .inr (.inl (.inr ⟨v, hread, hnull, not_exists.mp hmap⟩))

section

variable {text : String} {between after : List Line} (h : Encloses text.toList between after)

include h

theorem read?_of_describes {header : Value} (hheader : Describes between header) :
  read? text = .ok (some (header, joinLines after))
  := by
  rw [read?, block?_eq_some_iff.mpr ⟨between, after, h, rfl, rfl⟩]
  dsimp only
  rcases hheader with ⟨hread, rfl⟩ | ⟨entries, hread, rfl⟩
  · rw [hread]
  · rw [hread]

theorem read?_of_describesNone (hnone : DescribesNone between) :
  read? text = .ok none
  := by
  rw [read?, block?_eq_some_iff.mpr ⟨between, after, h, rfl, rfl⟩]
  dsimp only
  rcases hnone with hread | ⟨v, hread, hnull, hmap⟩
  · rw [hread]
  · rw [hread]
    cases v with
    | null => exact (hnull rfl).elim
    | map entries => exact (hmap entries rfl).elim
    | _ => rfl

theorem read?_of_misdescribes {f : Yaml.Fault} (hf : Misdescribes between f) :
  read? text = .error f
  := by
  rw [read?, block?_eq_some_iff.mpr ⟨between, after, h, rfl, rfl⟩]
  dsimp only
  rw [hf.1]
  cases f with
  | malformed => exact (hf.2 rfl).elim
  | _ => rfl

end

/-- A text that is not without a header encloses lines. -/
theorem exists_encloses {text : String} (h : read? text ≠ .ok none) :
  ∃ between after, Encloses text.toList between after
  := by
  cases hblock : block? text.toList with
  | none =>
      have hnone : read? text = .ok none := by rw [read?, hblock]
      exact (h hnone).elim
  | some p =>
      obtain ⟨between, after, hencloses, -⟩ := block?_eq_some_iff.mp hblock
      exact ⟨between, after, hencloses⟩

theorem read?_eq_some_iff {text : String} {header : Value} {rest : List Char} :
  read? text = .ok (some (header, rest))
    ↔ ∃ between after, Encloses text.toList between after ∧ Describes between header ∧
    joinLines after = rest
  := by
  constructor
  · intro h
    obtain ⟨between, after, hencloses⟩ := exists_encloses (ne_of_eq_of_ne h (by simp))
    rcases describes_or between with ⟨header', hheader⟩ | hnone | ⟨f, hf⟩
    · cases (read?_of_describes hencloses hheader).symm.trans h
      exact ⟨between, after, hencloses, hheader, rfl⟩
    · cases (read?_of_describesNone hencloses hnone).symm.trans h
    · cases (read?_of_misdescribes hencloses hf).symm.trans h
  · rintro ⟨between, after, hencloses, hheader, rfl⟩
    exact read?_of_describes hencloses hheader

theorem read?_eq_none_iff {text : String} :
  read? text = .ok none ↔ ∀ between after, Encloses text.toList between after →
    DescribesNone between
  := by
  constructor
  · intro h between after hencloses
    rcases describes_or between with ⟨header, hheader⟩ | hnone | ⟨f, hf⟩
    · cases (read?_of_describes hencloses hheader).symm.trans h
    · exact hnone
    · cases (read?_of_misdescribes hencloses hf).symm.trans h
  · intro h
    by_contra hread
    obtain ⟨between, after, hencloses⟩ := exists_encloses hread
    exact hread (read?_of_describesNone hencloses (h between after hencloses))

theorem read?_eq_error_iff {text : String} {f : Yaml.Fault} :
  read? text = .error f ↔ ∃ between after, Encloses text.toList between after ∧
    Misdescribes between f
  := by
  constructor
  · intro h
    obtain ⟨between, after, hencloses⟩ := exists_encloses (ne_of_eq_of_ne h (by simp))
    rcases describes_or between with ⟨header, hheader⟩ | hnone | ⟨f', hf⟩
    · cases (read?_of_describes hencloses hheader).symm.trans h
    · cases (read?_of_describesNone hencloses hnone).symm.trans h
    · cases (read?_of_misdescribes hencloses hf).symm.trans h
      exact ⟨between, after, hencloses, hf⟩
  · rintro ⟨between, after, hencloses, hf⟩
    exact read?_of_misdescribes hencloses hf

theorem parse_split_eq_some_iff {text : String} {header : Value} {body : String} :
  (parse text = .ok (some header) ∧ split text = .ok (header, body))
    ↔ ∃ rest, read? text = .ok (some (header, rest)) ∧ body = String.ofList (Text.strip rest)
  := by
  rw [parse, split]
  rcases read? text with f | _ | ⟨header', rest⟩
  · simp [Functor.map, Except.map]
  · simp [Functor.map, Except.map]
  · simp [Functor.map, Except.map, eq_comm]

theorem parse_split_eq_none_iff {text : String} :
  (parse text = .ok none ∧ split text = .ok (.map [], text)) ↔ read? text = .ok none
  := by
  rw [parse, split]
  rcases read? text with f | _ | ⟨header', rest⟩
  · simp [Functor.map, Except.map]
  · simp [Functor.map, Except.map]
  · simp [Functor.map, Except.map]

theorem parse_split_eq_error_iff {text : String} {f : Yaml.Fault} :
  (parse text = .error f ∧ split text = .error f) ↔ read? text = .error f
  := by
  rw [parse, split]
  rcases read? text with f' | _ | ⟨header', rest⟩
  · simp [Functor.map, Except.map]
  · simp [Functor.map, Except.map]
  · simp [Functor.map, Except.map]

/-- What the lines of a text say of its header. It is described by the lines that the text encloses,
and the body is the text after them without blanks at its ends. There is none if the text encloses
no lines, or lines that describe none; then the body is the whole text. The lines end at the first
that may close a header, but for a second line that may, which the header takes in. -/
theorem parse_split_iff_lines (text : String) :
  (∀ header body,
      (parse text = .ok (some header) ∧ split text = .ok (header, body))
        ↔ ∃ between after, Encloses text.toList between after ∧ Describes between header
            ∧ body = String.ofList (Text.strip (joinLines after)))
    ∧ ((parse text = .ok none ∧ split text = .ok (.map [], text))
        ↔ ∀ between after, Encloses text.toList between after → DescribesNone between)
    ∧ (∀ f, (parse text = .error f ∧ split text = .error f)
        ↔ ∃ between after, Encloses text.toList between after ∧ Misdescribes between f)
    ∧ ((∀ between after, Encloses text.toList between after
          ↔ Delimits text.toList between after ∧ ∀ l ∈ between, ¬ l.IsClosing)
        ↔ ∀ after, ¬ Delimits text.toList [] after)
  := by
  refine ⟨?described, ?none, ?fault, encloses_iff_delimits text.toList⟩
  case described =>
    intro header body
    rw [parse_split_eq_some_iff]
    constructor
    · rintro ⟨rest, hread, rfl⟩
      obtain ⟨between, after, hencloses, hheader, rfl⟩ := read?_eq_some_iff.mp hread
      exact ⟨between, after, hencloses, hheader, rfl⟩
    · rintro ⟨between, after, hencloses, hheader, rfl⟩
      exact ⟨joinLines after, read?_eq_some_iff.mpr ⟨between, after, hencloses, hheader, rfl⟩, rfl⟩
  case none => rw [parse_split_eq_none_iff, read?_eq_none_iff]
  case fault =>
    intro f
    rw [parse_split_eq_error_iff, read?_eq_error_iff]

/-- A header with one empty line describes no entries. -/
theorem parse_split_empty_line :
  parse "---\n\n---\n# Body" = .ok (some (.map [])) ∧ split "---\n\n---\n# Body"
    = .ok (.map [], "# Body")
  := by
  have hlines : lines "---\n\n---\n# Body".toList
      = [⟨mark, ['\n']⟩, ⟨[], ['\n']⟩, ⟨mark, ['\n']⟩, ⟨"# Body".toList, []⟩] := by rfl
  have hencloses : Encloses "---\n\n---\n# Body".toList [⟨[], ['\n']⟩] [⟨"# Body".toList, []⟩] :=
    ⟨⟨_, _, hlines, rfl, Line.closes_eq_true_iff.mp rfl⟩, by simp, by simp⟩
  exact ((parse_split_iff_lines _).1 _ _).mpr ⟨_, _, hencloses, .inl ⟨rfl, rfl⟩, rfl⟩

/-- Two marks next to each other enclose no header, and the text after the second can be taken for
one. -/
theorem not_encloses_adjacent :
  Delimits "---\n---\n# Body".toList [] [⟨"# Body".toList, []⟩]
    ∧ parse "---\n---\n# Body" = .ok none
    ∧ split "---\n---\n# Body" = .ok (.map [], "---\n---\n# Body")
    ∧ Delimits "---\n---\ntitle: x\n---\nBody".toList []
        [⟨"title: x".toList, ['\n']⟩, ⟨mark, ['\n']⟩, ⟨"Body".toList, []⟩]
    ∧ block? "---\n---\ntitle: x\n---\nBody".toList = some ("---\ntitle: x".toList, "Body".toList)
  := by
  have hmark : Line.IsClosing ⟨mark, ['\n']⟩ := Line.closes_eq_true_iff.mp rfl
  exact ⟨⟨_, _, rfl, rfl, hmark⟩, rfl, rfl, ⟨_, _, rfl, rfl, hmark⟩, rfl⟩

end AgentBundles.Header
