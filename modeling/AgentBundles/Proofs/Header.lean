import AgentBundles.Header
import AgentBundles.Proofs.Text.Within
import AgentBundles.Proofs.Yaml.Mapping

/-!
# Headers that were rendered

The header of a document that was rendered with texts is read back as texts. They are the same
texts, and the body is the same but for blanks at its ends, unless a key is too far from its colon,
or a text has a next-line character and stands between single quotes.
-/

namespace AgentBundles.Header

open Yaml

/-- The entries of a header that are written. -/
def kept (entries : Entries) : Entries :=
  entries.filter fun e => match e.2 with
    | .null => false
    | _ => true

/-- A header is cut at the first line that closes it. -/
theorem cut_append {lines rest : List Char} (h : Unmarked lines) :
  cut (lines ++ '\n' :: '-' :: '-' :: '-' :: '\n' :: rest) = some (lines, rest)
  := by
  induction lines with
  | nil => rfl
  | cons c lines ih =>
      obtain ⟨⟨-, hreturn⟩, hmark, hlines⟩ := h
      have hnone : (afterBreak? (c :: (lines ++ '\n' :: '-' :: '-' :: '-' :: '\n' :: rest))).bind
          afterClosing? = none := by
        by_cases hfeed : c = '\n'
        · subst hfeed
          have hprefix : mark.isPrefixOf (lines ++ '\n' :: '-' :: '-' :: '-' :: '\n' :: rest)
              = false :=
            isPrefixOf_append_of_ne (by decide) (hmark rfl) _
          have hbreak : afterBreak? ('\n' :: (lines ++ '\n' :: '-' :: '-' :: '-' :: '\n' :: rest))
              = some (lines ++ '\n' :: '-' :: '-' :: '-' :: '\n' :: rest) := rfl
          rw [hbreak, Option.bind_some, afterClosing?, hprefix]
          rfl
        · have hbreak : afterBreak? (c :: (lines ++ '\n' :: '-' :: '-' :: '-' :: '\n' :: rest))
              = none := by
            simp [afterBreak?, hreturn, hfeed]
          rw [hbreak]
          rfl
      rw [List.cons_append, cut, hnone]
      simp only [ih hlines, Option.map_some]

/-- A header is the lines before its closing line, whatever follows. -/
theorem block?_append {lines rest : List Char} (h : Unmarked lines) :
  block? (['-', '-', '-', '\n'] ++ (lines ++ '\n' :: '-' :: '-' :: '-' :: '\n' :: rest))
    = some (lines, rest)
  := cut_append h

/-- A document that is rendered has its header, the closing line, and its body. -/
theorem toList_render {entries : Entries} {e : String × String} {texts : List (String × String)}
    (hkept : kept entries = textEntries (e :: texts)) (body : String) :
  (render entries body).toList
    = ['-', '-', '-', '\n'] ++ (writeEntries true 0 (textEntries (e :: texts)) ++
    '\n' :: '-' :: '-' :: '-' :: '\n' :: '\n' :: ((Text.trim body).toList ++ ['\n']))
  := by
  have heq : render entries body = "---\n" ++ Yaml.write (kept entries) ++ "---\n\n" ++
      Text.trim body ++ "\n" := rfl
  rw [heq, hkept]
  simp [Yaml.write, textEntries]

/-- Texts under different names stay as they are. -/
theorem ofList_textEntries {texts : List (String × String)} (hnodup : (texts.map (·.1)).Nodup) :
  Entries.ofList (textEntries texts) = textEntries texts
  := by
  have hmap : ((texts.map fun e => (e.1, Value.str e.2)).map (·.1)).Nodup := by
    rw [List.map_map]
    apply hnodup
  have hseparate := Entries.separate_of_nodup hmap
  rw [List.map_map] at hseparate
  apply Entries.ofList_eq_self hseparate

/-- The header of a document that was rendered with texts is cut out again. -/
theorem block?_render {entries : Entries} {e : String × String} {texts : List (String × String)}
    (hkept : kept entries = textEntries (e :: texts)) (body : String) :
  block? (render entries body).toList
    = some (writeEntries true 0 (textEntries (e :: texts)),
      '\n' :: ((Text.trim body).toList ++ ['\n']))
  := by
  rw [toList_render hkept body]
  apply block?_append (unmarked_writeEntries e texts)

/-- The header of a document that was rendered with texts is read as those texts, and the body comes
after it. -/
theorem read?_render {entries : Entries} {e : String × String} {texts : List (String × String)}
    (hkept : kept entries = textEntries (e :: texts)) (hkeys : ∀ e' ∈ e :: texts, KeyFits e'.1)
    (body : String) :
  read? (render entries body)
    = .ok (some (.map (Entries.ofList (textEntries ((e :: texts).map entryBack))),
    '\n' :: ((Text.trim body).toList ++ ['\n'])))
  := by
  rw [read?, block?_render hkept]
  simp only [read_writeEntries hkeys]

/-- The header of a document that was rendered with texts is read as those texts. -/
theorem parse_render {entries : Entries} {e : String × String} {texts : List (String × String)}
    (hkept : kept entries = textEntries (e :: texts)) (hkeys : ∀ e' ∈ e :: texts, KeyFits e'.1)
    (hnodup : ((e :: texts).map fun e' => (entryBack e').1).Nodup) (body : String) :
  parse (render entries body) = .ok (some (.map (textEntries ((e :: texts).map entryBack))))
  := by
  have hnodup' : (((e :: texts).map entryBack).map (·.1)).Nodup := by
    rw [List.map_map]
    apply hnodup
  rw [parse, read?_render hkept hkeys, ofList_textEntries hnodup']
  rfl

/-- Documents with the same header lines have the same header. -/
theorem parse_congr {s t : String} {lines rest rest' : List Char}
    (hs : block? s.toList = some (lines, rest)) (ht : block? t.toList = some (lines, rest')) :
  parse s = parse t
  := by
  rw [parse, parse, read?, read?, hs, ht]
  dsimp only
  cases Yaml.read (String.ofList lines) with
  | error f =>
      cases f
      all_goals rfl
  | ok v =>
      cases v
      all_goals rfl

/-! ### Metadata -/

/-- The entries of metadata, texts or nothing under names. -/
def metadata (fields : List (String × Option String)) : Entries :=
  fields.map fun f => (.str f.1, (f.2.map Value.str).getD .null)

/-- The texts of metadata. -/
def given (fields : List (String × Option String)) : List (String × String) :=
  fields.filterMap fun f => f.2.map fun text => (f.1, text)

theorem kept_metadata (fields : List (String × Option String)) :
  kept (metadata fields) = textEntries (given fields)
  := by
  induction fields with
  | nil => rfl
  | cons f fields ih =>
      obtain ⟨name, text?⟩ := f
      rw [kept, metadata, textEntries, given] at ih ⊢
      cases text? with
      | none => simpa using ih
      | some text => simpa using ih

theorem nodup_given {fields : List (String × Option String)} (hnodup : (fields.map (·.1)).Nodup) :
  ((given fields).map (·.1)).Nodup
  := by
  have hsublist : ((given fields).map (·.1)).Sublist (fields.map (·.1)) := by
    clear hnodup
    induction fields with
    | nil => apply List.Sublist.refl
    | cons f fields ih =>
        obtain ⟨name, text?⟩ := f
        rw [given] at ih ⊢
        cases text? with
        | none => exact ih.cons _
        | some text => exact ih.cons_cons _
  apply List.Nodup.sublist hsublist hnodup

/-- A mapping of texts without entries is read as one. -/
theorem read_empty :
  Yaml.read (String.ofList ['\x7b', '\x7d']) = .ok (.map [])
  := by
  have hallowed : ['\x7b', '\x7d'].all isAllowed = true := by decide
  have htokens : tokens ['\x7b', '\x7d']
      = ([.flowMappingStart, .flowMappingEnd], none) := by decide +kernel
  have hmade : makeDocument [.flowMappingStart, .flowMappingEnd]
      = .ok (some (mappingDocument [])) := rfl
  have hdocument : document (String.ofList ['\x7b', '\x7d']) = .ok (some (mappingDocument [])) := by
    rw [document]
    simp only [String.toList_ofList, hallowed, htokens, hmade, Bool.not_true, Bool.false_eq_true,
      if_false]
  rw [Yaml.read, hdocument]
  apply value_mappingDocument

/-- A document without header entries is read as one. -/
theorem read?_render_nil {entries : Entries} (hkept : kept entries = []) (body : String) :
  read? (render entries body) = .ok (some (.map [], '\n' :: ((Text.trim body).toList ++ ['\n'])))
  := by
  have heq : render entries body = "---\n" ++ Yaml.write (kept entries) ++ "---\n\n" ++
      Text.trim body ++ "\n" := rfl
  have hunmarked : Unmarked ['\x7b', '\x7d'] := by
    simp [Unmarked]
    decide
  have hlist : (render entries body).toList = ['-', '-', '-', '\n'] ++ (['\x7b', '\x7d'] ++
      '\n' :: '-' :: '-' :: '-' :: '\n' :: '\n' :: ((Text.trim body).toList ++ ['\n'])) := by
    rw [heq, hkept]
    simp [Yaml.write]
  rw [read?, hlist, block?_append hunmarked]
  simp only [read_empty]

/-- The body of a document that was rendered is the one it was rendered with, without blanks at its
ends. -/
theorem split_of_read? {text body : String} {header : Value}
    (h : read? text = .ok (some (header, '\n' :: ((Text.trim body).toList ++ ['\n'])))) :
  split text = .ok (header, Text.trim body)
  := by
  have hstrip : Text.strip ('\n' :: ((Text.trim body).toList ++ ['\n']))
      = (Text.trim body).toList := by
    rw [Text.strip_cons_concat (by decide) (by decide), Text.strip_toList_trim]
  rw [split, h]
  simp only [Functor.map, Except.map, hstrip, String.ofList_toList]

/-- An entry that is read as it was written: its key is near enough to its colon, and single quotes
change neither its key nor its value. -/
def Faithful (e : String × String) : Prop :=
  KeyFits e.1 ∧ Survives (isSimpleKey (.str e.1)) e.1 ∧ Survives false e.2

instance : DecidablePred Faithful := fun _ => inferInstanceAs (Decidable (_ ∧ _))

/-- An entry is read as itself if single quotes do not change it. -/
theorem Faithful.entryBack_eq {e : String × String} (h : Faithful e) :
  entryBack e = e
  := by
  rw [entryBack, readBack_eq_self_iff.mpr h.2.1, readBack_eq_self_iff.mpr h.2.2]

/-- Entries that are among those that are read are faithful, if their keys fit. -/
theorem faithful_of_mem {texts : List (String × String)} {e : String × String} (hfits : KeyFits e.1)
    (he : (Value.str e.1, Value.str e.2) ∈ Entries.ofList (textEntries (texts.map entryBack))) :
  Faithful e
  := by
  obtain ⟨⟨p, hp, hkey⟩, ⟨q, hq, hvalue⟩⟩ := Entries.mem_ofList he
  simp only [textEntries, List.map_map, List.mem_map] at hp hq
  obtain ⟨k, -, rfl⟩ := hp
  obtain ⟨v, -, rfl⟩ := hq
  have hkey' : readBack (isSimpleKey (.str k.1)) k.1 = e.1 := by simpa [entryBack] using hkey
  have hvalue' : readBack false v.2 = e.2 := by simpa [entryBack] using hvalue
  refine ⟨hfits, ?_, ?_⟩
  · rcases survives_or_nextLine_not_mem (isSimpleKey (.str k.1)) k.1 with hsurvives | hnot
    · rw [readBack_eq_self_iff.mpr hsurvives] at hkey'
      rw [← hkey']
      exact hsurvives
    · rw [hkey'] at hnot
      intro _
      exact hnot
  · rcases survives_or_nextLine_not_mem false v.2 with hsurvives | hnot
    · rw [readBack_eq_self_iff.mpr hsurvives] at hvalue'
      rw [← hvalue']
      exact hsurvives
    · rw [hvalue'] at hnot
      intro _
      exact hnot

/-- Metadata of which one entry is left out and one has two lines. -/
def twoLines : List (String × Option String) :=
  [("name", some "react"), ("model", none), ("description", some "Two\nlines --- and a 'quote'")]

end AgentBundles.Header
