import AgentBundles.Charset.Decoder
import AgentBundles.Charset.ChineseRows
import AgentBundles.Charset.TaiwaneseRows

/-!
# Chinese character sets

GB 2312, what GBK and GB 18030 make of it, and Big5.
-/

namespace AgentBundles.Charset

/-- The numbers below a count without some of them, in order. -/
def numbersWithout (count : Nat) (taken : List Nat) : List Nat :=
  let isTaken := taken.foldl (fun (marks : Array Bool) n => marks.setIfInBounds n true)
    (Array.replicate count false)
  (List.range count).filter fun n => !(isTaken[n]?).getD false

/-- The characters of a run that are in no row, in order. -/
def othersOf (first count : Nat) (rows : Rows) : Array Char :=
  let taken := rows.flatMap fun r => (r.2.2.toList.filter (first ≤ ·.toNat)).map (·.toNat - first)
  ((numbersWithout count taken).map fun n => Char.ofNat (first + n)).toArray

/-- The Chinese characters that are not in GB 2312, in order. -/
def otherChinese : Array Char := othersOf 0x4E00 0x51A6 chineseRows

/-- Which of the other Chinese characters stands at a place of GBK: they fill the places around GB
2312. -/
def otherChineseNumber? (lead trail : Nat) : Option Nat :=
  if 0x81 ≤ lead && lead ≤ 0xA0 &&
    isTrail 0xFE trail then some ((lead - 0x81) * 190 + trailNumber trail)
  else if 0xAA ≤ lead && lead ≤ 0xFE &&
    isTrail 0xA0 trail then some (6080 + (lead - 0xAA) * 96 + trailNumber trail)
  else none

/-- The character of two bytes of GB 2312. -/
def plainChinese? (lead trail : Nat) : Option Char :=
  if 0x80 ≤ lead && 0x80 ≤ trail then chineseRows.get? (lead - 0x80) (trail - 0x80) else none

/-- The character of two bytes of GBK. -/
def fullChinese? (lead trail : Nat) : Option Char :=
  match chineseExtraRows.get? lead trail with
  | some c => some c
  | none =>
    match plainChinese? lead trail with
    | some c => some c
    | none => (otherChineseNumber? lead trail).bind fun n => otherChinese[n]?

/-- GB 2312. -/
def gb2312 : Pairs := ⟨asciiChar?, fun _ => true, plainChinese?⟩

/-- GBK. -/
def gbk : Pairs := ⟨asciiChar?, fun _ => true, fullChinese?⟩

/-- The character for private use of two bytes of GB 18030: three areas one after the other, and
single runs. -/
def privateChinese? (lead trail : Nat) : Option Char :=
  let isHigh := 0xA1 ≤ trail && trail ≤ 0xFE
  if 0xAA ≤ lead && lead ≤ 0xAF && isHigh then
    some (Char.ofNat (0xE000 + (lead - 0xAA) * 94 + (trail - 0xA1)))
  else if 0xF8 ≤ lead && lead ≤ 0xFE && isHigh then
    some (Char.ofNat (0xE234 + (lead - 0xF8) * 94 + (trail - 0xA1)))
  else if 0xA1 ≤ lead && lead ≤ 0xA7 && isTrail 0xA0 trail then
    some (Char.ofNat (0xE4C6 + (lead - 0xA1) * 96 + trailNumber trail))
  else
    (chinesePrivateRuns.find? fun r =>
        r.1 == lead && r.2.1 ≤ trail && trail < r.2.1 + r.2.2.1).map fun r =>
      Char.ofNat (r.2.2.2 + (trail - r.2.1))

/-- The character of two bytes of GB 18030. -/
def latestChinese? (lead trail : Nat) : Option Char :=
  match fullChinese? lead trail with
  | some c => some c
  | none =>
    match chineseLateRows.get? lead trail with
    | some c => some c
    | none => privateChinese? lead trail

/-- The character of four bytes of GB 18030. -/
def longChinese? (a b c d : Nat) : Option Char :=
  if a < 0x81 || 0xFE < a || c < 0x81 || 0xFE < c || d < 0x30 || 0x39 < d then none
  else
    let number (first : Nat) : Nat :=
      ((a - first) * 10 + (b - 0x30)) * 1260 + (c - 0x81) * 10 + (d - 0x30)
    if a < 0x85 then
      if number 0x81 < 39420 then
        ((chineseLongRuns.filter fun r => r.1 ≤ number 0x81).getLast?).map fun r =>
          Char.ofNat (r.2 + (number 0x81 - r.1))
      else
        none
    else if 0x90 ≤ a && 0x10000 + number 0x90 < 0x110000 then
      some (Char.ofNat (0x10000 + number 0x90))
    else
      none

/-- The piece that bytes of GB 18030 begin with. -/
def gb18030Piece : List UInt8 → Piece
  | [] => .unfinished
  | a :: rest =>
    if a.toNat < 0x80 then .text [Char.ofNat a.toNat] 1
    else
      match rest with
      | [] => .unfinished
      | b :: rest =>
        if 0x30 ≤ b.toNat && b.toNat ≤ 0x39 then
          match rest with
          | c :: d :: _ =>
            match longChinese? a.toNat b.toNat c.toNat d.toNat with
            | some c => .text [c] 4
            | none => .broken 1
          | _ => .unfinished
        else
          match latestChinese? a.toNat b.toNat with
          | some c => .text [c] 2
          | none => .broken 1

/-- Big5. -/
def big5 : Pairs := ⟨asciiChar?, fun _ => true, taiwaneseRows.get?⟩

/-- Big5 with the changes of one maker of machines. -/
def makerBig5 : Pairs where
  single? := asciiChar?
  isLead _ := true
  pair? lead trail :=
    match taiwaneseMakerRows.get? lead trail with
    | some c => some c
    | none => taiwaneseRows.get? lead trail

end AgentBundles.Charset
