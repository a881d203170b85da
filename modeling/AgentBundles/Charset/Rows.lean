/-!
# Rows of characters

Character sets in which two bytes, a lead and a trail, make a character. They are given in rows of
characters with one lead and trails that follow each other; a space stands where there is no
character.
-/

namespace AgentBundles.Charset

/-- Rows: the lead, the first trail, and the characters. -/
abbrev Rows := List (Nat × Nat × String)

/-- The character of a lead and a trail. -/
def Rows.get? (rows : Rows) (lead trail : Nat) : Option Char :=
  rows.findSome? fun r =>
    if r.1 == lead && r.2.1 ≤ trail then (r.2.2.toList[trail - r.2.1]?).filter (· != ' ') else none

end AgentBundles.Charset
