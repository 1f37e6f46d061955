import Promptline.Text.CaseTable

/-! Lower-casing of whole texts.  A character is lowered by itself, except that a dotted capital I
becomes two characters and that a capital sigma becomes the final form at the end of a word. -/

namespace Promptline.Text

/-- `c` lowered, away from any other character. -/
def lowerChar (c : Char) : List Char :=
  if c = 'İ' then ['i', '\u0307']
  else
    match caseRuns.find? fun r =>
        r.first ≤ c.toNat && c.toNat ≤ r.last && (c.toNat - r.first) % r.step == 0 with
    | some r => [Char.ofNat (c.toNat + r.shift).toNat]
    | none => [c]

/-- The first character that is not ignorable has case. -/
def meetsCased (s : List Char) : Bool :=
  match s.dropWhile (inRanges caseIgnorableRanges) with
  | [] => false
  | c :: _ => inRanges casedRanges c

/-- Lowers the characters of `s`, where `seen` holds those before them, nearest first.  A sigma is
final when a cased character stands before it and none after it, ignorable ones aside. -/
def lowerAfter (seen : List Char) : List Char → List Char
  | [] => []
  | c :: r =>
    (if c = 'Σ' then [if meetsCased seen && !meetsCased r then 'ς' else 'σ'] else lowerChar c) ++
      lowerAfter (c :: seen) r

/-- `s` in lower case. -/
def lower (s : List Char) : List Char := lowerAfter [] s

/-- `s` in lower case. -/
def lowered (s : String) : String := String.ofList (lower s.toList)

end Promptline.Text
