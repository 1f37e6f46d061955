import Promptline.Text.CharacterNameTable

/-! Which names stand for characters.  The names of syllables and of ideographs follow from their
parts and code points; all others are in a table. -/

namespace Promptline.Text

/-- A search through the table of names, whose entries say how much of the entry before they drop.
-/
structure NameSearch where
  /-- The name that is read now, the last letter first. -/
  name : List Char := []
  /-- How much of it is dropped before more letters come. -/
  dropped : Nat := 0
  isFound : Bool := false

namespace NameSearch

/-- Reads a character of the table.  The name before a small letter is complete, so it is compared
with `wanted`, the last letter of which comes first. -/
def step (wanted : List Char) (s : NameSearch) (c : Char) : NameSearch :=
  if s.isFound then s
  else if c.isLower then
    { s with dropped := s.dropped + (c.toNat - 'a'.toNat), isFound := s.name == wanted }
  else if c = '\n' then s
  else { s with name := c :: s.name.drop s.dropped, dropped := 0 }

end NameSearch

/-- `name`, in capital letters, is in the table. -/
def isTabledName (name : List Char) : Bool :=
  let wanted := name.reverse
  let s := characterNames.foldl (NameSearch.step wanted) {}
  s.isFound || s.name == wanted

/-- The parts of syllables: what they start with, the vowels, and what they end with. -/
def syllableParts : List (List String) := [
  ["G", "GG", "N", "D", "DD", "R", "M", "B", "BB", "S", "SS", "", "J", "JJ", "C", "K", "T", "P",
   "H"],
  ["A", "AE", "YA", "YAE", "EO", "E", "YEO", "YE", "O", "WA", "WAE", "OE", "YO", "U", "WEO", "WE",
   "WI", "YU", "EU", "YI", "I"],
  ["", "G", "GG", "GS", "N", "NJ", "NH", "D", "L", "LG", "LM", "LB", "LS", "LT", "LP", "LH", "M",
   "B", "BS", "S", "SS", "NG", "J", "C", "K", "T", "P", "H"]]

/-- `s` is made of one of each of `parts`; the longest that fits is taken. -/
def isSyllable : List (List String) → List Char → Bool
  | [], s => s.isEmpty
  | choices :: parts, s =>
    let fitting := (choices.map String.toList).filter (·.isPrefixOf s)
    match fitting with
    | [] => false
    | first :: more =>
      let longest := more.foldl (fun a b => if a.length < b.length then b else a) first
      isSyllable parts (s.drop longest.length)

/-- The code points of ideographs whose names end in them. -/
def ideographRanges : List (Nat × Nat) :=
  [(0x3400, 0x4DBF), (0x4E00, 0x9FFF), (0x20000, 0x2A6DF), (0x2A700, 0x2B738), (0x2B740, 0x2B81D),
   (0x2B820, 0x2CEA1), (0x2CEB0, 0x2EBE0), (0x30000, 0x3134A)]

/-- The number that four or five digits stand for, of which those above nine are capital letters. -/
def codePointOf? (digits : List Char) : Option Nat :=
  let value? (c : Char) : Option Nat :=
    if c.isDigit then some (c.toNat - '0'.toNat)
    else if 'A' ≤ c && c ≤ 'F' then some (c.toNat - 'A'.toNat + 10)
    else none
  if digits.length = 4 || digits.length = 5 then
    (digits.mapM value?).map fun ds => ds.foldl (fun n d => 16 * n + d) 0
  else none

/-- What the names of syllables and of ideographs start with. -/
def syllableLead : List Char := "HANGUL SYLLABLE ".toList
def ideographLead : List Char := "CJK UNIFIED IDEOGRAPH-".toList

/-- `name` stands for a character.  The names in the table may be written in small letters. -/
def isCharacterName (name : List Char) : Bool :=
  if syllableLead.isPrefixOf name then isSyllable syllableParts (name.drop syllableLead.length)
  else if ideographLead.isPrefixOf name then
    (codePointOf? (name.drop ideographLead.length)).any fun n =>
      ideographRanges.any fun r => r.1 ≤ n && n ≤ r.2
  else isTabledName (name.map Char.toUpper)

end Promptline.Text
