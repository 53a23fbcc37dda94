import TreeQuery.Text.Casing
import TreeQuery.Text.NameTable

namespace TreeQuery.Text

def expandNames : List String → List String → List (List String)
  | _, [] => []
  | before, entry :: entries =>
    match entry.toList with
    | [] => expandNames before entries
    | digit :: rest =>
      let shared := if digit.toNat < 0x40 then digit.toNat - 0x30 else digit.toNat - 0x37
      let words := before.take shared ++ (String.ofList rest).splitOn " "
      words :: expandNames words entries

def codeInTable? (table : List (Nat × String)) (words : List String) : Option Nat :=
  table.findSome? fun run =>
    let entries := (run.2.splitOn "\n").flatMap (·.splitOn "|")
    ((expandNames [] entries).findIdx? (· == words)).map (run.1 + ·)

def ideographRanges : List (Nat × Nat) :=
  [(0x3400, 0x4dbf), (0x4e00, 0x9fff), (0x20000, 0x2a6df), (0x2a700, 0x2b738), (0x2b740, 0x2b81d),
   (0x2b820, 0x2cea1), (0x2ceb0, 0x2ebe0), (0x30000, 0x3134a)]

def ideographPrefix : List Char := "CJK UNIFIED IDEOGRAPH-".toList

def upperHexValue? (c : Char) : Option Nat :=
  if '0' ≤ c && c ≤ '9' then some (c.toNat - 0x30)
  else if 'A' ≤ c && c ≤ 'F' then some (c.toNat - 0x37)
  else none

def ideograph? (digits : List Char) : Option Nat := do
  let values ← digits.mapM upperHexValue?
  let n := values.foldl (fun n d => 16 * n + d) 0
  if (values.length = 4 ∨ values.length = 5) ∧ inRanges ideographRanges (Char.ofNat n) then some n
  else none

def syllablePrefix : List Char := "HANGUL SYLLABLE ".toList

def syllableStarts : List String :=
  ["G", "GG", "N", "D", "DD", "R", "M", "B", "BB", "S", "SS", "", "J", "JJ", "C", "K", "T", "P",
   "H"]

def syllableMiddles : List String :=
  ["A", "AE", "YA", "YAE", "EO", "E", "YEO", "YE", "O", "WA", "WAE", "OE", "YO", "U", "WEO", "WE",
   "WI", "YU", "EU", "YI", "I"]

def syllableEnds : List String :=
  ["", "G", "GG", "GS", "N", "NJ", "NH", "D", "L", "LG", "LM", "LB", "LS", "LT", "LP", "LH", "M",
   "B", "BS", "S", "SS", "NG", "J", "C", "K", "T", "P", "H"]

def takeSound? (sounds : List String) (cs : List Char) : Option (Nat × List Char) :=
  let fits := sounds.zipIdx.filter fun s => s.1.toList.isPrefixOf cs
  let longest := fits.foldl (fun n s => max n s.1.length) 0
  (fits.find? fun s => s.1.length == longest).map fun s => (s.2, cs.drop longest)

def syllable? (cs : List Char) : Option Nat := do
  let (first, cs) ← takeSound? syllableStarts cs
  let (middle, cs) ← takeSound? syllableMiddles cs
  let (last, cs) ← takeSound? syllableEnds cs
  if cs.isEmpty then some (0xac00 + (first * 21 + middle) * 28 + last) else none

def charNamed? (name : List Char) : Option Nat :=
  if ideographPrefix.isPrefixOf name then ideograph? (name.drop ideographPrefix.length)
  else if syllablePrefix.isPrefixOf name then syllable? (name.drop syllablePrefix.length)
  else
    let words := (String.ofList (name.map upperAscii)).splitOn " "
    (codeInTable? nameTable words).orElse fun _ => codeInTable? aliasTable words

end TreeQuery.Text
