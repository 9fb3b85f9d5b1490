import GraphGateway.Text.CharacterName.Alphabets
import GraphGateway.Text.CharacterName.Symbols
import GraphGateway.Text.CharacterName.EastAsia
import GraphGateway.Text.CharacterName.Historic
import GraphGateway.Text.CharacterName.Pictures
import GraphGateway.Text.CharacterName.Aliases
import GraphGateway.Text.Ranges

/-!
# Characters by their names

The character that a name of Unicode 14 stands for. Names of letters and symbols are looked up in tables,
in capital or small letters; those of Korean syllables and of ideographs are built by a rule, in capital
letters only.
-/

namespace GraphGateway.Text

namespace CharacterName

def tables : List String :=
  [alphabets, symbols, eastAsia, historic, pictures]

private def capitalDigit? (c : Char) : Option Nat :=
  if c.isDigit then some (c.toNat - '0'.toNat)
  else if 'A' ≤ c ∧ c ≤ 'F' then some (c.toNat - 'A'.toNat + 10)
  else none

def readHex (ds : List Char) : Option Nat :=
  ds.foldlM (fun n c => (capitalDigit? c).map (16 * n + ·)) 0

/-- The code point that a line of a table gives to a name. -/
def inLine (name line : String) : Option Nat :=
  match line.splitOn "|" with
  | first :: common :: endings =>
    if name.startsWith common then do
      let code ← readHex first.toList
      let place ← endings.idxOf? (name.drop common.length).toString
      pure (code + place)
    else none
  | _ => none

/-- The code point that the table of other names gives to a name. -/
def inAliases (name : String) : Option Nat :=
  (aliases.splitOn "\n").findSome? fun line =>
    match line.splitOn "|" with
    | [code, other] => if other = name then readHex code.toList else none
    | _ => none

/-- The ideographs that are named by their code points in any number of digits from four to five. -/
def unifiedIdeographs : Ranges :=
  [(0x3400, 0x4DBF), (0x4E00, 0x9FFF), (0x20000, 0x2A6DF), (0x2A700, 0x2B738), (0x2B740, 0x2B81D),
   (0x2B820, 0x2CEA1), (0x2CEB0, 0x2EBE0), (0x30000, 0x3134A)]

/-- The ideographs that are named by their code points as they are commonly written. -/
def compatibilityIdeographs : Ranges :=
  [(0xF900, 0xFA6D), (0xFA70, 0xFAD9), (0x2F800, 0x2FA1D)]

private def ideograph (ranges : Ranges) (digits : List Char) : Option Nat :=
  if digits.length = 4 ∨ digits.length = 5 then (readHex digits).filter ranges.contains else none

/-- The sounds that a Korean syllable begins with. -/
def initials : List String :=
  ["G", "GG", "N", "D", "DD", "R", "M", "B", "BB", "S", "SS", "", "J", "JJ", "C", "K", "T", "P", "H"]

/-- The vowels of Korean syllables. -/
def vowels : List String :=
  ["A", "AE", "YA", "YAE", "EO", "E", "YEO", "YE", "O", "WA", "WAE", "OE", "YO", "U", "WEO", "WE",
   "WI", "YU", "EU", "YI", "I"]

/-- The sounds that a Korean syllable ends with. -/
def finals : List String :=
  ["", "G", "GG", "GS", "N", "NJ", "NH", "D", "L", "LG", "LM", "LB", "LS", "LT", "LP", "LH", "M", "B",
   "BS", "S", "SS", "NG", "J", "C", "K", "T", "P", "H"]

/-- The longest of some sounds that a text begins with: its place among them, and the text after it. -/
private def sound (sounds : List String) (s : List Char) : Option (Nat × List Char) :=
  (sounds.zipIdx.foldl (fun (found : Option (Nat × String)) (t, i) =>
    if t.toList.isPrefixOf s && found.all (·.2.length < t.length) then some (i, t) else found)
    none).map fun (i, t) => (i, s.drop t.length)

/-- The code point of a Korean syllable that is given by its sounds. -/
def syllable (s : List Char) : Option Nat := do
  let (i, s) ← sound initials s
  let (v, s) ← sound vowels s
  let (f, s) ← sound finals s
  if s.isEmpty then some (0xAC00 + (i * vowels.length + v) * finals.length + f) else none

private def after? (beginning : String) (s : List Char) : Option (List Char) :=
  if beginning.toList.isPrefixOf s then some (s.drop beginning.length) else none

end CharacterName

open CharacterName in
/-- The code point of the character of a name. -/
def codeOfName? (name : List Char) : Option Nat :=
  match after? "HANGUL SYLLABLE " name, after? "CJK UNIFIED IDEOGRAPH-" name with
  | some sounds, _ => syllable sounds
  | none, some digits => ideograph unifiedIdeographs digits
  | none, none =>
    let capital := name.map Char.toUpper
    let text := String.ofList capital
    match after? "CJK COMPATIBILITY IDEOGRAPH-" capital with
    | some digits =>
      if digits.head? = some '0' then none else ideograph compatibilityIdeographs digits
    | none => (tables.findSome? fun t => (t.splitOn "\n").findSome? (inLine text)).or (inAliases text)

end GraphGateway.Text
