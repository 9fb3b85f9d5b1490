import GraphGateway.Text.CharacterName
import GraphGateway.Text.Encoding.Pages

/-!
# Encodings

Encodings of texts as bytes, by the names that they go by: UTF-8, and those that agree with ASCII in its
range.
-/

namespace GraphGateway.Text

inductive Encoding where
  | utf8
  /-- The bytes up to 127 are ASCII, and those above it are the characters of a page, as far as it goes. -/
  | page (upper : List (Option Nat))

namespace Encoding

/-- A name in the form in which encodings are listed: in small letters, with one underscore for each run of
marks other than points, and none at its ends. -/
def normalName : List Char → List Char
  | [] => []
  | c :: rest =>
    if c.isAlphanum ∨ c = '.' then c.toLower :: normalName rest
    else
      match normalName rest with
      | [] => []
      | d :: rest => if d = '_' then d :: rest else '_' :: d :: rest

/-- The names of UTF-8. -/
def utf8Names : List String :=
  ["cp65001", "u8", "utf", "utf8", "utf8_ucs2", "utf8_ucs4", "utf_8"]

/-- The names of ASCII, and of encodings of East Asia that continue it with characters of several bytes,
of which nothing is known here. -/
def asciiNames : List String :=
  ["646", "932", "936", "949", "950", "ansi_x3.4_1968", "ansi_x3.4_1986", "ansi_x3_4_1968", "ascii", "big5",
   "big5_hkscs", "big5_tw", "big5hkscs", "chinese", "cp1361", "cp367", "cp932", "cp936", "cp949", "cp950",
   "csascii", "csbig5", "csiso58gb231280", "csshiftjis", "euc_cn", "euc_jis2004", "euc_jis_2004",
   "euc_jisx0213", "euc_jp", "euc_kr", "euccn", "eucgb2312_cn", "eucjis2004", "eucjisx0213", "eucjp",
   "euckr", "gb18030", "gb18030_2000", "gb2312", "gb2312_1980", "gb2312_80", "gbk", "hkscs", "ibm367",
   "iso646_us", "iso_646.irv_1991", "iso_ir_58", "iso_ir_6", "jisx0213", "johab", "korean", "ks_c_5601",
   "ks_c_5601_1987", "ks_x_1001", "ksc5601", "ksx1001", "ms1361", "ms932", "ms936", "ms949", "ms950",
   "ms_kanji", "mskanji", "s_jis", "shift_jis", "shiftjis", "sjis", "u_jis", "uhc", "ujis", "us",
   "us_ascii", "x_mac_japanese", "x_mac_korean", "x_mac_simp_chinese", "x_mac_trad_chinese"]

/-- The characters that an item of a page stands for. -/
private def pageItem (item : String) : List (Option Nat) :=
  let (first, count) := match item.splitOn "*" with
    | [first, count] => (first, count.toNat?.getD 1)
    | _ => (item, 1)
  match CharacterName.readHex first.toList with
  | some code => (List.range count).map fun i => some (code + i)
  | none => List.replicate count none

/-- The encoding of a name in normal form. -/
private def listed? (name : String) : Option Encoding :=
  if utf8Names.contains name then some .utf8
  else if asciiNames.contains name then some (.page [])
  else (pages.find? fun p => (p.1.splitOn " ").contains name).map fun p =>
    .page (((p.2.splitOn "\n").flatMap (·.splitOn " ")).filter (· ≠ "") |>.flatMap pageItem)

def named? (name : List Char) : Option Encoding :=
  let name := (normalName name).dropWhile (· = '_')
  (listed? (String.ofList name)).or
    (listed? (String.ofList (name.map fun c => if c = '.' then '_' else c)))

private def continues (b : UInt8) : Bool :=
  0x80 ≤ b && b < 0xC0

private def joined (lead : Nat) (more : List UInt8) : Nat :=
  more.foldl (fun n b => n * 64 + (b.toNat - 0x80)) lead

/-- The character that a byte begins in UTF-8, and how many of the bytes after it belong to it. -/
private def character? (a : UInt8) (after : List UInt8) : Option (Char × Nat) :=
  let checked := fun (lead least count : Nat) =>
    let more := after.take count
    let code := joined (a.toNat - lead) more
    if more.length = count ∧ more.all continues ∧ least ≤ code ∧ code.isValidChar then
      some (Char.ofNat code, count)
    else none
  if a < 0x80 then checked 0 0 0
  else if a < 0xC0 then none
  else if a < 0xE0 then checked 0xC0 0x80 1
  else if a < 0xF0 then checked 0xE0 0x800 2
  else checked 0xF0 0x10000 3

/-- Read bytes of which the first ones belong to a character that has been read. -/
private def readFrom : Nat → List UInt8 → List (Option Char)
  | _, [] => []
  | skip + 1, _ :: rest => readFrom skip rest
  | 0, a :: rest =>
    match character? a rest with
    | some (c, more) => some c :: readFrom more rest
    | none => none :: readFrom 0 rest

/-- The characters that bytes encode in UTF-8, with nothing for a byte that belongs to none. -/
def readUtf8 (bs : List UInt8) : List (Option Char) :=
  readFrom 0 bs

/-- The text that bytes encode, if they encode one. -/
def decode (e : Encoding) (bs : List UInt8) : Option (List Char) :=
  match e with
  | .utf8 => (readUtf8 bs).mapM id
  | .page upper => bs.mapM fun b =>
    if b < 0x80 then some (Char.ofNat b.toNat)
    else (upper[b.toNat - 0x80]?.join).map Char.ofNat

end Encoding

end GraphGateway.Text
