/-
The charset of a text.

A charset says which characters bytes stand for.  It has names; most have several, and what
stands between the words of a name does not count.  Reading with a charset is lenient, and
bytes that stand for no character become the replacement character.  Still it can fail: some
charsets want a mark at the start, and some names are those of other things, which turn bytes
into bytes, or text into text.
-/

import OpenApiClient.Text.Escaped
import OpenApiClient.Text.Page
import OpenApiClient.Text.Punycode
import OpenApiClient.Text.Quoted
import OpenApiClient.Text.Utf7
import OpenApiClient.Text.Wide.Chinese
import OpenApiClient.Text.Wide.Japanese
import OpenApiClient.Text.Wide.Korean
import OpenApiClient.Text.Wide.Taiwan

set_option autoImplicit false

namespace OpenApiClient.Text

/-! ## Faults -/

/-- Why bytes cannot be read with a charset. -/
inductive CharsetFault where
  /-- There is no mark of the order of the bytes. -/
  | unmarked (bits : Nat)
  /-- The names of hosts are never read leniently. -/
  | notLenient
  | undefined
  /-- A byte stands where only ASCII can. -/
  | notAscii (byte : UInt8) (position : Nat)
  /-- The name has a null character in it. -/
  | nullCharacter
  /-- The name is that of something that turns bytes into bytes. -/
  | bytesOnly
  /-- The name is that of something that turns text into text. -/
  | textOnly
  deriving DecidableEq, Repr

/-- What a fault says. -/
def CharsetFault.message : CharsetFault → String
  | .unmarked bits => s!"UTF-{bits} stream does not start with BOM"
  | .notLenient => "Unsupported error handling replace"
  | .undefined => "undefined encoding"
  | .notAscii byte position =>
    let digits := String.ofList (hex 2 byte.toNat)
    s!"'ascii' codec can't decode byte 0x{digits} in position {position}: ordinal not in range(128)"
  | .nullCharacter => "embedded null character"
  | .bytesOnly | .textOnly => ""

/-! ## Charsets -/

/-- The charsets of several bytes for a character. -/
inductive WideSet where
  | chinese
  | chineseSecond
  | chineseThird
  | taiwan
  | taiwanVendor
  | korean
  | koreanFull
  | japanese
  | japaneseShifted
  | japaneseVendor
  deriving DecidableEq, Repr

/-- The text that bytes stand for in such a charset. -/
def WideSet.read : WideSet → List UInt8 → List Char
  | .chinese => Chinese.readFirst
  | .chineseSecond => Chinese.readSecond
  | .chineseThird => Chinese.readThird
  | .taiwan => Taiwan.read
  | .taiwanVendor => Taiwan.readVendor
  | .korean => Korean.read
  | .koreanFull => Korean.readFull
  | .japanese => Japanese.readPlain
  | .japaneseShifted => Japanese.readShifted
  | .japaneseVendor => Japanese.readVendor

/-- How bytes stand for characters. -/
inductive Charset where
  | utf8
  /-- The same with an optional mark at the start. -/
  | markedUtf8
  | utf7
  /-- Units of two bytes; without an order they begin with a mark. -/
  | units16 (order : Option ByteOrder)
  /-- Units of four bytes. -/
  | units32 (order : Option ByteOrder)
  /-- A page of characters, of which the first one belongs to the byte `start`; the bytes
  before are ASCII. -/
  | page (start : Nat) (characters : Array Char)
  /-- Every byte is the character of its number. -/
  | latin1
  | wide (set : WideSet)
  | escaped
  | plainEscaped
  | punycode
  | hostNames
  | undefined
  | bytesOnly
  | textOnly
  deriving DecidableEq, Repr

namespace Charset

/-! ## Names -/

/-- The names of the charsets that have no page.  Those that switch between sets by escapes are
read for the set that they begin with, and later forms of a set like the first one. -/
def named : List (String × Charset) := [
  ("utf_8 u8 utf utf8 utf8_ucs2 utf8_ucs4 cp65001", .utf8),
  ("utf_8_sig", .markedUtf8),
  ("utf_7 u7 utf7 unicode_1_1_utf_7", .utf7),
  ("utf_16 u16 utf16", .units16 none),
  ("utf_16_le unicodelittleunmarked utf_16le", .units16 (some .lowFirst)),
  ("utf_16_be unicodebigunmarked utf_16be", .units16 (some .highFirst)),
  ("utf_32 u32 utf32", .units32 none),
  ("utf_32_le utf_32le", .units32 (some .lowFirst)),
  ("utf_32_be utf_32be", .units32 (some .highFirst)),
  ("ascii 646 ansi_x3.4_1968 ansi_x3_4_1968 ansi_x3.4_1986 cp367 csascii ibm367 iso646_us "
    ++ "iso_646.irv_1991 iso_ir_6 us us_ascii", .page 0x80 #[]),
  ("latin_1 8859 cp819 csisolatin1 ibm819 iso8859 iso8859_1 iso_8859_1 iso_8859_1_1987 "
    ++ "iso_ir_100 l1 latin latin1", .latin1),
  ("charmap", .latin1),
  ("gb2312 chinese csiso58gb231280 euc_cn euccn eucgb2312_cn gb2312_1980 gb2312_80 iso_ir_58 "
    ++ "x_mac_simp_chinese", .wide .chinese),
  ("gbk 936 cp936 ms936", .wide .chineseSecond),
  ("gb18030 gb18030_2000", .wide .chineseThird),
  ("big5 big5_tw csbig5 x_mac_trad_chinese", .wide .taiwan),
  ("big5hkscs big5_hkscs hkscs", .wide .taiwan),
  ("cp950 950 ms950", .wide .taiwanVendor),
  ("euc_kr euckr korean ksc5601 ks_c_5601 ks_c_5601_1987 ksx1001 ks_x_1001 x_mac_korean",
    .wide .korean),
  ("cp949 949 ms949 uhc", .wide .koreanFull),
  ("euc_jp eucjp ujis u_jis", .wide .japanese),
  ("euc_jis_2004 jisx0213 eucjis2004 euc_jis2004", .wide .japanese),
  ("euc_jisx0213 eucjisx0213", .wide .japanese),
  ("shift_jis csshiftjis shiftjis sjis s_jis x_mac_japanese", .wide .japaneseShifted),
  ("shift_jis_2004 shiftjis2004 sjis_2004 s_jis_2004", .wide .japaneseShifted),
  ("shift_jisx0213 shiftjisx0213 sjisx0213 s_jisx0213", .wide .japaneseShifted),
  ("cp932 932 ms932 mskanji ms_kanji", .wide .japaneseVendor),
  ("hz hzgb hz_gb hz_gb_2312", .page 0x80 #[]),
  ("iso2022_jp csiso2022jp iso2022jp iso_2022_jp", .page 0x80 #[]),
  ("iso2022_jp_1 iso2022jp_1 iso_2022_jp_1", .page 0x80 #[]),
  ("iso2022_jp_2 iso2022jp_2 iso_2022_jp_2", .page 0x80 #[]),
  ("iso2022_jp_2004 iso_2022_jp_2004 iso2022jp_2004", .page 0x80 #[]),
  ("iso2022_jp_3 iso2022jp_3 iso_2022_jp_3", .page 0x80 #[]),
  ("iso2022_jp_ext iso2022jp_ext iso_2022_jp_ext", .page 0x80 #[]),
  ("iso2022_kr csiso2022kr iso2022kr iso_2022_kr", .page 0x80 #[]),
  ("unicode_escape", .escaped),
  ("raw_unicode_escape", .plainEscaped),
  ("punycode", .punycode),
  ("idna", .hostNames),
  ("undefined", .undefined),
  ("base64_codec base64 base_64", .bytesOnly),
  ("bz2_codec bz2", .bytesOnly),
  ("hex_codec hex", .bytesOnly),
  ("quopri_codec quopri quoted_printable quotedprintable", .bytesOnly),
  ("uu_codec uu", .bytesOnly),
  ("zlib_codec zip zlib", .bytesOnly),
  ("rot_13 rot13", .textOnly)]

/-- A name in small letters, with a low line between its words.  A point belongs to a word. -/
def plainName (name : List Char) : List Char :=
  let isWord (c : Char) : Bool := c.isAlphanum || c = '.'
  let words := Text.splitOn '_' (name.map fun c => if isWord c then c.toLower else '_')
  joinWith ['_'] (words.filter fun w => !w.isEmpty)

/-- The charset that has a name, where `matching` picks the names that count. -/
def withName? (matching : List String → List String) (name : String) : Option Charset :=
  let has (names : String) : Bool := (matching (names.splitOn " ")).contains name
  let inPages (pages : Pages) : Option (Array Char) :=
    (List.find? (fun p => has p.1) pages).map fun p => (String.join p.2).toList.toArray
  ((List.find? (fun p => has p.1) named).map (·.2)).orElse fun _ =>
    ((inPages halfPages).map (.page 0x80 ·)).orElse fun _ => (inPages wholePages).map (.page 0 ·)

/-- The charset with a name.  The points of a name can be low lines, except in the first name
of a charset. -/
def ofName? (name : List Char) : Except CharsetFault (Option Charset) :=
  if name.contains '\x00' then .error .nullCharacter
  else
    let name := plainName name
    .ok ((withName? id (.ofList name)).orElse fun _ =>
      withName? (List.drop 1) (.ofList (name.map fun c => if c = '.' then '_' else c)))

/-! ## Reading -/

/-- The first of some bytes that is not ASCII, and its place. -/
def notAscii? (data : List UInt8) : Option (UInt8 × Nat) :=
  data.zipIdx.find? fun p => 0x80 ≤ p.1.toNat

/-- Text as ASCII that says where the other characters belong; only the first part can hold
other bytes. -/
def readPunycode (data : List UInt8) : Except CharsetFault (List Char) :=
  let (ascii, numbers) := Punycode.cutLast (data.map fun b => Char.ofNat b.toNat)
  match notAscii? (data.drop (data.length - numbers.length)) with
  | some (byte, position) => .error (.notAscii byte position)
  | none =>
    let plain (c : Char) : Char := if c.toNat < 0x80 then c else replacementChar
    .ok (Punycode.read (ascii.map plain) numbers).text

/-- UTF-8 with an optional mark at the start.  What may become a mark is not read as
anything else. -/
def readMarkedUtf8 (data : List UInt8) : List Char :=
  match data with
  | [0xEF] | [0xEF, 0xBB] => []
  | 0xEF :: 0xBB :: 0xBF :: r => decodeReplacing r
  | _ => decodeReplacing data

/-- The text that bytes stand for. -/
def read (charset : Charset) (data : List UInt8) : Except CharsetFault (List Char) :=
  let marked (bits : Nat) : Option (List Char) → Except CharsetFault (List Char)
    | some text => .ok text
    | none => .error (.unmarked bits)
  match charset with
  | .utf8 => .ok (decodeReplacing data)
  | .markedUtf8 => .ok (readMarkedUtf8 data)
  | .utf7 => .ok (readUtf7 data)
  | .units16 (some order) => .ok (readUnits16 order data)
  | .units16 none => marked 16 (readMarked16 data)
  | .units32 (some order) => .ok (readUnits32 order data)
  | .units32 none => marked 32 (readMarked32 data)
  | .page start characters => .ok (readPage start characters data)
  | .latin1 => .ok (data.map fun b => Char.ofNat b.toNat)
  | .wide set => .ok (set.read data)
  | .escaped => .ok (readEscaped data)
  | .plainEscaped => .ok (readPlainEscaped data)
  | .punycode => readPunycode data
  | .hostNames => .error .notLenient
  | .undefined => .error .undefined
  | .bytesOnly => .error .bytesOnly
  | .textOnly => .error .textOnly

/-- The text that bytes stand for if all of them stand for characters.  Units without a mark
have their low byte first. -/
def readExactly? (charset : Charset) (data : List UInt8) : Option (List Char) :=
  let text? := match charset, charset.read data with
    | _, .ok text => some text
    | .units16 _, .error _ => some (readUnits16 .lowFirst data)
    | .units32 _, .error _ => some (readUnits32 .lowFirst data)
    | _, .error _ => none
  text?.filter fun text => !text.contains replacementChar

end Charset

end OpenApiClient.Text
