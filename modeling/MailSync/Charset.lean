import MailSync.Charset.EastAsian
import MailSync.Charset.Table
import MailSync.Text.Base64
import MailSync.Text.Utf8

/-!
# Character sets

The character sets of mail, under the labels that browsers know and a few
more that mail uses. Decoding never fails: what has no meaning in a set becomes
U+FFFD, and a byte order mark is a character like any other.
-/

namespace MailSync

/-- A way to read octets as text. -/
inductive Charset where
  | utf8
  | utf7
  | utf16 (bigEndian : Bool)
  /-- The upper half of a single-octet set, in order. -/
  | singleByte (upper : String)
  /-- The upper half lies in a private use area. -/
  | userDefined
  | chinese
  | big5
  | korean
  | shiftJis
  | eucJp
  | iso2022Jp
deriving DecidableEq

namespace Charset

/-- The label groups; labels are in lower case. -/
def labels : List (Charset × List String) := [
  (utf8, ["utf-8", "utf8", "unicode-1-1-utf-8", "unicode11utf8", "unicode20utf8",
    "x-unicode20utf8"]),
  (utf7, ["utf-7", "unicode-1-1-utf-7", "csunicode11utf7", "x-unicode-2-0-utf-7"]),
  (singleByte Table.windows1252, ["us-ascii", "iso-8859-1", "windows-1252", "latin1", "ascii",
    "ansi_x3.4-1968", "cp1252", "cp819", "csisolatin1", "ibm819", "iso-ir-100", "iso8859-1",
    "iso88591", "iso_8859-1", "iso_8859-1:1987", "l1", "x-cp1252", "iso8859_1"]),
  (singleByte Table.ibm866, ["ibm866", "866", "cp866", "csibm866"]),
  (singleByte Table.latin2, ["iso-8859-2", "csisolatin2", "iso-ir-101", "iso8859-2", "iso88592",
    "iso_8859-2", "iso_8859-2:1987", "l2", "latin2", "iso8859_2"]),
  (singleByte Table.latin3, ["iso-8859-3", "csisolatin3", "iso-ir-109", "iso8859-3", "iso88593",
    "iso_8859-3", "iso_8859-3:1988", "l3", "latin3", "iso8859_3"]),
  (singleByte Table.latin4, ["iso-8859-4", "csisolatin4", "iso-ir-110", "iso8859-4", "iso88594",
    "iso_8859-4", "iso_8859-4:1988", "l4", "latin4", "iso8859_4"]),
  (singleByte Table.latinCyrillic, ["iso-8859-5", "csisolatincyrillic", "cyrillic", "iso-ir-144",
    "iso8859-5", "iso88595", "iso_8859-5", "iso_8859-5:1988", "iso8859_5"]),
  (singleByte Table.latinArabic, ["iso-8859-6", "arabic", "asmo-708", "csiso88596e",
    "csiso88596i", "csisolatinarabic", "ecma-114", "iso-8859-6-e", "iso-8859-6-i", "iso-ir-127",
    "iso8859-6", "iso88596", "iso_8859-6", "iso_8859-6:1987", "iso8859_6"]),
  (singleByte Table.latinGreek, ["iso-8859-7", "csisolatingreek", "ecma-118", "elot_928", "greek",
    "greek8", "iso-ir-126", "iso8859-7", "iso88597", "iso_8859-7", "iso_8859-7:1987",
    "sun_eu_greek", "iso8859_7"]),
  (singleByte Table.latinHebrew, ["iso-8859-8", "csiso88598e", "csisolatinhebrew", "hebrew",
    "iso-8859-8-e", "iso-ir-138", "iso8859-8", "iso88598", "iso_8859-8", "iso_8859-8:1988",
    "visual", "csiso88598i", "iso-8859-8-i", "logical"]),
  (singleByte Table.latin6, ["iso-8859-10", "csisolatin6", "iso-ir-157", "iso8859-10",
    "iso885910", "l6", "latin6"]),
  (singleByte Table.latin7, ["iso-8859-13", "iso8859-13", "iso885913", "iso8859_13"]),
  (singleByte Table.latin8, ["iso-8859-14", "iso8859-14", "iso885914"]),
  (singleByte Table.latin9, ["iso-8859-15", "csisolatin9", "iso8859-15", "iso885915",
    "iso_8859-15", "l9", "iso8859_15"]),
  (singleByte Table.latin10, ["iso-8859-16"]),
  (singleByte Table.koi8r, ["koi8-r", "cskoi8r", "koi", "koi8", "koi8_r"]),
  (singleByte Table.koi8u, ["koi8-u", "koi8-ru", "koi8_u"]),
  (singleByte Table.macintosh, ["macintosh", "csmacintosh", "mac", "x-mac-roman"]),
  (singleByte Table.macCyrillic, ["x-mac-cyrillic", "x-mac-ukrainian"]),
  (singleByte Table.windows874, ["windows-874", "dos-874", "iso-8859-11", "iso8859-11",
    "iso885911", "tis-620", "tis620", "x-windows-874", "ms874"]),
  (singleByte Table.windows1250, ["windows-1250", "cp1250", "x-cp1250"]),
  (singleByte Table.windows1251, ["windows-1251", "cp1251", "x-cp1251"]),
  (singleByte Table.windows1253, ["windows-1253", "cp1253", "x-cp1253"]),
  (singleByte Table.windows1254, ["windows-1254", "iso-8859-9", "cp1254", "csisolatin5",
    "iso-ir-148", "iso8859-9", "iso88599", "iso_8859-9", "iso_8859-9:1989", "l5", "latin5",
    "x-cp1254", "iso8859_9"]),
  (singleByte Table.windows1255, ["windows-1255", "cp1255", "x-cp1255"]),
  (singleByte Table.windows1256, ["windows-1256", "cp1256", "x-cp1256"]),
  (singleByte Table.windows1257, ["windows-1257", "cp1257", "x-cp1257"]),
  (singleByte Table.windows1258, ["windows-1258", "cp1258", "x-cp1258"]),
  (utf16 true, ["utf-16be", "unicodefffe"]),
  (utf16 false, ["utf-16", "utf-16le", "csunicode", "iso-10646-ucs-2", "ucs-2", "unicode",
    "unicodefeff"]),
  (userDefined, ["x-user-defined"]),
  (chinese, ["gbk", "chinese", "csgb2312", "csiso58gb231280", "gb2312", "gb_2312", "gb_2312-80",
    "iso-ir-58", "x-gbk", "gb18030", "ms936", "euc_cn"]),
  (big5, ["big5", "big5-hkscs", "cn-big5", "csbig5", "x-x-big5", "ms950", "x-windows-950",
    "ms950_hkscs"]),
  (korean, ["euc-kr", "cseuckr", "csksc56011987", "iso-ir-149", "korean", "ks_c_5601-1987",
    "ks_c_5601-1989", "ksc5601", "ksc_5601", "windows-949", "ms949", "x-windows-949", "euc_kr"]),
  (shiftJis, ["shift_jis", "csshiftjis", "ms932", "ms_kanji", "shift-jis", "sjis", "windows-31j",
    "x-sjis"]),
  (eucJp, ["euc-jp", "cseucpkdfmtjapanese", "x-euc-jp", "euc_jp"]),
  (iso2022Jp, ["iso-2022-jp", "csiso2022jp", "iso2022jp"])]

/-- The blanks that may surround a label. -/
def isLabelBlank (c : Char) : Bool :=
  c = ' ' || c = '\t' || c = '\n' || c = '\r' || c = '\x0c'

/-- The character set with a label, in any case and with blanks around it. -/
def ofLabel? (label : String) : Option Charset :=
  let cs := ((label.toList.dropWhile isLabelBlank).reverse.dropWhile isLabelBlank).reverse
  let wanted := Ascii.lower (String.ofList cs)
  (labels.find? fun group => group.2.contains wanted).map (·.1)

/-- The character of an octet, given those of the octets from 128. -/
def upperHalf (upper : List Char) (b : UInt8) : Char :=
  if b < 128 then Char.ofNat b.toNat else upper.getD (b.toNat - 128) '\uFFFD'

/-- The 16-bit units of a text, and whether an octet is left over. -/
def units16 (bigEndian : Bool) : Bytes → List Nat × Bool
  | [] => ([], false)
  | [_] => ([], true)
  | a :: b :: rest =>
    let (us, odd) := units16 bigEndian rest
    ((if bigEndian then a.toNat * 256 + b.toNat else b.toNat * 256 + a.toNat) :: us, odd)

/-- Whether a unit is the first half of a pair. -/
def isLeadingHalf (unit : Nat) : Bool := 0xD800 ≤ unit && unit < 0xDC00

/-- Joins surrogate pairs; a lone surrogate becomes U+FFFD. -/
def ofUnits16 : List Nat → List Char
  | [] => []
  | [u] => if 0xD800 ≤ u ∧ u < 0xE000 then ['\uFFFD'] else [Char.ofNat u]
  | u :: v :: rest =>
    if 0xD800 ≤ u ∧ u < 0xDC00 then
      if 0xDC00 ≤ v ∧ v < 0xE000 then
        Char.ofNat (0x10000 + (u - 0xD800) * 1024 + (v - 0xDC00)) :: ofUnits16 rest
      else '\uFFFD' :: ofUnits16 (v :: rest)
    else if 0xDC00 ≤ u ∧ u < 0xE000 then '\uFFFD' :: ofUnits16 (v :: rest)
    else Char.ofNat u :: ofUnits16 (v :: rest)

/-- Reads units. A text that breaks off within a character ends with U+FFFD once, also if an
octet comes after the first half of a pair. -/
def decodeUtf16 (bigEndian : Bool) (bs : Bytes) : List Char :=
  let (us, odd) := units16 bigEndian bs
  if odd && !us.getLast?.any isLeadingHalf then ofUnits16 us ++ ['\uFFFD'] else ofUnits16 us

/-- The octets of six-bit values, without the bits left over. -/
def octetsOfSextets (bits value : Nat) : List Nat → Bytes
  | [] => []
  | v :: rest =>
    if bits + 6 ≥ 8 then
      let n := value * 64 + v
      UInt8.ofNat (n / 2 ^ (bits - 2)) :: octetsOfSextets (bits - 2) (n % 2 ^ (bits - 2)) rest
    else octetsOfSextets (bits + 6) (value * 64 + v) rest

/-- What comes after a shifted run and the minus sign that may end it. -/
def afterRun (cs : List Char) : List Char :=
  match cs.dropWhile (fun c => (Base64.value? c).isSome) with
  | '-' :: rest => rest
  | rest => rest

theorem length_afterRun (cs : List Char) : (afterRun cs).length ≤ cs.length := by
  have hdrop : (cs.dropWhile fun c => (Base64.value? c).isSome).length ≤ cs.length :=
    (List.dropWhile_sublist _).length_le
  unfold afterRun
  split
  next rest heq =>
    rw [heq] at hdrop
    exact Nat.le_of_succ_le hdrop
  next => exact hdrop

/-- Directly written characters, and shifted runs of 16-bit units between
a plus sign and an optional minus sign. -/
def decodeUtf7 : List Char → List Char
  | [] => []
  | '+' :: '-' :: rest => '+' :: decodeUtf7 rest
  | '+' :: rest =>
    let run := rest.takeWhile (fun c => (Base64.value? c).isSome)
    have := length_afterRun rest
    let chars := ofUnits16 (units16 true (octetsOfSextets 0 0 (run.filterMap Base64.value?))).1
    chars ++ decodeUtf7 (afterRun rest)
  | c :: rest => (if c.toNat < 128 then c else '\uFFFD') :: decodeUtf7 rest
termination_by cs => cs.length

/-- The text of the octets. -/
def decode (charset : Charset) (bs : Bytes) : String :=
  match charset with
  | utf8 => Utf8.decodeLossy bs
  | utf7 => String.ofList (decodeUtf7 (bs.map fun b => Char.ofNat b.toNat))
  | utf16 bigEndian => String.ofList (decodeUtf16 bigEndian bs)
  | singleByte upper => let table := upper.toList; String.ofList (bs.map (upperHalf table))
  | userDefined =>
    String.ofList (bs.map fun b =>
      if b < 128 then Char.ofNat b.toNat else Char.ofNat (0xF780 + (b.toNat - 128)))
  | chinese => String.ofList (EastAsian.decode EastAsian.chinese bs)
  | big5 => String.ofList (EastAsian.decode EastAsian.big5 bs)
  | korean => String.ofList (EastAsian.decode EastAsian.korean bs)
  | shiftJis => String.ofList (EastAsian.decode EastAsian.shiftJis bs)
  | eucJp => String.ofList (EastAsian.decode EastAsian.eucJp bs)
  | iso2022Jp => String.ofList (EastAsian.decodeJis .ascii false 0 bs)

end Charset

end MailSync
