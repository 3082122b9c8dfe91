import ClientGen.Charset.Basic
import ClientGen.Charset.Page.Dos
import ClientGen.Charset.Page.Iso
import ClientGen.Charset.Page.Mac
import ClientGen.Charset.Page.Mainframe
import ClientGen.Charset.Page.Regional
import ClientGen.Charset.Page.Windows

/-!
# Labels of character sets

Every character set has a name and may have other labels. In a label only letters, digits and full
stops of ASCII count, whatever their case; anything between two of them counts as one underscore.
Full stops count as underscores, too, in labels other than names.

## Main definitions

* `ClientGen.Charset.normalLabel` : what counts of a label.
* `ClientGen.Charset.ofLabel` : the character set of a label.
-/

namespace ClientGen.Charset

/-- What counts of a label; `pending` says that something else stands in front. -/
def labelChars (pending isFirst : Bool) : List Char → List Char
  | [] => []
  | c :: cs =>
    if c.isAlphanum || c == '.' then
      (if pending && !isFirst then ['_'] else []) ++ c.toLower :: labelChars false false cs
    else labelChars true isFirst cs

/-- What counts of a label. -/
def normalLabel (label : String) : String := String.ofList (labelChars false true label.toList)

/-- A name, the other labels with blanks between them, and the set. -/
abbrev Labels := String × String × Charset

/-- Forms of Unicode and texts with escapes. -/
def unicodeLabels : List Labels := [
  ("utf_8", "cp65001 u8 utf utf8 utf8_ucs2 utf8_ucs4", .utf8 false),
  ("utf_8_sig", "", .utf8 true),
  ("utf_16", "u16 utf16", .utf16 none),
  ("utf_16_be", "unicodebigunmarked utf_16be", .utf16 (some .bigEndian)),
  ("utf_16_le", "unicodelittleunmarked utf_16le", .utf16 (some .littleEndian)),
  ("utf_32", "u32 utf32", .utf32 none),
  ("utf_32_be", "utf_32be", .utf32 (some .bigEndian)),
  ("utf_32_le", "utf_32le", .utf32 (some .littleEndian)),
  ("utf_7", "u7 unicode_1_1_utf_7 utf7", .utf7),
  ("unicode_escape", "", .escaped),
  ("raw_unicode_escape", "", .rawEscaped),
  ("punycode", "", .punycode)]

/-- ASCII and the ISO 8859 family. -/
def europeanLabels : List Labels := [
  ("ascii",
    "646 ansi_x3.4_1968 ansi_x3.4_1986 ansi_x3_4_1968 cp367 csascii ibm367 iso646_us " ++
    "iso_646.irv_1991 iso_ir_6 us us_ascii",
    .ascii),
  ("latin_1",
    "8859 cp819 csisolatin1 ibm819 iso8859 iso8859_1 iso_8859_1 iso_8859_1_1987 " ++
    "iso_ir_100 l1 latin latin1",
    .latin),
  ("iso8859_1", "", .latin),
  ("charmap", "", .latin),
  ("iso8859_2", "csisolatin2 iso_8859_2 iso_8859_2_1987 iso_ir_101 l2 latin2", .page Page.iso2),
  ("iso8859_3", "csisolatin3 iso_8859_3 iso_8859_3_1988 iso_ir_109 l3 latin3", .page Page.iso3),
  ("iso8859_4", "csisolatin4 iso_8859_4 iso_8859_4_1988 iso_ir_110 l4 latin4", .page Page.iso4),
  ("iso8859_5",
    "csisolatincyrillic cyrillic iso_8859_5 iso_8859_5_1988 iso_ir_144",
    .page Page.iso5),
  ("iso8859_6",
    "arabic asmo_708 csisolatinarabic ecma_114 iso_8859_6 iso_8859_6_1987 iso_ir_127",
    .page Page.iso6),
  ("iso8859_7",
    "csisolatingreek ecma_118 elot_928 greek greek8 iso_8859_7 iso_8859_7_1987 " ++
    "iso_ir_126",
    .page Page.iso7),
  ("iso8859_8", "csisolatinhebrew hebrew iso_8859_8 iso_8859_8_1988 iso_ir_138", .page Page.iso8),
  ("iso8859_9", "csisolatin5 iso_8859_9 iso_8859_9_1989 iso_ir_148 l5 latin5", .page Page.iso9),
  ("iso8859_10",
    "csisolatin6 iso_8859_10 iso_8859_10_1992 iso_ir_157 l6 latin6",
    .page Page.iso10),
  ("iso8859_11", "iso_8859_11 iso_8859_11_2001 thai", .page Page.iso11),
  ("iso8859_13", "iso_8859_13 l7 latin7", .page Page.iso13),
  ("iso8859_14", "iso_8859_14 iso_8859_14_1998 iso_celtic iso_ir_199 l8 latin8", .page Page.iso14),
  ("iso8859_15", "iso_8859_15 l9 latin9", .page Page.iso15),
  ("iso8859_16", "iso_8859_16 iso_8859_16_2001 iso_ir_226 l10 latin10", .page Page.iso16)]

/-- The pages of Windows. -/
def windowsLabels : List Labels := [
  ("cp874", "", .page Page.windows874),
  ("cp1250", "1250 windows_1250", .page Page.windows1250),
  ("cp1251", "1251 windows_1251", .page Page.windows1251),
  ("cp1252", "1252 windows_1252", .page Page.windows1252),
  ("cp1253", "1253 windows_1253", .page Page.windows1253),
  ("cp1254", "1254 windows_1254", .page Page.windows1254),
  ("cp1255", "1255 windows_1255", .page Page.windows1255),
  ("cp1256", "1256 windows_1256", .page Page.windows1256),
  ("cp1257", "1257 windows_1257", .page Page.windows1257),
  ("cp1258", "1258 windows_1258", .page Page.windows1258)]

/-- The pages of DOS. -/
def dosLabels : List Labels := [
  ("cp437", "437 cspc8codepage437 ibm437", .page Page.dos437),
  ("cp720", "", .page Page.dos720),
  ("cp737", "", .page Page.dos737),
  ("cp775", "775 cspc775baltic ibm775", .page Page.dos775),
  ("cp850", "850 cspc850multilingual ibm850", .page Page.dos850),
  ("cp852", "852 cspcp852 ibm852", .page Page.dos852),
  ("cp855", "855 csibm855 ibm855", .page Page.dos855),
  ("cp856", "", .page Page.dos856),
  ("cp857", "857 csibm857 ibm857", .page Page.dos857),
  ("cp858", "858 csibm858 ibm858", .page Page.dos858),
  ("cp860", "860 csibm860 ibm860", .page Page.dos860),
  ("cp861", "861 cp_is csibm861 ibm861", .page Page.dos861),
  ("cp862", "862 cspc862latinhebrew ibm862", .page Page.dos862),
  ("cp863", "863 csibm863 ibm863", .page Page.dos863),
  ("cp864", "864 csibm864 ibm864", .page Page.dos864),
  ("cp865", "865 csibm865 ibm865", .page Page.dos865),
  ("cp866", "866 csibm866 ibm866", .page Page.dos866),
  ("cp869", "869 cp_gr csibm869 ibm869", .page Page.dos869),
  ("cp1125", "1125 cp866u ibm1125 ruscii", .page Page.dos1125)]

/-- Other pages. -/
def otherLabels : List Labels := [
  ("mac_arabic", "", .page Page.macArabic),
  ("mac_croatian", "", .page Page.macCroatian),
  ("mac_cyrillic", "maccyrillic", .page Page.macCyrillic),
  ("mac_farsi", "", .page Page.macFarsi),
  ("mac_greek", "macgreek", .page Page.macGreek),
  ("mac_iceland", "maciceland", .page Page.macIceland),
  ("mac_latin2", "mac_centeuro maccentraleurope maclatin2", .page Page.macLatin2),
  ("mac_roman", "macintosh macroman", .page Page.macRoman),
  ("mac_romanian", "", .page Page.macRomanian),
  ("mac_turkish", "macturkish", .page Page.macTurkish),
  ("cp037",
    "037 csibm037 ebcdic_cp_ca ebcdic_cp_nl ebcdic_cp_us ebcdic_cp_wt ibm037 ibm039",
    .page Page.ebcdic037),
  ("cp273", "273 csibm273 ibm273", .page Page.ebcdic273),
  ("cp424", "424 csibm424 ebcdic_cp_he ibm424", .page Page.ebcdic424),
  ("cp500", "500 csibm500 ebcdic_cp_be ebcdic_cp_ch ibm500", .page Page.ebcdic500),
  ("cp875", "", .page Page.ebcdic875),
  ("cp1026", "1026 csibm1026 ibm1026", .page Page.ebcdic1026),
  ("cp1140", "1140 ibm1140", .page Page.ebcdic1140),
  ("koi8_r", "cskoi8r", .page Page.koi8R),
  ("koi8_t", "", .page Page.koi8T),
  ("koi8_u", "", .page Page.koi8U),
  ("kz1048", "kz_1048 rk1048 strk1048_2002", .page Page.kazakh),
  ("ptcp154", "cp154 csptcp154 cyrillic_asian pt154", .page Page.asianCyrillic),
  ("tis_620", "iso_ir_166 tis620 tis_620_0 tis_620_2529_0 tis_620_2529_1", .page Page.thai),
  ("hp_roman8", "cp1051 csHPRoman8 ibm1051 r8 roman8", .page Page.roman8),
  ("palmos", "", .page Page.palm),
  ("cp1006", "", .page Page.urdu)]

/-- Chinese, Japanese and Korean sets. -/
def asianLabels : List Labels := [
  ("gb2312",
    "chinese csiso58gb231280 euc_cn euccn eucgb2312_cn gb2312_1980 gb2312_80 " ++
    "iso_ir_58 x_mac_simp_chinese",
    .gb2312),
  ("gbk", "936 cp936 ms936", .gbk),
  ("gb18030", "gb18030_2000", .gb18030),
  ("hz", "hz_gb hz_gb_2312 hzgb", .hz),
  ("big5", "big5_tw csbig5 x_mac_trad_chinese", .big5),
  ("cp950", "950 ms950", .page950),
  ("big5hkscs", "big5_hkscs hkscs", .hongKong),
  ("euc_kr",
    "euckr korean ks_c_5601 ks_c_5601_1987 ks_x_1001 ksc5601 ksx1001 x_mac_korean",
    .wansung),
  ("cp949", "949 ms949 uhc", .page949),
  ("johab", "cp1361 ms1361", .johab),
  ("iso2022_kr", "csiso2022kr iso2022kr iso_2022_kr", .designated .korean),
  ("shift_jis", "csshiftjis s_jis shiftjis sjis x_mac_japanese", .shiftJis),
  ("cp932", "932 ms932 ms_kanji mskanji", .page932),
  ("shift_jis_2004", "s_jis_2004 shiftjis2004 sjis_2004", .shiftJis0213 .year2004),
  ("shift_jisx0213", "s_jisx0213 shiftjisx0213 sjisx0213", .shiftJis0213 .year2000),
  ("euc_jp", "eucjp u_jis ujis", .eucJapanese),
  ("euc_jis_2004", "euc_jis2004 eucjis2004 jisx0213", .euc0213 .year2004),
  ("euc_jisx0213", "eucjisx0213", .euc0213 .year2000),
  ("iso2022_jp", "csiso2022jp iso2022jp iso_2022_jp", .designated .japanese),
  ("iso2022_jp_1", "iso2022jp_1 iso_2022_jp_1", .designated .japanese1),
  ("iso2022_jp_2", "iso2022jp_2 iso_2022_jp_2", .designated .japanese2),
  ("iso2022_jp_3", "iso2022jp_3 iso_2022_jp_3", .designated .japanese3),
  ("iso2022_jp_2004", "iso2022jp_2004 iso_2022_jp_2004", .designated .japanese2004),
  ("iso2022_jp_ext", "iso2022jp_ext iso_2022_jp_ext", .designated .japaneseExtended)]

/-- What is no character set, or cannot be read in parts. -/
def unfitLabels : List Labels := [
  ("base64_codec", "base64 base_64", .unfit .notText),
  ("bz2_codec", "bz2", .unfit .notText),
  ("hex_codec", "hex", .unfit .notText),
  ("quopri_codec", "quopri quoted_printable quotedprintable", .unfit .notText),
  ("uu_codec", "uu", .unfit .notText),
  ("zlib_codec", "zip zlib", .unfit .notText),
  ("rot_13", "rot13", .unfit .fromText),
  ("idna", "", .unfit .unreadable),
  ("undefined", "", .unfit .unreadable)]

/-- The labels of all sets. -/
def allLabels : List Labels :=
  unicodeLabels ++ europeanLabels ++ windowsLabels ++ dosLabels ++ otherLabels ++ asianLabels ++
    unfitLabels

/-- The label is among those beside the name. -/
def isOtherLabel (label : List Char) (ls : Labels) : Bool :=
  (ls.2.1.toList.splitOn ' ').contains label

/-- The label with underscores for its full stops. -/
def withoutStops (label : List Char) : List Char := label.map fun c => if c = '.' then '_' else c

/-- The set whose labels hold a normal label. -/
def named? (label : String) : Option Charset :=
  let cs := label.toList
  if cs.isEmpty then none
  else
    (allLabels.find? (isOtherLabel cs) <|> allLabels.find? (isOtherLabel (withoutStops cs)) <|>
      allLabels.find? fun ls => ls.1 == label).map (·.2.2)

/-- The character set of a label, if there is one. A label cannot hold the zero character. -/
def ofLabel (label : String) : Except Fault (Option Charset) :=
  if label.toList.contains (Char.ofNat 0) then .error .zeroInName
  else .ok (named? (normalLabel label))

end ClientGen.Charset
