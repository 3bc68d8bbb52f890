import RequestChain.Charset.Backslash
import RequestChain.Charset.Basic
import RequestChain.Charset.Chinese
import RequestChain.Charset.Designated
import RequestChain.Charset.Japanese
import RequestChain.Charset.Korean
import RequestChain.Charset.Page.Dos
import RequestChain.Charset.Page.Ebcdic
import RequestChain.Charset.Page.Iso
import RequestChain.Charset.Page.Macintosh
import RequestChain.Charset.Page.Terminal
import RequestChain.Charset.Page.Windows
import RequestChain.Charset.Traditional

namespace RequestChain.Charset

structure Entry where
  charset : Charset
  name : String
  otherNames : List String

def unicodeEntries : List Entry := [
  ⟨.ascii, "ascii",
    ["646", "ansi_x3.4_1968", "ansi_x3.4_1986", "ansi_x3_4_1968", "cp367", "csascii", "ibm367",
      "iso646_us", "iso_646.irv_1991", "iso_ir_6", "us", "us_ascii"]⟩,
  ⟨.latin1, "latin_1",
    ["8859", "cp819", "csisolatin1", "ibm819", "iso8859", "iso8859_1", "iso_8859_1",
      "iso_8859_1_1987", "iso_ir_100", "l1", "latin", "latin1"]⟩,
  ⟨.latin1, "charmap", []⟩,
  ⟨.utf7, "utf_7", ["u7", "unicode_1_1_utf_7", "utf7"]⟩,
  ⟨.utf8, "utf_8", ["cp65001", "u8", "utf", "utf8", "utf8_ucs2", "utf8_ucs4"]⟩,
  ⟨.utf8Marked, "utf_8_sig", []⟩,
  ⟨.utf16 none, "utf_16", ["u16", "utf16"]⟩,
  ⟨.utf16 (some .bigFirst), "utf_16_be", ["unicodebigunmarked", "utf_16be"]⟩,
  ⟨.utf16 (some .littleFirst), "utf_16_le", ["unicodelittleunmarked", "utf_16le"]⟩,
  ⟨.utf32 none, "utf_32", ["u32", "utf32"]⟩,
  ⟨.utf32 (some .bigFirst), "utf_32_be", ["utf_32be"]⟩,
  ⟨.utf32 (some .littleFirst), "utf_32_le", ["utf_32le"]⟩]

def isoEntries : List Entry := [
  ⟨.page .iso2, "iso8859_2",
    ["csisolatin2", "iso_8859_2", "iso_8859_2_1987", "iso_ir_101", "l2", "latin2"]⟩,
  ⟨.page .iso3, "iso8859_3",
    ["csisolatin3", "iso_8859_3", "iso_8859_3_1988", "iso_ir_109", "l3", "latin3"]⟩,
  ⟨.page .iso4, "iso8859_4",
    ["csisolatin4", "iso_8859_4", "iso_8859_4_1988", "iso_ir_110", "l4", "latin4"]⟩,
  ⟨.page .iso5, "iso8859_5",
    ["csisolatincyrillic", "cyrillic", "iso_8859_5", "iso_8859_5_1988", "iso_ir_144"]⟩,
  ⟨.page .iso6, "iso8859_6",
    ["arabic", "asmo_708", "csisolatinarabic", "ecma_114", "iso_8859_6", "iso_8859_6_1987",
      "iso_ir_127"]⟩,
  ⟨.page .iso7, "iso8859_7",
    ["csisolatingreek", "ecma_118", "elot_928", "greek", "greek8", "iso_8859_7",
      "iso_8859_7_1987", "iso_ir_126"]⟩,
  ⟨.page .iso8, "iso8859_8",
    ["csisolatinhebrew", "hebrew", "iso_8859_8", "iso_8859_8_1988", "iso_ir_138"]⟩,
  ⟨.page .iso9, "iso8859_9",
    ["csisolatin5", "iso_8859_9", "iso_8859_9_1989", "iso_ir_148", "l5", "latin5"]⟩,
  ⟨.page .iso10, "iso8859_10",
    ["csisolatin6", "iso_8859_10", "iso_8859_10_1992", "iso_ir_157", "l6", "latin6"]⟩,
  ⟨.page .iso11, "iso8859_11", ["iso_8859_11", "iso_8859_11_2001", "thai"]⟩,
  ⟨.page .iso13, "iso8859_13", ["iso_8859_13", "l7", "latin7"]⟩,
  ⟨.page .iso14, "iso8859_14",
    ["iso_8859_14", "iso_8859_14_1998", "iso_celtic", "iso_ir_199", "l8", "latin8"]⟩,
  ⟨.page .iso15, "iso8859_15", ["iso_8859_15", "l9", "latin9"]⟩,
  ⟨.page .iso16, "iso8859_16",
    ["iso_8859_16", "iso_8859_16_2001", "iso_ir_226", "l10", "latin10"]⟩,
  ⟨.page .thai, "tis_620",
    ["iso_ir_166", "tis620", "tis_620_0", "tis_620_2529_0", "tis_620_2529_1"]⟩]

def windowsEntries : List Entry := [
  ⟨.page .windows1250, "cp1250", ["1250", "windows_1250"]⟩,
  ⟨.page .windows1251, "cp1251", ["1251", "windows_1251"]⟩,
  ⟨.page .windows1252, "cp1252", ["1252", "windows_1252"]⟩,
  ⟨.page .windows1253, "cp1253", ["1253", "windows_1253"]⟩,
  ⟨.page .windows1254, "cp1254", ["1254", "windows_1254"]⟩,
  ⟨.page .windows1255, "cp1255", ["1255", "windows_1255"]⟩,
  ⟨.page .windows1256, "cp1256", ["1256", "windows_1256"]⟩,
  ⟨.page .windows1257, "cp1257", ["1257", "windows_1257"]⟩,
  ⟨.page .windows1258, "cp1258", ["1258", "windows_1258"]⟩,
  ⟨.page .windows874, "cp874", []⟩,
  ⟨.page .kazakh, "kz1048", ["kz_1048", "rk1048", "strk1048_2002"]⟩,
  ⟨.page .cyrillicAsian, "ptcp154", ["cp154", "csptcp154", "cyrillic_asian", "pt154"]⟩]

def dosEntries : List Entry := [
  ⟨.page .dos437, "cp437", ["437", "cspc8codepage437", "ibm437"]⟩,
  ⟨.page .dos720, "cp720", []⟩,
  ⟨.page .dos737, "cp737", []⟩,
  ⟨.page .dos775, "cp775", ["775", "cspc775baltic", "ibm775"]⟩,
  ⟨.page .dos850, "cp850", ["850", "cspc850multilingual", "ibm850"]⟩,
  ⟨.page .dos852, "cp852", ["852", "cspcp852", "ibm852"]⟩,
  ⟨.page .dos855, "cp855", ["855", "csibm855", "ibm855"]⟩,
  ⟨.page .dos856, "cp856", []⟩,
  ⟨.page .dos857, "cp857", ["857", "csibm857", "ibm857"]⟩,
  ⟨.page .dos858, "cp858", ["858", "csibm858", "ibm858"]⟩,
  ⟨.page .dos860, "cp860", ["860", "csibm860", "ibm860"]⟩,
  ⟨.page .dos861, "cp861", ["861", "cp_is", "csibm861", "ibm861"]⟩,
  ⟨.page .dos862, "cp862", ["862", "cspc862latinhebrew", "ibm862"]⟩,
  ⟨.page .dos863, "cp863", ["863", "csibm863", "ibm863"]⟩,
  ⟨.page .dos864, "cp864", ["864", "csibm864", "ibm864"]⟩,
  ⟨.page .dos865, "cp865", ["865", "csibm865", "ibm865"]⟩,
  ⟨.page .dos866, "cp866", ["866", "csibm866", "ibm866"]⟩,
  ⟨.page .dos869, "cp869", ["869", "cp_gr", "csibm869", "ibm869"]⟩,
  ⟨.page .dos1006, "cp1006", []⟩,
  ⟨.page .dos1125, "cp1125", ["1125", "cp866u", "ibm1125", "ruscii"]⟩]

def ebcdicEntries : List Entry := [
  ⟨.page .ebcdic037, "cp037",
    ["037", "csibm037", "ebcdic_cp_ca", "ebcdic_cp_nl", "ebcdic_cp_us", "ebcdic_cp_wt", "ibm037",
      "ibm039"]⟩,
  ⟨.page .ebcdic273, "cp273", ["273", "csibm273", "ibm273"]⟩,
  ⟨.page .ebcdic424, "cp424", ["424", "csibm424", "ebcdic_cp_he", "ibm424"]⟩,
  ⟨.page .ebcdic500, "cp500", ["500", "csibm500", "ebcdic_cp_be", "ebcdic_cp_ch", "ibm500"]⟩,
  ⟨.page .ebcdic875, "cp875", []⟩,
  ⟨.page .ebcdic1026, "cp1026", ["1026", "csibm1026", "ibm1026"]⟩,
  ⟨.page .ebcdic1140, "cp1140", ["1140", "ibm1140"]⟩]

def macintoshEntries : List Entry := [
  ⟨.page .macRoman, "mac_roman", ["macintosh", "macroman"]⟩,
  ⟨.page .macArabic, "mac_arabic", []⟩,
  ⟨.page .macCroatian, "mac_croatian", []⟩,
  ⟨.page .macCyrillic, "mac_cyrillic", ["maccyrillic"]⟩,
  ⟨.page .macFarsi, "mac_farsi", []⟩,
  ⟨.page .macGreek, "mac_greek", ["macgreek"]⟩,
  ⟨.page .macIceland, "mac_iceland", ["maciceland"]⟩,
  ⟨.page .macLatin2, "mac_latin2", ["mac_centeuro", "maccentraleurope", "maclatin2"]⟩,
  ⟨.page .macRomanian, "mac_romanian", []⟩,
  ⟨.page .macTurkish, "mac_turkish", ["macturkish"]⟩]

def terminalEntries : List Entry := [
  ⟨.page .koi8Russian, "koi8_r", ["cskoi8r"]⟩,
  ⟨.page .koi8Tajik, "koi8_t", []⟩,
  ⟨.page .koi8Ukrainian, "koi8_u", []⟩,
  ⟨.page .roman8, "hp_roman8", ["cp1051", "ibm1051", "r8", "roman8"]⟩,
  ⟨.page .palm, "palmos", []⟩]

def easternEntries : List Entry := [
  ⟨.wide shiftJis.wide.decode?, "shift_jis",
    ["csshiftjis", "s_jis", "shiftjis", "sjis", "x_mac_japanese"]⟩,
  ⟨.wide windows932.wide.decode?, "cp932", ["932", "ms932", "ms_kanji", "mskanji"]⟩,
  ⟨.wide markedJis.decode?, "euc_jp", ["eucjp", "u_jis", "ujis"]⟩,
  ⟨.wide Designations.japanese.wide.decode?, "iso2022_jp",
    ["csiso2022jp", "iso2022jp", "iso_2022_jp"]⟩,
  ⟨.wide Designations.japanese1.wide.decode?, "iso2022_jp_1", ["iso2022jp_1", "iso_2022_jp_1"]⟩,
  ⟨.wide Designations.japanese2.wide.decode?, "iso2022_jp_2", ["iso2022jp_2", "iso_2022_jp_2"]⟩,
  ⟨.wide Designations.japaneseExtended.wide.decode?, "iso2022_jp_ext",
    ["iso2022jp_ext", "iso_2022_jp_ext"]⟩,
  ⟨.wide Edition.old.shifted.decode?, "shift_jisx0213",
    ["s_jisx0213", "shiftjisx0213", "sjisx0213"]⟩,
  ⟨.wide Edition.new.shifted.decode?, "shift_jis_2004",
    ["s_jis_2004", "shiftjis2004", "sjis_2004"]⟩,
  ⟨.wide Edition.old.marked.decode?, "euc_jisx0213", ["eucjisx0213"]⟩,
  ⟨.wide Edition.new.marked.decode?, "euc_jis_2004", ["euc_jis2004", "eucjis2004", "jisx0213"]⟩,
  ⟨.wide (Designations.japanesePlanes .old).wide.decode?, "iso2022_jp_3",
    ["iso2022jp_3", "iso_2022_jp_3"]⟩,
  ⟨.wide (Designations.japanesePlanes .new).wide.decode?, "iso2022_jp_2004",
    ["iso2022jp_2004", "iso_2022_jp_2004"]⟩,
  ⟨.wide markedGb.wide.decode?, "gb2312",
    ["chinese", "csiso58gb231280", "euc_cn", "euccn", "eucgb2312_cn", "gb2312_1980", "gb2312_80",
      "iso_ir_58", "x_mac_simp_chinese"]⟩,
  ⟨.wide Charset.gbk.wide.decode?, "gbk", ["936", "cp936", "ms936"]⟩,
  ⟨.wide Charset.gb18030.decode?, "gb18030", ["gb18030_2000"]⟩,
  ⟨.wide tildeGb.decode?, "hz", ["hz_gb", "hz_gb_2312", "hzgb"]⟩,
  ⟨.wide Charset.big5.wide.decode?, "big5", ["big5_tw", "csbig5", "x_mac_trad_chinese"]⟩,
  ⟨.wide hongKong.decode?, "big5hkscs", ["big5_hkscs", "hkscs"]⟩,
  ⟨.wide windows950.wide.decode?, "cp950", ["950", "ms950"]⟩,
  ⟨.wide markedKs.decode?, "euc_kr",
    ["euckr", "korean", "ks_c_5601", "ks_c_5601_1987", "ks_x_1001", "ksc5601", "ksx1001",
      "x_mac_korean"]⟩,
  ⟨.wide windows949.wide.decode?, "cp949", ["949", "ms949", "uhc"]⟩,
  ⟨.wide combined.wide.decode?, "johab", ["cp1361", "ms1361"]⟩,
  ⟨.wide Designations.korean.wide.decode?, "iso2022_kr",
    ["csiso2022kr", "iso2022kr", "iso_2022_kr"]⟩]

def escapedEntries : List Entry := [
  ⟨.wide Backslash.quoted.decode?, "unicode_escape", []⟩,
  ⟨.wide Backslash.raw.decode?, "raw_unicode_escape", []⟩,
  ⟨.punycode, "punycode", []⟩]

def rotation : String :=
  "descriptor 'translate' for 'str' objects doesn't apply to a 'bytes' object"

def unusableEntries : List Entry := [
  ⟨.unusable "", "base64_codec", ["base64", "base_64"]⟩,
  ⟨.unusable "", "bz2_codec", ["bz2"]⟩,
  ⟨.unusable "", "hex_codec", ["hex"]⟩,
  ⟨.unusable "", "quopri_codec", ["quopri", "quoted_printable", "quotedprintable"]⟩,
  ⟨.unusable "", "uu_codec", ["uu"]⟩,
  ⟨.unusable "", "zlib_codec", ["zip", "zlib"]⟩,
  ⟨.unusable rotation, "rot_13", ["rot13"]⟩,
  ⟨.unusable "undefined encoding", "undefined", []⟩,
  ⟨.unusable "Unsupported error handling replace", "idna", []⟩]

def entries : List Entry :=
  unicodeEntries ++ isoEntries ++ windowsEntries ++ dosEntries ++
    ebcdicEntries ++ macintoshEntries ++ terminalEntries ++ easternEntries ++
    escapedEntries ++ unusableEntries

/-- A name in small letters, with one underscore for each run of marks. Points count as letters. -/
def plainName (s : String) : String :=
  let cs := s.toLower.toList.map fun c => if c.isAlphanum || c == '.' then c else ' '
  let parts := (String.ofList cs).splitOn " "
  String.intercalate "_" (parts.filter (· ≠ ""))

def ofOtherName? (name : String) : Option Charset :=
  (entries.find? fun e => e.otherNames.contains name).map Entry.charset

/-- The charset of a name. Among the other names points may also part words. -/
def ofName? (s : String) : Option Charset :=
  let name := plainName s
  let parted := name.map fun c => if c == '.' then '_' else c
  (ofOtherName? name).or <| (ofOtherName? parted).or <|
    (entries.find? fun e => e.name == name).map Entry.charset

end RequestChain.Charset
