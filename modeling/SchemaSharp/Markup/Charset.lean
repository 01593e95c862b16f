import SchemaSharp.Markup.CodePage
import SchemaSharp.Text.Pieces

/-!
Character sets by name. A name is compared without regard to case, and every run of characters
other than letters, digits and dots counts as one underscore.
-/

namespace SchemaSharp.Markup

open Text CodePage

/-- `page` reads byte for byte, `lost` being the ASCII bytes without a meaning; `clash` gives
markup characters other bytes; `multiByte` needs several bytes for a character; `notText` is a
coding of bytes. -/
inductive Charset where
  | page (upper : String) (lost : List Nat)
  | clash
  | multiByte
  | notText

/-- Other names of character sets. -/
def charsetAliases : List (String × Charset) := [
  ("037", .clash), ("1026", .clash), ("1125", .page cp1125 []), ("1140", .clash),
  ("1250", .page cp1250 []), ("1251", .page cp1251 []), ("1252", .page cp1252 []),
  ("1253", .page cp1253 []), ("1254", .page cp1254 []), ("1255", .page cp1255 []),
  ("1256", .page cp1256 []), ("1257", .page cp1257 []), ("1258", .page cp1258 []),
  ("273", .clash), ("424", .clash), ("437", .page cp437 []), ("500", .clash),
  ("646", .page asciiOnly []), ("775", .page cp775 []), ("850", .page cp850 []),
  ("852", .page cp852 []), ("855", .page cp855 []), ("857", .page cp857 []),
  ("858", .page cp858 []), ("860", .page cp860 []), ("861", .page cp861 []),
  ("862", .page cp862 []), ("863", .page cp863 []), ("864", .clash), ("865", .page cp865 []),
  ("866", .page cp866 []), ("869", .page cp869 []), ("8859", .page latin1 []),
  ("932", .multiByte), ("936", .multiByte), ("949", .multiByte), ("950", .multiByte),
  ("ansi_x3.4_1968", .page asciiOnly []), ("ansi_x3.4_1986", .page asciiOnly []),
  ("ansi_x3_4_1968", .page asciiOnly []), ("arabic", .page iso88596 []),
  ("asmo_708", .page iso88596 []), ("base64", .notText), ("base_64", .notText),
  ("big5_hkscs", .multiByte), ("big5_tw", .multiByte), ("bz2", .notText),
  ("chinese", .multiByte), ("cp1051", .page hpRoman8 []), ("cp1361", .multiByte),
  ("cp154", .page ptcp154 []), ("cp367", .page asciiOnly []), ("cp65001", .page asciiOnly []),
  ("cp819", .page latin1 []), ("cp866u", .page cp1125 []), ("cp936", .multiByte),
  ("cp_gr", .page cp869 []), ("cp_is", .page cp861 []), ("csascii", .page asciiOnly []),
  ("csbig5", .multiByte), ("csibm037", .clash), ("csibm1026", .clash), ("csibm273", .clash),
  ("csibm424", .clash), ("csibm500", .clash), ("csibm855", .page cp855 []),
  ("csibm857", .page cp857 []), ("csibm858", .page cp858 []), ("csibm860", .page cp860 []),
  ("csibm861", .page cp861 []), ("csibm863", .page cp863 []), ("csibm864", .clash),
  ("csibm865", .page cp865 []), ("csibm866", .page cp866 []), ("csibm869", .page cp869 []),
  ("csiso2022jp", .page asciiOnly []), ("csiso2022kr", .multiByte),
  ("csiso58gb231280", .multiByte), ("csisolatin1", .page latin1 []),
  ("csisolatin2", .page iso88592 []), ("csisolatin3", .page iso88593 []),
  ("csisolatin4", .page iso88594 []), ("csisolatin5", .page iso88599 []),
  ("csisolatin6", .page iso885910 []), ("csisolatinarabic", .page iso88596 []),
  ("csisolatincyrillic", .page iso88595 []), ("csisolatingreek", .page iso88597 []),
  ("csisolatinhebrew", .page iso88598 []), ("cskoi8r", .page koi8R []),
  ("cspc775baltic", .page cp775 []), ("cspc850multilingual", .page cp850 []),
  ("cspc862latinhebrew", .page cp862 []), ("cspc8codepage437", .page cp437 []),
  ("cspcp852", .page cp852 []), ("csptcp154", .page ptcp154 []), ("csshiftjis", .multiByte),
  ("cyrillic", .page iso88595 []), ("cyrillic_asian", .page ptcp154 []),
  ("ebcdic_cp_be", .clash), ("ebcdic_cp_ca", .clash), ("ebcdic_cp_ch", .clash),
  ("ebcdic_cp_he", .clash), ("ebcdic_cp_nl", .clash), ("ebcdic_cp_us", .clash),
  ("ebcdic_cp_wt", .clash), ("ecma_114", .page iso88596 []), ("ecma_118", .page iso88597 []),
  ("elot_928", .page iso88597 []), ("euc_cn", .multiByte), ("euc_jis2004", .multiByte),
  ("euccn", .multiByte), ("eucgb2312_cn", .multiByte), ("eucjis2004", .multiByte),
  ("eucjisx0213", .multiByte), ("eucjp", .multiByte), ("euckr", .multiByte),
  ("gb18030_2000", .multiByte), ("gb2312_1980", .multiByte), ("gb2312_80", .multiByte),
  ("greek", .page iso88597 []), ("greek8", .page iso88597 []), ("hebrew", .page iso88598 []),
  ("hex", .notText), ("hkscs", .multiByte), ("hz_gb", .page asciiOnly [126]),
  ("hz_gb_2312", .page asciiOnly [126]), ("hzgb", .page asciiOnly [126]), ("ibm037", .clash),
  ("ibm039", .clash), ("ibm1026", .clash), ("ibm1051", .page hpRoman8 []),
  ("ibm1125", .page cp1125 []), ("ibm1140", .clash), ("ibm273", .clash),
  ("ibm367", .page asciiOnly []), ("ibm424", .clash), ("ibm437", .page cp437 []),
  ("ibm500", .clash), ("ibm775", .page cp775 []), ("ibm819", .page latin1 []),
  ("ibm850", .page cp850 []), ("ibm852", .page cp852 []), ("ibm855", .page cp855 []),
  ("ibm857", .page cp857 []), ("ibm858", .page cp858 []), ("ibm860", .page cp860 []),
  ("ibm861", .page cp861 []), ("ibm862", .page cp862 []), ("ibm863", .page cp863 []),
  ("ibm864", .clash), ("ibm865", .page cp865 []), ("ibm866", .page cp866 []),
  ("ibm869", .page cp869 []), ("iso2022jp", .page asciiOnly []),
  ("iso2022jp_1", .page asciiOnly []), ("iso2022jp_2", .page asciiOnly []),
  ("iso2022jp_2004", .page asciiOnly []), ("iso2022jp_3", .page asciiOnly []),
  ("iso2022jp_ext", .page asciiOnly []), ("iso2022kr", .multiByte),
  ("iso646_us", .page asciiOnly []), ("iso8859", .page latin1 []),
  ("iso8859_1", .page latin1 []), ("iso_2022_jp", .page asciiOnly []),
  ("iso_2022_jp_1", .page asciiOnly []), ("iso_2022_jp_2", .page asciiOnly []),
  ("iso_2022_jp_2004", .page asciiOnly []), ("iso_2022_jp_3", .page asciiOnly []),
  ("iso_2022_jp_ext", .page asciiOnly []), ("iso_2022_kr", .multiByte),
  ("iso_646.irv_1991", .page asciiOnly []), ("iso_8859_1", .page latin1 []),
  ("iso_8859_10", .page iso885910 []), ("iso_8859_10_1992", .page iso885910 []),
  ("iso_8859_11", .page iso885911 []), ("iso_8859_11_2001", .page iso885911 []),
  ("iso_8859_13", .page iso885913 []), ("iso_8859_14", .page iso885914 []),
  ("iso_8859_14_1998", .page iso885914 []), ("iso_8859_15", .page iso885915 []),
  ("iso_8859_16", .page iso885916 []), ("iso_8859_16_2001", .page iso885916 []),
  ("iso_8859_1_1987", .page latin1 []), ("iso_8859_2", .page iso88592 []),
  ("iso_8859_2_1987", .page iso88592 []), ("iso_8859_3", .page iso88593 []),
  ("iso_8859_3_1988", .page iso88593 []), ("iso_8859_4", .page iso88594 []),
  ("iso_8859_4_1988", .page iso88594 []), ("iso_8859_5", .page iso88595 []),
  ("iso_8859_5_1988", .page iso88595 []), ("iso_8859_6", .page iso88596 []),
  ("iso_8859_6_1987", .page iso88596 []), ("iso_8859_7", .page iso88597 []),
  ("iso_8859_7_1987", .page iso88597 []), ("iso_8859_8", .page iso88598 []),
  ("iso_8859_8_1988", .page iso88598 []), ("iso_8859_9", .page iso88599 []),
  ("iso_8859_9_1989", .page iso88599 []), ("iso_celtic", .page iso885914 []),
  ("iso_ir_100", .page latin1 []), ("iso_ir_101", .page iso88592 []),
  ("iso_ir_109", .page iso88593 []), ("iso_ir_110", .page iso88594 []),
  ("iso_ir_126", .page iso88597 []), ("iso_ir_127", .page iso88596 []),
  ("iso_ir_138", .page iso88598 []), ("iso_ir_144", .page iso88595 []),
  ("iso_ir_148", .page iso88599 []), ("iso_ir_157", .page iso885910 []),
  ("iso_ir_166", .page tis620 []), ("iso_ir_199", .page iso885914 []),
  ("iso_ir_226", .page iso885916 []), ("iso_ir_58", .multiByte),
  ("iso_ir_6", .page asciiOnly []), ("jisx0213", .multiByte), ("korean", .multiByte),
  ("ks_c_5601", .multiByte), ("ks_c_5601_1987", .multiByte), ("ks_x_1001", .multiByte),
  ("ksc5601", .multiByte), ("ksx1001", .multiByte), ("kz_1048", .page kz1048 []),
  ("l1", .page latin1 []), ("l10", .page iso885916 []), ("l2", .page iso88592 []),
  ("l3", .page iso88593 []), ("l4", .page iso88594 []), ("l5", .page iso88599 []),
  ("l6", .page iso885910 []), ("l7", .page iso885913 []), ("l8", .page iso885914 []),
  ("l9", .page iso885915 []), ("latin", .page latin1 []), ("latin1", .page latin1 []),
  ("latin10", .page iso885916 []), ("latin2", .page iso88592 []), ("latin3", .page iso88593 []),
  ("latin4", .page iso88594 []), ("latin5", .page iso88599 []), ("latin6", .page iso885910 []),
  ("latin7", .page iso885913 []), ("latin8", .page iso885914 []), ("latin9", .page iso885915 []),
  ("mac_centeuro", .page macLatin2 []), ("maccentraleurope", .page macLatin2 []),
  ("maccyrillic", .page macCyrillic []), ("macgreek", .page macGreek []),
  ("maciceland", .page macIceland []), ("macintosh", .page macRoman []),
  ("maclatin2", .page macLatin2 []), ("macroman", .page macRoman []),
  ("macturkish", .page macTurkish []), ("ms1361", .multiByte), ("ms932", .multiByte),
  ("ms936", .multiByte), ("ms949", .multiByte), ("ms950", .multiByte), ("ms_kanji", .multiByte),
  ("mskanji", .multiByte), ("pt154", .page ptcp154 []), ("quopri", .notText),
  ("quoted_printable", .notText), ("quotedprintable", .notText), ("r8", .page hpRoman8 []),
  ("rk1048", .page kz1048 []), ("roman8", .page hpRoman8 []), ("rot13", .notText),
  ("ruscii", .page cp1125 []), ("s_jis", .multiByte), ("s_jis_2004", .multiByte),
  ("s_jisx0213", .multiByte), ("shiftjis", .multiByte), ("shiftjis2004", .multiByte),
  ("shiftjisx0213", .multiByte), ("sjis", .multiByte), ("sjis_2004", .multiByte),
  ("sjisx0213", .multiByte), ("strk1048_2002", .page kz1048 []), ("thai", .page iso885911 []),
  ("tis620", .page tis620 []), ("tis_620_0", .page tis620 []),
  ("tis_620_2529_0", .page tis620 []), ("tis_620_2529_1", .page tis620 []), ("u16", .multiByte),
  ("u32", .multiByte), ("u7", .multiByte), ("u8", .page asciiOnly []), ("u_jis", .multiByte),
  ("uhc", .multiByte), ("ujis", .multiByte), ("unicode_1_1_utf_7", .multiByte),
  ("unicodebigunmarked", .multiByte), ("unicodelittleunmarked", .multiByte),
  ("us", .page asciiOnly []), ("us_ascii", .page asciiOnly []), ("utf", .page asciiOnly []),
  ("utf16", .multiByte), ("utf32", .multiByte), ("utf7", .multiByte),
  ("utf8", .page asciiOnly []), ("utf8_ucs2", .page asciiOnly []),
  ("utf8_ucs4", .page asciiOnly []), ("utf_16be", .multiByte), ("utf_16le", .multiByte),
  ("utf_32be", .multiByte), ("utf_32le", .multiByte), ("uu", .notText),
  ("windows_1250", .page cp1250 []), ("windows_1251", .page cp1251 []),
  ("windows_1252", .page cp1252 []), ("windows_1253", .page cp1253 []),
  ("windows_1254", .page cp1254 []), ("windows_1255", .page cp1255 []),
  ("windows_1256", .page cp1256 []), ("windows_1257", .page cp1257 []),
  ("windows_1258", .page cp1258 []), ("x_mac_japanese", .multiByte),
  ("x_mac_korean", .multiByte), ("x_mac_simp_chinese", .multiByte),
  ("x_mac_trad_chinese", .multiByte), ("zip", .notText), ("zlib", .notText)]

/-- Names of character sets that are no alias of another one. -/
def charsetNames : List (String × Charset) := [
  ("ascii", .page asciiOnly []), ("base64_codec", .notText), ("big5", .multiByte),
  ("big5hkscs", .multiByte), ("bz2_codec", .notText), ("charmap", .page latin1 []),
  ("cp037", .clash), ("cp1006", .page cp1006 []), ("cp1026", .clash),
  ("cp1125", .page cp1125 []), ("cp1140", .clash), ("cp1250", .page cp1250 []),
  ("cp1251", .page cp1251 []), ("cp1252", .page cp1252 []), ("cp1253", .page cp1253 []),
  ("cp1254", .page cp1254 []), ("cp1255", .page cp1255 []), ("cp1256", .page cp1256 []),
  ("cp1257", .page cp1257 []), ("cp1258", .page cp1258 []), ("cp273", .clash), ("cp424", .clash),
  ("cp437", .page cp437 []), ("cp500", .clash), ("cp720", .page cp720 []),
  ("cp737", .page cp737 []), ("cp775", .page cp775 []), ("cp850", .page cp850 []),
  ("cp852", .page cp852 []), ("cp855", .page cp855 []), ("cp856", .page cp856 []),
  ("cp857", .page cp857 []), ("cp858", .page cp858 []), ("cp860", .page cp860 []),
  ("cp861", .page cp861 []), ("cp862", .page cp862 []), ("cp863", .page cp863 []),
  ("cp864", .clash), ("cp865", .page cp865 []), ("cp866", .page cp866 []),
  ("cp869", .page cp869 []), ("cp874", .page cp874 []), ("cp875", .clash), ("cp932", .multiByte),
  ("cp949", .multiByte), ("cp950", .multiByte), ("euc_jis_2004", .multiByte),
  ("euc_jisx0213", .multiByte), ("euc_jp", .multiByte), ("euc_kr", .multiByte),
  ("gb18030", .multiByte), ("gb2312", .multiByte), ("gbk", .multiByte), ("hex_codec", .notText),
  ("hp_roman8", .page hpRoman8 []), ("hz", .page asciiOnly [126]),
  ("iso2022_jp", .page asciiOnly []), ("iso2022_jp_1", .page asciiOnly []),
  ("iso2022_jp_2", .page asciiOnly []), ("iso2022_jp_2004", .page asciiOnly []),
  ("iso2022_jp_3", .page asciiOnly []), ("iso2022_jp_ext", .page asciiOnly []),
  ("iso2022_kr", .multiByte), ("iso8859_10", .page iso885910 []),
  ("iso8859_11", .page iso885911 []), ("iso8859_13", .page iso885913 []),
  ("iso8859_14", .page iso885914 []), ("iso8859_15", .page iso885915 []),
  ("iso8859_16", .page iso885916 []), ("iso8859_2", .page iso88592 []),
  ("iso8859_3", .page iso88593 []), ("iso8859_4", .page iso88594 []),
  ("iso8859_5", .page iso88595 []), ("iso8859_6", .page iso88596 []),
  ("iso8859_7", .page iso88597 []), ("iso8859_8", .page iso88598 []),
  ("iso8859_9", .page iso88599 []), ("johab", .multiByte), ("koi8_r", .page koi8R []),
  ("koi8_t", .page koi8T []), ("koi8_u", .page koi8U []), ("kz1048", .page kz1048 []),
  ("latin_1", .page latin1 []), ("mac_arabic", .clash), ("mac_croatian", .page macCroatian []),
  ("mac_cyrillic", .page macCyrillic []), ("mac_farsi", .clash),
  ("mac_greek", .page macGreek []), ("mac_iceland", .page macIceland []),
  ("mac_latin2", .page macLatin2 []), ("mac_roman", .page macRoman []),
  ("mac_romanian", .page macRomanian []), ("mac_turkish", .page macTurkish []),
  ("palmos", .page palmos []), ("ptcp154", .page ptcp154 []), ("quopri_codec", .notText),
  ("raw_unicode_escape", .page latin1 []), ("rot_13", .notText), ("shift_jis", .multiByte),
  ("shift_jis_2004", .multiByte), ("shift_jisx0213", .multiByte), ("tis_620", .page tis620 []),
  ("unicode_escape", .page latin1 []), ("utf_16", .multiByte), ("utf_16_be", .multiByte),
  ("utf_16_le", .multiByte), ("utf_32", .multiByte), ("utf_32_be", .multiByte),
  ("utf_32_le", .multiByte), ("utf_7", .multiByte), ("utf_8", .page asciiOnly []),
  ("utf_8_sig", .page asciiOnly []), ("uu_codec", .notText), ("zlib_codec", .notText)]

-- A run of other characters becomes an underscore only between two kept ones.
def foldName : Bool → Bool → List Char → List Char
  | _, _, [] => []
  | started, pending, c :: rest =>
      if c.isAlphanum || c == '.' then
        if started && pending then '_' :: c.toLower :: foldName true false rest
        else c.toLower :: foldName true false rest
      else foldName started true rest

def charset? (name : String) : Option Charset :=
  let folded := foldName false false name.toList
  let known := String.ofList folded
  if folded.contains '.' then
    charsetAliases.lookup known
      <|> charsetAliases.lookup (String.ofList (joinWith ['_'] (splitOn '.' folded)))
  else charsetAliases.lookup known <|> charsetNames.lookup known

end SchemaSharp.Markup
