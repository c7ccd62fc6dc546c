import UploadRelay.Charset.Pages
import UploadRelay.Charset.Sextets
import UploadRelay.Charset.Switching
import UploadRelay.Domain.Prepared
import UploadRelay.Text.Encoding
import UploadRelay.Text.Escape
-- Character sets by their names.

namespace UploadRelay

def CodePage.all : List CodePage := CodePage.isoPages ++ CodePage.windowsPages ++ CodePage.macPages ++ CodePage.hostPages ++ CodePage.terminalPages

structure CharacterSet where
  name : String
  aliases : List String
  -- The text of the bytes; nothing when they do not belong to the set.
  decode? : List UInt8 → Option Text

namespace CharacterSet

open Charset

def markedUtf8? (bytes : List UInt8) : Option Text :=
  match bytes with
  | 0xEF :: 0xBB :: 0xBF :: rest => (Encoding.readUtf8 false rest).toOption
  | _ => (Encoding.readUtf8 false bytes).toOption

def utf16? (order : ByteOrder) (bytes : List UInt8) : Option Text :=
  (Encoding.utf16Loop false order 0 none [] bytes).toOption

def utf32? (order : ByteOrder) (bytes : List UInt8) : Option Text :=
  (Encoding.utf32Loop false order 0 [] bytes).toOption

def larger : List CharacterSet := [
  ⟨"ascii",
    ["646", "ansi_x3.4_1968", "ansi_x3.4_1986", "ansi_x3_4_1968", "cp367", "csascii",
     "ibm367", "iso646_us", "iso_646.irv_1991", "iso_ir_6", "us", "us_ascii"],
    fun bytes => (Encoding.readAscii bytes).toOption⟩,
  ⟨"latin_1",
    ["8859", "cp819", "csisolatin1", "ibm819", "iso8859", "iso8859_1", "iso_8859_1",
     "iso_8859_1_1987", "iso_ir_100", "l1", "latin", "latin1"],
    fun bytes => some (Encoding.readLatin1 bytes)⟩,
  ⟨"charmap", [], fun bytes => some (Encoding.readLatin1 bytes)⟩,
  ⟨"utf_8", ["cp65001", "u8", "utf", "utf8", "utf8_ucs2", "utf8_ucs4"],
    fun bytes => (Encoding.readUtf8 false bytes).toOption⟩,
  ⟨"utf_8_sig", [], markedUtf8?⟩,
  ⟨"utf_7", ["u7", "unicode_1_1_utf_7", "utf7"], Sextets.decode?⟩,
  ⟨"utf_16", ["u16", "utf16"], fun bytes => (Encoding.utf16Marked false bytes).toOption⟩,
  ⟨"utf_16_le", ["unicodelittleunmarked", "utf_16le"], utf16? .little⟩,
  ⟨"utf_16_be", ["unicodebigunmarked", "utf_16be"], utf16? .big⟩,
  ⟨"utf_32", ["u32", "utf32"], fun bytes => (Encoding.utf32Marked false bytes).toOption⟩,
  ⟨"utf_32_le", ["utf_32le"], utf32? .little⟩,
  ⟨"utf_32_be", ["utf_32be"], utf32? .big⟩,
  ⟨"unicode_escape", [], fun bytes => Text.Escape.decode? (Encoding.readLatin1 bytes)⟩,
  ⟨"raw_unicode_escape", [], fun bytes => Text.Escape.decodeRaw? (Encoding.readLatin1 bytes)⟩,
  ⟨"punycode", [], fun bytes => Punycode.decode? (Encoding.readLatin1 bytes)⟩,
  ⟨"idna", [], fun bytes => Domain.olderText? (Encoding.readLatin1 bytes)⟩,
  ⟨"shift_jis", ["csshiftjis", "s_jis", "shiftjis", "sjis", "x_mac_japanese"], readAll shiftedKanji⟩,
  ⟨"cp932", ["932", "ms932", "ms_kanji", "mskanji"], readAll vendorShifted⟩,
  ⟨"shift_jis_2004", ["s_jis_2004", "shiftjis2004", "sjis_2004"], readAll (extendedShifted .later)⟩,
  ⟨"shift_jisx0213", ["s_jisx0213", "shiftjisx0213", "sjisx0213"],
    readAll (extendedShifted .earlier)⟩,
  ⟨"euc_jp", ["eucjp", "u_jis", "ujis"], readAll commonHigh⟩,
  ⟨"euc_jis_2004", ["euc_jis2004", "eucjis2004", "jisx0213"], readAll (extendedHigh .later)⟩,
  ⟨"euc_jisx0213", ["eucjisx0213"], readAll (extendedHigh .earlier)⟩,
  ⟨"iso2022_jp", ["csiso2022jp", "iso2022jp", "iso_2022_jp"], Switching.japanese.decode?⟩,
  ⟨"iso2022_jp_1", ["iso2022jp_1", "iso_2022_jp_1"], Switching.japanese1.decode?⟩,
  ⟨"iso2022_jp_2", ["iso2022jp_2", "iso_2022_jp_2"], Switching.japanese2.decode?⟩,
  ⟨"iso2022_jp_2004", ["iso2022jp_2004", "iso_2022_jp_2004"], Switching.japanese2004.decode?⟩,
  ⟨"iso2022_jp_3", ["iso2022jp_3", "iso_2022_jp_3"], Switching.japanese3.decode?⟩,
  ⟨"iso2022_jp_ext", ["iso2022jp_ext", "iso_2022_jp_ext"], Switching.japaneseExtended.decode?⟩,
  ⟨"gb2312",
    ["chinese", "csiso58gb231280", "euc_cn", "euccn", "eucgb2312_cn", "gb2312_1980",
     "gb2312_80", "iso_ir_58", "x_mac_simp_chinese"],
    readAll commonHanzi⟩,
  ⟨"gbk", ["936", "cp936", "ms936"], readAll extendedHanzi⟩,
  ⟨"gb18030", ["gb18030_2000"], readAll completeHanzi⟩,
  ⟨"hz", ["hz_gb", "hz_gb_2312", "hzgb"], tildeHanzi?⟩,
  ⟨"big5", ["big5_tw", "csbig5", "x_mac_trad_chinese"], readAll traditional⟩,
  ⟨"cp950", ["950", "ms950"], readAll vendorTraditional⟩,
  ⟨"big5hkscs", ["big5_hkscs", "hkscs"], readAll hongKong⟩,
  ⟨"euc_kr",
    ["euckr", "korean", "ks_c_5601", "ks_c_5601_1987", "ks_x_1001", "ksc5601", "ksx1001",
     "x_mac_korean"],
    readAll commonHangul⟩,
  ⟨"cp949", ["949", "ms949", "uhc"], readAll allHangul⟩,
  ⟨"johab", ["cp1361", "ms1361"], readAll joinedHangul⟩,
  ⟨"iso2022_kr", ["csiso2022kr", "iso2022kr", "iso_2022_kr"], Switching.korean.decode?⟩]

def ofPage (p : CodePage) : CharacterSet := ⟨p.name, p.aliases, p.decode?⟩

def all : List CharacterSet := larger ++ CodePage.all.map ofPage

-- Names are compared without regard to case, and every run of other characters than
-- letters, digits and full stops counts as one low line.
def simplifiedName (name : Text) : Text :=
  let pieces := name.foldl (fun (state : Text × Bool) c =>
    if c.isLetter || c.isDigit || c.val == 46 then
      let kept := if state.2 && !state.1.isEmpty then CodePoint.ofChar '_' :: state.1 else state.1
      (c.lower :: kept, false)
    else (state.1, true)) ([], false)
  pieces.1.reverse

def withAlias? (name : Text) : Option CharacterSet :=
  all.find? fun set => set.aliases.any fun a => Text.ofString a == name

-- The set that has the name as an alias, with full stops or with low lines in their place, or
-- else as its own name.
def named? (name : Text) : Option CharacterSet :=
  let name := simplifiedName name
  let lined := name.map fun c => if c.val = 46 then CodePoint.ofChar '_' else c
  match withAlias? name, withAlias? lined with
  | some set, _ => some set
  | none, some set => some set
  | none, none => all.find? fun set => Text.ofString set.name == name

def textOf? (name : Text) (bytes : List UInt8) : Option Text :=
  if bytes.isEmpty then some [] else (named? name).bind fun set => set.decode? bytes

end CharacterSet

end UploadRelay
