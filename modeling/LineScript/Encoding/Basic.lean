import LineScript.Encoding.Escaped
import LineScript.Encoding.Multibyte
import LineScript.Encoding.Pages
import LineScript.Encoding.Punycode
import LineScript.Encoding.Shifted
import LineScript.Encoding.Unicode
import LineScript.Label.Basic

/-!
# Text encodings

An encoding has a name and perhaps others. Names are compared without case, and whatever divides their words counts as
one underscore. After decoding, every line break is a line feed.
-/

namespace LineScript

open LineScript.Encoding (ByteOrder DecodeFault Multibyte Page)

inductive Encoding where
  | ascii
  | latin
  | page (page : Page)
  | multibyte (rule : Multibyte)
  | utf7
  | utf8
  | utf8Marked
  | utf16 (order : ByteOrder)
  /-- Units of two bytes in the order that a mark at the start tells. -/
  | utf16Marked
  | utf32 (order : ByteOrder)
  /-- Units of four bytes in the order that a mark at the start tells. -/
  | utf32Marked
  | escaped
  | rawEscaped
  | punycode
  | labels
  | undefined
  deriving Repr, DecidableEq

namespace Encoding

/-! ## Names -/

structure Entry where
  encoding : Encoding
  name : String
  aliases : List String

def rules : List Entry :=
  [⟨.ascii, "ascii", ["646", "ansi_x3.4_1968", "ansi_x3_4_1968", "ansi_x3.4_1986", "cp367", "csascii", "ibm367",
      "iso646_us", "iso_646.irv_1991", "iso_ir_6", "us", "us_ascii"]⟩,
    ⟨.latin, "latin_1", ["8859", "cp819", "csisolatin1", "ibm819", "iso8859", "iso8859_1", "iso_8859_1",
      "iso_8859_1_1987", "iso_ir_100", "l1", "latin", "latin1"]⟩,
    ⟨.latin, "charmap", []⟩,
    ⟨.utf7, "utf_7", ["u7", "utf7", "unicode_1_1_utf_7"]⟩,
    ⟨.utf8, "utf_8", ["u8", "utf", "utf8", "utf8_ucs2", "utf8_ucs4", "cp65001"]⟩,
    ⟨.utf8Marked, "utf_8_sig", []⟩,
    ⟨.utf16Marked, "utf_16", ["u16", "utf16"]⟩,
    ⟨.utf16 .little, "utf_16_le", ["unicodelittleunmarked", "utf_16le"]⟩,
    ⟨.utf16 .big, "utf_16_be", ["unicodebigunmarked", "utf_16be"]⟩,
    ⟨.utf32Marked, "utf_32", ["u32", "utf32"]⟩,
    ⟨.utf32 .little, "utf_32_le", ["utf_32le"]⟩,
    ⟨.utf32 .big, "utf_32_be", ["utf_32be"]⟩,
    ⟨.escaped, "unicode_escape", []⟩,
    ⟨.rawEscaped, "raw_unicode_escape", []⟩,
    ⟨.punycode, "punycode", []⟩,
    ⟨.labels, "idna", []⟩,
    ⟨.undefined, "undefined", []⟩]

def entries : List Entry :=
  rules ++ (pages.map fun page => ⟨.page page, page.name, page.aliases⟩) ++
    Multibyte.all.map fun rule => ⟨.multibyte rule, rule.name, rule.aliases⟩

/-- The letters, digits and points of a name in lower case, with one underscore for each run of other
characters between them. -/
def joinWords (pending : Bool) : List Char → List Char
  | [] => []
  | c :: rest =>
    if c.isAlphanum || c = '.' then
      if pending then '_' :: c.toLower :: joinWords false rest else c.toLower :: joinWords false rest
    else joinWords true rest

def normalName (name : String) : String :=
  String.ofList (joinWords false (name.toList.dropWhile fun c => !(c.isAlphanum || c = '.')))

def withoutPoints (name : String) : String :=
  name.map fun c => if c = '.' then '_' else c

def ofAlias? (name : String) : Option Encoding :=
  (entries.find? fun entry => entry.aliases.contains name).map Entry.encoding

def ofName? (name : String) : Option Encoding :=
  let normal := normalName name
  ofAlias? normal <|> ofAlias? (withoutPoints normal) <|>
    (entries.find? fun entry => entry.name = normal).map Entry.encoding

/-! ## Texts -/

def decode : Encoding → List UInt8 → Except DecodeFault (List Char)
  | .ascii => decodeAscii
  | .latin => decodeLatin
  | .page listed => listed.decode
  | .multibyte rule => rule.decode
  | .utf7 => decodeUtf7
  | .utf8 => decodeUtf8
  | .utf8Marked => decodeMarkedUtf8
  | .utf16 order => decodeUnits 16 utf16Step order 0
  | .utf16Marked => decodeMarkedUnits 16 utf16Step
  | .utf32 order => decodeUnits 32 utf32Step order 0
  | .utf32Marked => decodeMarkedUnits 32 utf32Step
  | .escaped => decodeEscapes "unicodeescape" escapeStep
  | .rawEscaped => decodeEscapes "rawunicodeescape" rawEscapeStep
  | .punycode => decodePunycode
  | .labels => Label.decode
  | .undefined => fun _ => .error .undefined

def unifyLineBreaks : List Char → List Char
  | [] => []
  | '\r' :: '\n' :: rest => '\n' :: unifyLineBreaks rest
  | c :: rest => (if c = '\r' then '\n' else c) :: unifyLineBreaks rest

def decodeText (encoding : Encoding) (bytes : List UInt8) : Except DecodeFault String :=
  (encoding.decode bytes).map fun cs => String.ofList (unifyLineBreaks cs)

/-- A fault of a text that is read as a stream: a character cut off at the end is found alone. -/
def DecodeFault.inStream : DecodeFault → DecodeFault
  | .invalid label start bytes reason =>
    .invalid label (if reason = cutOff then 0 else start) bytes reason
  | fault => fault

end Encoding

end LineScript
