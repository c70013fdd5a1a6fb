import ProcTrace.Text.SingleByte
import ProcTrace.Text.Utf8

/-!
# Encodings of bodies

The body of a reply is a text in the encoding that its content type names. A byte order mark at the
start of the body wins over that name, and is not part of the text. UTF-8 is what no name and an
unknown name stand for, and what the encodings with several bytes a character of East Asia are
taken for.
-/

namespace ProcTrace.Text

/-- An encoding of texts. -/
inductive Charset where
  | utf8
  | utf16 (bigEndian : Bool)
  | singleByte (e : SingleByte)

namespace Charset

/-! ### Sixteen bits at a time -/

/-- The units of sixteen bits of some bytes; the last one is missing when a byte stands alone. -/
def units (bigEndian : Bool) : Bytes → List (Option Nat)
  | a :: b :: r =>
    some (if bigEndian then a.toNat * 256 + b.toNat else b.toNat * 256 + a.toNat) ::
      units bigEndian r
  | [_] => [none]
  | [] => []

/-- The characters of some units. Two surrogates of the right kinds make one character. -/
def ofUnits : List (Option Nat) → List Char
  | some h :: some l :: r =>
    if 0xD800 ≤ h ∧ h < 0xDC00 then
      if 0xDC00 ≤ l ∧ l < 0xE000 then
        Char.ofNat (0x10000 + (h - 0xD800) * 1024 + (l - 0xDC00)) :: ofUnits r
      else replacement :: ofUnits (some l :: r)
    else (if 0xDC00 ≤ h ∧ h < 0xE000 then replacement else Char.ofNat h) :: ofUnits (some l :: r)
  | some u :: none :: _ =>
    -- a high surrogate and half a unit are one fault
    if 0xD800 ≤ u ∧ u < 0xDC00 then [replacement]
    else [if 0xDC00 ≤ u ∧ u < 0xE000 then replacement else Char.ofNat u, replacement]
  | [some u] => [if 0xD800 ≤ u ∧ u < 0xE000 then replacement else Char.ofNat u]
  | none :: _ => [replacement]
  | [] => []

/-! ### Labels -/

/-- The blanks that a label may have around it. -/
def isLabelBlank (c : Char) : Bool :=
  c = ' ' || c = '\t' || c = '\n' || c = '\r' || c = '\x0c'

/-- The labels of UTF-16 with the low byte first, and with the high byte first. -/
def utf16Labels : List String × List String :=
  (["csunicode", "iso-10646-ucs-2", "ucs-2", "unicode", "unicodefeff", "utf-16", "utf-16le"],
    ["unicodefffe", "utf-16be"])

/-- The encoding that a label names. -/
def ofLabel (label : List Char) : Charset :=
  let name := String.ofList ((((label.dropWhile isLabelBlank).reverse.dropWhile
    isLabelBlank).reverse).map Char.toLower)
  if utf16Labels.1.contains name then .utf16 false
  else if utf16Labels.2.contains name then .utf16 true
  else match SingleByte.ofLabel? name with
    | some e => .singleByte e
    | none => .utf8

/-! ### Reading -/

/-- The text of some bytes, which have no byte order mark. -/
def decodePlain : Charset → Bytes → List Char
  | .utf8, bs => Utf8.decode bs
  | .utf16 bigEndian, bs => ofUnits (units bigEndian bs)
  | .singleByte e, bs => e.decode bs

/-- The text of some bytes. -/
def decode (e : Charset) : Bytes → List Char
  | 0xEF :: 0xBB :: 0xBF :: r => decodePlain .utf8 r
  | 0xFE :: 0xFF :: r => decodePlain (.utf16 true) r
  | 0xFF :: 0xFE :: r => decodePlain (.utf16 false) r
  | bs => decodePlain e bs

end Charset

end ProcTrace.Text
