import Provision.Unicode.Property
import Provision.Unicode.Script

/-! # Where texts may be divided

Each property here names the part that a character plays in dividing a text into graphemes, words
or sentences. -/

namespace Provision.Unicode.Segmentation

open GeneralCategory Property

def carriageReturn : Ranges := .single '\r'

def lineFeed : Ranges := .single '\n'

def zeroWidthJoiner : Ranges := .single '\u200d'

def scriptMembers (name : String) : Ranges := (script? name).getD .empty

/-! ## Graphemes -/

namespace Grapheme

def control : Ranges :=
  .ofAll [lineSeparator, paragraphSeparator, GeneralCategory.control, format,
      unassigned ∩ defaultIgnorable] \
    .ofAll [prependedConcatenationMark, otherGraphemeExtend, carriageReturn, lineFeed,
      zeroWidthJoiner]

def extend : Ranges := graphemeExtend ∪ emojiModifier

def prepended : Ranges :=
  prependedConcatenationMark ∪
    .ofLines ["d4e 111c2-111c3 113d1 1193f 11941 11a3a 11a84-11a89 11d46 11f02"]

def spacingMark : Ranges :=
  (GeneralCategory.spacingMark ∪ .ofLines ["e33 eb3"]) \
    .ofAll [extend, .ofLines ["102b-102c 1038 1062-1064 1067-106d 1083 1087-108c 108f 109a-109c",
      "1a61 1a63-1a64 aa7b aa7d 11720-11721"]]

/-- Hangul syllables without a final consonant: every 28th. -/
def openSyllable : Ranges := .ofCodes ((List.range 399).map (0xac00 + 28 * ·))

def closedSyllable : Ranges := .ofLines ["ac00-d7a3"] \ openSyllable

/-- The characters with a part in dividing graphemes, by its name. -/
def named? (name : String) : Option Ranges :=
  (names.find? (name ∈ ·.1)).map (·.2)
where
  names : List (List String × Ranges) := [
    (["control", "cn"], control),
    (["cr"], carriageReturn),
    (["extend", "ex"], extend),
    (["l"], .ofLines ["1100-115f a960-a97c"]),
    (["lf"], lineFeed),
    (["lv"], openSyllable),
    (["lvt"], closedSyllable),
    (["prepend", "pp"], prepended),
    (["regionalindicator", "ri"], regionalIndicator),
    (["spacingmark", "sm"], spacingMark),
    (["t"], .ofLines ["11a8-11ff d7cb-d7fb"]),
    (["v"], .ofLines ["1160-11a7 d7b0-d7c6 16d63 16d67-16d6a"]),
    (["zwj"], zeroWidthJoiner)]

end Grapheme

/-! ## Words -/

namespace Word

def extend : Ranges :=
  .ofAll [graphemeExtend, GeneralCategory.spacingMark, emojiModifier] \ zeroWidthJoiner

def format : Ranges :=
  GeneralCategory.format \
    .ofAll [prependedConcatenationMark, otherGraphemeExtend, .ofLines ["200b-200d"]]

def katakana : Ranges := scriptMembers "kana" ∪ .ofLines ["3031-3035 309b-309c 30a0 30fc ff70"]

def hebrewLetter : Ranges := scriptMembers "hebr" ∩ otherLetter

/-- Scripts that are written without blanks between words. -/
def unspaced : Ranges :=
  .ofAll (["thai", "lao", "mymr", "khmr", "tale", "talu", "lana", "tavt", "ahom", "hira"].map
    scriptMembers)

def letter : Ranges :=
  (alphabetic \ .ofAll [ideographic, katakana, unspaced, extend, hebrewLetter]) ∪ .ofLines [
    "b8 2c2-2c5 2d2-2d7 2de-2df 2e5-2eb 2ed 2ef-2ff 55a-55c 55e 58a 5f3 70f a708-a716 a720-a721",
    "a789-a78a ab5b"]

def numeric : Ranges :=
  (.ofAll [decimalNumber, prependedConcatenationMark, .ofLines ["66b 19da"]]) \ .single '\u070f'

def named? (name : String) : Option Ranges :=
  (names.find? (name ∈ ·.1)).map (·.2)
where
  names : List (List String × Ranges) := [
    (["aletter", "le"], letter),
    (["cr"], carriageReturn),
    (["doublequote", "dq"], .ofLines ["22"]),
    (["extend"], extend),
    (["extendnumlet", "ex"], connectorPunctuation ∪ .single '\u202f'),
    (["format", "fo"], format),
    (["hebrewletter", "hl"], hebrewLetter),
    (["katakana", "ka"], katakana),
    (["lf"], lineFeed),
    (["midletter", "ml"], .ofLines ["3a b7 387 55f 5f4 2027 fe13 fe55 ff1a"]),
    (["midnum", "mn"], .ofLines ["2c 3b 37e 589 60c-60d 66c 7f8 2044 fe50 fe54 ff0c ff1b"]),
    (["midnumlet", "mb"], .ofLines ["2e 2018-2019 2024 fe52 ff07 ff0e"]),
    (["newline", "nl"], .ofLines ["b-c 85 2028-2029"]),
    (["numeric", "nu"], numeric),
    (["regionalindicator", "ri"], regionalIndicator),
    (["singlequote", "sq"], .ofLines ["27"]),
    (["wsegspace"], .ofLines ["20 1680 2000-2006 2008-200a 205f 3000"]),
    (["zwj"], zeroWidthJoiner)]

end Word

/-! ## Sentences -/

namespace Sentence

def extend : Ranges := .ofAll [graphemeExtend, GeneralCategory.spacingMark, zeroWidthJoiner]

def format : Ranges :=
  (GeneralCategory.format \
    .ofAll [prependedConcatenationMark, otherGraphemeExtend, zeroWidthJoiner]) ∪ .single '\u070f'

def fullStop : Ranges := .ofLines ["2e 2024 fe52 ff0e"]

def terminator : Ranges := sentenceTerminal \ fullStop

def close : Ranges :=
  .ofAll [openPunctuation, closePunctuation, initialPunctuation, finalPunctuation, quotationMark,
    .ofLines ["275b-2760 2e00-2e01 2e06-2e08 2e0b 1f676-1f678"]] \ .ofLines ["ff02 ff07"]

/-- Small letters. Georgian has no capitals that begin a sentence. -/
def lower : Ranges := lowercase \ (graphemeExtend ∪ .ofLines ["10d0-10fa 10fd-10ff"])

def upper : Ranges := (uppercase ∪ titlecaseLetter) \ .ofLines ["1c90-1cba 1cbd-1cbf"]

def letter : Ranges := (alphabetic \ .ofAll [lower, upper, extend]) ∪ .single '\u05f3'

def numeric : Ranges :=
  (.ofAll [decimalNumber, prependedConcatenationMark, .ofLines ["66b-66c 19da"]]) \
    .single '\u070f'

def named? (name : String) : Option Ranges :=
  (names.find? (name ∈ ·.1)).map (·.2)
where
  names : List (List String × Ranges) := [
    (["aterm", "at"], fullStop),
    (["close", "cl"], close),
    (["cr"], carriageReturn),
    (["extend", "ex"], extend),
    (["format", "fo"], format),
    (["lf"], lineFeed),
    (["lower", "lo"], lower),
    (["numeric", "nu"], numeric),
    (["oletter", "le"], letter),
    (["scontinue", "sc"], .ofLines [
      "2c-2d 3a-3b 37e 55d 60c-60d 7f8 1802 1808 2013-2014 3001 fe10-fe11 fe13-fe14 fe31-fe32",
      "fe50-fe51 fe54-fe55 fe58 fe63 ff0c-ff0d ff1a-ff1b ff64"]),
    (["sep", "se"], .ofLines ["85 2028-2029"]),
    (["sp"], .ofLines ["9 b-c 20 a0 1680 2000-200a 202f 205f 3000"]),
    (["sterm", "st"], terminator),
    (["upper", "up"], upper)]

end Sentence

end Provision.Unicode.Segmentation
