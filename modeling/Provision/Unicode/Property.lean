import Provision.Unicode.CaseTable
import Provision.Unicode.Category
import Provision.Unicode.PropertyTable

/-! # Binary properties -/

namespace Provision.Unicode.Property

open GeneralCategory

/-! ## Properties that follow from others -/

def lowercase : Ranges := lowercaseLetter ∪ otherLowercase

def uppercase : Ranges := uppercaseLetter ∪ otherUppercase

def cased : Ranges := .ofAll [lowercase, uppercase, titlecaseLetter]

def alphabetic : Ranges :=
  .ofAll [cased, modifierLetter, otherLetter, letterNumber, otherAlphabetic]

def math : Ranges := mathSymbol ∪ otherMath

/-- Punctuation that stands inside of a word or a number. -/
def wordMiddle : Ranges :=
  .ofLines ["27 2e 3a b7 387 55f 5f4 2018-2019 2024 2027 fe13 fe52 fe55 ff07 ff0e ff1a"]

/-- Characters that casing looks past when it asks whether a word goes on. -/
def caseIgnorable : Ranges :=
  .ofAll [nonspacingMark, enclosingMark, format, modifierLetter, modifierSymbol, wordMiddle]

/-- Characters without a form of their own, shown as nothing where they are not supported. -/
def defaultIgnorable : Ranges :=
  .ofAll [otherDefaultIgnorable, format, variationSelector] \
    .ofAll [whiteSpace, prependedConcatenationMark, .ofLines ["fff9-fffb 13430-13440"]]

/-- Characters that join the grapheme before them. -/
def graphemeExtend : Ranges := .ofAll [nonspacingMark, enclosingMark, otherGraphemeExtend]

def graphemeBase : Ranges := graphic \ graphemeExtend

/-! ### Identifiers -/

def idStart : Ranges :=
  .ofAll [letter, letterNumber, otherIdStart] \ (patternSyntax ∪ patternWhiteSpace)

def idContinue : Ranges :=
  .ofAll [idStart, mark, decimalNumber, connectorPunctuation, otherIdContinue] \
    .ofAll [enclosingMark, patternSyntax, patternWhiteSpace]

/-- Identifier characters that are none in their compatibility form. -/
def incompatible : Ranges :=
  .ofLines ["37a 309b-309c fc5e-fc63 fdfa-fdfb fe70 fe72 fe74 fe76 fe78 fe7a fe7c fe7e"]

def xidStart : Ranges := idStart \ (incompatible ∪ .ofLines ["e33 eb3 ff9e-ff9f"])

def xidContinue : Ranges := idContinue \ incompatible

/-! ### Changes of case -/

/-- Pairs of a capital and its small form. -/
def smallForms : List (Nat × Nat) :=
  (CaseTable.lowercase.toList.flatMap CaseRun.pairs).filter (assigned.holds ·.1)

def changesWhenLowercased : Ranges := .ofCodes (0x130 :: smallForms.map (·.1))

/-- Small letters that are the small form of no single capital, and still have a capital form. -/
def capitalizedOnly : Ranges := .ofLines [
  "b5 131 149 17f 1f0 345 390 3b0 3c2 3d0-3d1 3d5-3d6 3f0-3f1 3f5 587 1c80-1c88 1e96-1e9b 1f50",
  "1f52 1f54 1f56 1fb2 1fb4 1fb6-1fb7 1fbe 1fc2 1fc4 1fc6-1fc7 1fd2-1fd3 1fd6-1fd7 1fe2-1fe4",
  "1fe6-1fe7 1ff2 1ff4 1ff6-1ff7 fb00-fb06 fb13-fb17"]

def changesWhenUppercased : Ranges :=
  .ofAll [.ofCodes (smallForms.map (·.2)), capitalizedOnly, titlecaseLetter]

/-- Unlike capitals, digraphs in capitals change, and Georgian letters and letters in titlecase do
not. -/
def changesWhenTitlecased : Ranges :=
  .ofAll [.ofCodes (smallForms.map (·.2)), capitalizedOnly, .ofLines ["1c4 1c7 1ca 1f1"]] \
    .ofLines ["10d0-10fa 10fd-10ff"]

/-- What is compared without regard to case in another form than its own. Cherokee is compared in
capitals. -/
def changesWhenCasefolded : Ranges :=
  (changesWhenLowercased \ .ofLines ["13a0-13f5"]) ∪ .ofLines [
    "b5 df 149 17f 345 3c2 3d0-3d1 3d5-3d6 3f0-3f1 3f5 587 13f8-13fd 1c80-1c88 1e9a-1e9b",
    "1f80-1f87 1f90-1f97 1fa0-1fa7 1fb2-1fb4 1fb7 1fc2-1fc4 1fc7 1ff2-1ff4 1ff7 ab70-abbf",
    "fb00-fb06 fb13-fb17"]

def changesWhenCasemapped : Ranges :=
  .ofAll [changesWhenLowercased, changesWhenUppercased, changesWhenTitlecased]

/-! ### Words -/

/-- The word characters of regular expressions. -/
def word : Ranges :=
  .ofAll [alphabetic, mark, decimalNumber, connectorPunctuation, joinControl]

/-! ## Names -/

/-- The members of a property, by its name in lower case and without separators. -/
def named? (name : String) : Option Ranges :=
  (names.find? (name ∈ ·.1)).map (·.2)
where
  names : List (List String × Ranges) := [
    (["alphabetic", "alpha"], alphabetic),
    (["asciihexdigit", "ahex"], asciiHexDigit),
    (["bidicontrol", "bidic"], bidiControl),
    (["caseignorable", "ci"], caseIgnorable),
    (["cased"], cased),
    (["changeswhencasefolded", "cwcf"], changesWhenCasefolded),
    (["changeswhencasemapped", "cwcm"], changesWhenCasemapped),
    (["changeswhenlowercased", "cwl"], changesWhenLowercased),
    (["changeswhentitlecased", "cwt"], changesWhenTitlecased),
    (["changeswhenuppercased", "cwu"], changesWhenUppercased),
    (["dash"], dash),
    (["defaultignorablecodepoint", "di"], defaultIgnorable),
    (["deprecated", "dep"], deprecated),
    (["diacritic", "dia"], diacritic),
    (["emoji"], emoji),
    (["emojicomponent", "ecomp"], emojiComponent),
    (["emojimodifier", "emod"], emojiModifier),
    (["emojimodifierbase", "ebase"], emojiModifierBase),
    (["emojipresentation", "epres"], emojiPresentation),
    (["extendedpictographic", "extpict"], extendedPictographic),
    (["extender", "ext"], extender),
    (["graphemebase", "grbase"], graphemeBase),
    (["graphemeextend", "grext"], graphemeExtend),
    (["graphemelink", "grlink"], graphemeLink),
    (["hexdigit", "hex"], hexDigit),
    (["hyphen"], hyphen),
    (["idcompatmathcontinue"], idCompatMathContinue),
    (["idcompatmathstart"], idCompatMathStart),
    (["idcontinue", "idc"], idContinue),
    (["idstart", "ids"], idStart),
    (["ideographic", "ideo"], ideographic),
    (["idsbinaryoperator", "idsb"], idsBinaryOperator),
    (["idstrinaryoperator", "idst"], idsTrinaryOperator),
    (["idsunaryoperator", "idsu"], idsUnaryOperator),
    (["joincontrol", "joinc"], joinControl),
    (["logicalorderexception", "loe"], logicalOrderException),
    (["lowercase", "lower"], lowercase),
    (["math"], math),
    (["modifiercombiningmark", "mcm"], modifierCombiningMark),
    (["noncharactercodepoint", "nchar"], noncharacter),
    (["otheralphabetic", "oalpha"], otherAlphabetic),
    (["otherdefaultignorablecodepoint", "odi"], otherDefaultIgnorable),
    (["othergraphemeextend", "ogrext"], otherGraphemeExtend),
    (["otheridcontinue", "oidc"], otherIdContinue),
    (["otheridstart", "oids"], otherIdStart),
    (["otherlowercase", "olower"], otherLowercase),
    (["othermath", "omath"], otherMath),
    (["otheruppercase", "oupper"], otherUppercase),
    (["patternsyntax", "patsyn"], patternSyntax),
    (["patternwhitespace", "patws"], patternWhiteSpace),
    (["prependedconcatenationmark", "pcm"], prependedConcatenationMark),
    (["quotationmark", "qmark"], quotationMark),
    (["radical"], radical),
    (["regionalindicator", "ri"], regionalIndicator),
    (["sentenceterminal", "sterm"], sentenceTerminal),
    (["softdotted", "sd"], softDotted),
    (["terminalpunctuation", "term"], terminalPunctuation),
    (["unifiedideograph", "uideo"], unifiedIdeograph),
    (["uppercase", "upper"], uppercase),
    (["variationselector", "vs"], variationSelector),
    (["whitespace", "wspace", "space"], whiteSpace),
    (["xidcontinue", "xidc"], xidContinue),
    (["xidstart", "xids"], xidStart)]

end Provision.Unicode.Property
