import Provision.Unicode.CategoryTable

/-! # General categories -/

namespace Provision.Unicode

namespace GeneralCategory

/-! ## Unions of categories -/

def casedLetter : Ranges := .ofAll [uppercaseLetter, lowercaseLetter, titlecaseLetter]

def letter : Ranges := .ofAll [casedLetter, modifierLetter, otherLetter]

def mark : Ranges := .ofAll [nonspacingMark, spacingMark, enclosingMark]

def number : Ranges := .ofAll [decimalNumber, letterNumber, otherNumber]

def punctuation : Ranges := .ofAll [
  connectorPunctuation, dashPunctuation, openPunctuation, closePunctuation, initialPunctuation,
  finalPunctuation, otherPunctuation]

def symbol : Ranges := .ofAll [mathSymbol, currencySymbol, modifierSymbol, otherSymbol]

def separator : Ranges := .ofAll [spaceSeparator, lineSeparator, paragraphSeparator]

/-- The characters with a visible form, and the blanks between words. -/
def graphic : Ranges := .ofAll [letter, mark, number, punctuation, symbol, spaceSeparator]

def assigned : Ranges := .ofAll [graphic, separator, control, format, privateUse]

def unassigned : Ranges := assigned.complement

def other : Ranges := .ofAll [control, format, privateUse, unassigned]

/-! ## Names -/

/-- The members of a category, by its name in lower case and without separators. -/
def named? (name : String) : Option Ranges :=
  (names.find? (name ∈ ·.1)).map (·.2)
where
  names : List (List String × Ranges) := [
    (["any"], .all),
    (["ascii"], ⟨#[(0, 127)]⟩),
    (["assigned"], assigned),
    (["l", "letter"], letter),
    (["lc", "casedletter"], casedLetter),
    (["lu", "uppercaseletter"], uppercaseLetter),
    (["ll", "lowercaseletter"], lowercaseLetter),
    (["lt", "titlecaseletter"], titlecaseLetter),
    (["lm", "modifierletter"], modifierLetter),
    (["lo", "otherletter"], otherLetter),
    (["m", "mark", "combiningmark"], mark),
    (["mn", "nonspacingmark"], nonspacingMark),
    (["mc", "spacingmark"], spacingMark),
    (["me", "enclosingmark"], enclosingMark),
    (["n", "number"], number),
    (["nd", "decimalnumber", "digit"], decimalNumber),
    (["nl", "letternumber"], letterNumber),
    (["no", "othernumber"], otherNumber),
    (["p", "punctuation", "punct"], punctuation),
    (["pc", "connectorpunctuation"], connectorPunctuation),
    (["pd", "dashpunctuation"], dashPunctuation),
    (["ps", "openpunctuation"], openPunctuation),
    (["pe", "closepunctuation"], closePunctuation),
    (["pi", "initialpunctuation"], initialPunctuation),
    (["pf", "finalpunctuation"], finalPunctuation),
    (["po", "otherpunctuation"], otherPunctuation),
    (["s", "symbol"], symbol),
    (["sm", "mathsymbol"], mathSymbol),
    (["sc", "currencysymbol"], currencySymbol),
    (["sk", "modifiersymbol"], modifierSymbol),
    (["so", "othersymbol"], otherSymbol),
    (["z", "separator"], separator),
    (["zs", "spaceseparator"], spaceSeparator),
    (["zl", "lineseparator"], lineSeparator),
    (["zp", "paragraphseparator"], paragraphSeparator),
    (["c", "other"], other),
    (["cc", "control", "cntrl"], control),
    (["cf", "format"], format),
    (["cn", "unassigned"], unassigned),
    (["co", "privateuse"], privateUse)]

end GeneralCategory

end Provision.Unicode
