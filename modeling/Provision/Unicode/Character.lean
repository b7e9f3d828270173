import Provision.Unicode.Property

/-! # Questions about characters

The classes of patterns follow Unicode 16. What is asked of the characters of names and of texts
follows Unicode 17, which is given here by what it adds. -/

namespace Provision.Unicode

open GeneralCategory Property

/-! ## Additions of Unicode 17 -/

namespace Added

/-- Every character that is new. Each has a visible form. -/
def characters : Ranges := .ofLines [
  "88f c5c cdc 1acf-1add 1ae0-1aeb 20c1 2b96 a7ce-a7cf a7d2 a7d4 a7f1 fbc3-fbd2 fd90-fd91",
  "fdc8-fdce 10940-10959 10ec5-10ec7 10ed0-10ed8 10efa-10efb 11b60-11b67 11db0-11ddb 11de0-11de9",
  "16ea0-16eb8 16ebb-16ed3 16ff2-16ff6 187f8-187ff 18d09-18d1e 18d80-18df2 1ccfa-1ccfc",
  "1ceba-1ced0 1cee0-1cef0 1e6c0-1e6de 1e6e0-1e6f5 1e6fe-1e6ff 1f6d8 1f777-1f77a 1f8d0-1f8d8",
  "1fa54-1fa57 1fa8a 1fa8e 1fac8 1facd 1faea 1faef 1fbfa 2b73a-2b73f 2cea2-2cead 323b0-33479"]

def alphabetic : Ranges := .ofLines [
  "88f c5c cdc a7ce-a7cf a7d2 a7d4 a7f1 10940-10959 10ec5-10ec7 10efa-10efb 11b60-11b67",
  "11db0-11ddb 16ea0-16eb8 16ebb-16ed3 16ff2-16ff6 187f8-187ff 18d09-18d1e 18d80-18df2",
  "1e6c0-1e6de 1e6e0-1e6f5 1e6fe-1e6ff 2b73a-2b73f 2cea2-2cead 323b0-33479"]

def numeric : Ranges := .ofLines ["11de0-11de9 16ff4-16ff6"]

def cased : Ranges := .ofLines ["a7ce-a7cf a7d2 a7d4 a7f1 16ea0-16eb8 16ebb-16ed3"]

def graphemeExtend : Ranges := .ofLines [
  "1acf-1add 1ae0-1aeb 10efa-10efb 11b60 11b62-11b64 11b66 1e6e3 1e6e6 1e6ee-1e6ef 1e6f5"]

def caseIgnorable : Ranges :=
  graphemeExtend ∪ .ofLines ["a7f1 10ec5 11dd9 16ff2-16ff3 1e6ff"]

end Added

/-! ## Questions -/

def isAlphabetic : Char → Bool := (alphabetic ∪ Added.alphabetic).contains

def isAlphanumeric : Char → Bool :=
  (Ranges.ofAll [alphabetic, number, Added.alphabetic, Added.numeric]).contains

/-- One letter that was cased is so no longer. -/
def isCased : Char → Bool := ((cased \ .single 'ʕ') ∪ Added.cased).contains

def isCaseIgnorable : Char → Bool := (caseIgnorable ∪ Added.caseIgnorable).contains

def isWhitespace : Char → Bool := whiteSpace.contains

/-- Whether a character shows on its own: it has a visible form or is the common blank, and joins
no grapheme before it. The marks of Japanese syllables in half width do show. -/
def isVisible : Char → Bool :=
  ((.ofAll [graphic \ spaceSeparator, .single ' ', Added.characters] \
    .ofAll [graphemeExtend, defaultIgnorable, Added.graphemeExtend]) ∪
      .ofLines ["ff9e-ff9f"] : Ranges).contains

end Provision.Unicode
