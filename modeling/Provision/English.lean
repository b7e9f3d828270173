/-! # English nouns

Rules of spelling. They know no exceptions, so a plural that is split need not give back the
noun. -/

namespace Provision.English

/-! ## Letters -/

def isVowel (c : Char) : Bool := "aeiou".toList.contains c.toLower

/-! ## Plural and singular

Words are matched from their last letter, so these functions take and give letters in reverse. -/

/-- Whether a word, in lower case, ends in a hissing sound. -/
def hisses : List Char → Bool
  | 's' :: _ | 'x' :: _ | 'z' :: _ => true
  | 'h' :: 'c' :: _ | 'h' :: 's' :: _ => true
  | _ => false

/-- A `y` behind a consonant becomes `ies`, a hissing ending takes `es`, and all else takes `s`. -/
def pluralReversed (word : List Char) : List Char :=
  match word with
  | 'y' :: c :: stem => if isVowel c then 's' :: word else 's' :: 'e' :: 'i' :: c :: stem
  | _ => if hisses (word.map Char.toLower) then 's' :: 'e' :: word else 's' :: word

/-- The singular, if the word looks like a plural. An ending is taken off only where something
stands before it. -/
def singularReversed? : List Char → Option (List Char)
  | 's' :: 'e' :: 'i' :: c :: stem => some ('y' :: c :: stem)
  | 's' :: 'e' :: 's' :: 's' :: c :: stem => some ('s' :: 's' :: c :: stem)
  | 's' :: 'e' :: 'x' :: c :: stem => some ('x' :: c :: stem)
  | 's' :: 'e' :: 'h' :: 'c' :: c :: stem => some ('h' :: 'c' :: c :: stem)
  | 's' :: 'e' :: 'h' :: 's' :: c :: stem => some ('h' :: 's' :: c :: stem)
  | 's' :: 'e' :: 'z' :: 'z' :: c :: stem => some ('z' :: 'z' :: c :: stem)
  | 's' :: c :: stem => if c = 's' then none else some (c :: stem)
  | _ => none

def plural (word : String) : String :=
  .ofList (pluralReversed word.toList.reverse).reverse

def splitPlural (word : String) : String × Bool :=
  match singularReversed? word.toList.reverse with
  | some singular => (.ofList singular.reverse, true)
  | none => (word, false)

/-! ## Articles -/

def article (word : String) : String :=
  if word.toList.head?.any isVowel then "an" else "a"

def withArticle (word : String) : String :=
  article word ++ " " ++ word

end Provision.English
