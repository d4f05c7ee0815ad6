import SchoolAtlas.Text.LowerCase

/-!
# Clean Text

How names and languages are tidied up before they are stored.

Two letters of the language are written with a comma below, but older exports
have them with a cedilla. They look alike and compare unequal, so all of them
are brought to the form with a comma. Languages are also written in a long form
that begins with the word for language; it is cut down to the name itself, in
lower case, which is how the menus have it.

## Main definitions

* `Clean.diacritics`: Replaces cedillas by commas.
* `Clean.language`: The short form of a language.
-/

namespace SchoolAtlas

namespace Clean

/-- The letter with a comma below for one with a cedilla. -/
def letter (c : Char) : Char :=
  if c = 'ş' then 'ș'
  else if c = 'Ş' then 'Ș'
  else if c = 'ţ' then 'ț'
  else if c = 'Ţ' then 'Ț'
  else c

/-- A text with commas in place of cedillas. -/
def diacritics (s : String) : String := s.map letter

/-- The text after a given start, if it has that start. -/
def after? : List Char → List Char → Option (List Char)
  | [], text => some text
  | _ :: _, [] => none
  | c :: start, d :: text => if c = d then after? start text else none

/-- The word that the long form of a language begins with. -/
def languageWord : List Char := "Limba ".toList

/-- The short form of a language. One that is not written in the long form only
    has its letters replaced. -/
def language (s : String) : String :=
  let clean := diacritics s
  match after? languageWord clean.toList with
  | some name => Text.lowerCase (String.ofList name)
  | none => clean

end Clean

end SchoolAtlas
