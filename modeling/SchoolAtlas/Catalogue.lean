/-!
# The Catalogue of Known Names

The names that the filter menus offer, and the counties of the country.

Levels and languages are spelt exactly as the statistics tables store them, so
a name from a menu is also a value to search for. The catalogue fixes only what
is known beforehand: a selection may name levels or languages that are not
listed here, and a county code that is not listed simply has no display name.

## Main definitions

* `Catalogue.levels`, `Catalogue.languages`: The names of the enrolment menus.
* `Catalogue.bacLanguages`, `Catalogue.bacResults`: The names of the
  baccalaureate menus.
* `Catalogue.counties`: County codes with their display names.
* `Catalogue.countyName?`: The display name of a county code.
-/

namespace SchoolAtlas

namespace Catalogue

/-- The level that goes with the baccalaureate. -/
def highSchool : String := "Liceal"

/-- The level that goes with the national evaluation. -/
def middleSchool : String := "Gimnazial"

/-- The levels ticked at the start. -/
def mainLevels : List String := ["Primar", middleSchool, highSchool]

/-- The levels left unticked at the start. -/
def otherLevels : List String := ["Profesional", "Postliceal", "Preșcolar", "Antepreșcolar"]

/-- Every level, main levels first. -/
def levels : List String := mainLevels ++ otherLevels

/-- The teaching languages that head the menu. -/
def commonLanguages : List String := ["română", "maghiară", "germană"]

/-- The teaching languages of the rest of the menu. -/
def otherLanguages : List String :=
  ["romani (rromani)", "slovacă", "sârbă", "italiană", "engleză", "cehă", "croată",
    "ucraineană", "polonă", "bulgară"]

/-- Every teaching language, common languages first. -/
def languages : List String := commonLanguages ++ otherLanguages

/-- The majority language. Baccalaureate rows never record it: a candidate
    without a mother-tongue language took it. -/
def majorityLanguage : String := "română"

/-- The mother-tongue languages of the baccalaureate. -/
def bacLanguages : List String :=
  [majorityLanguage, "maghiară", "germană", "turcă", "croată", "slovacă", "italiană",
    "ucraineană", "sârbă"]

/-- The outcomes of the baccalaureate. -/
def bacResults : List String := ["Promovat", "Nepromovat", "Eliminat", "Absent"]

/-- The code of the capital, which is divided into sectors and has no towns. -/
def capital : String := "B"

/-- County codes with their display names. -/
def counties : List (String × String) :=
  [("AB", "Alba"), ("AR", "Arad"), ("AG", "Argeș"), ("BC", "Bacău"), ("BH", "Bihor"),
    ("BN", "Bistrița-Năsăud"), ("BR", "Brăila"), ("BT", "Botoșani"), ("BV", "Brașov"),
    ("B", "București"), ("BZ", "Buzău"), ("CS", "Caraș-Severin"), ("CL", "Călărași"),
    ("CJ", "Cluj"), ("CT", "Constanța"), ("CV", "Covasna"), ("DB", "Dâmbovița"),
    ("DJ", "Dolj"), ("GL", "Galați"), ("GR", "Giurgiu"), ("GJ", "Gorj"), ("HR", "Harghita"),
    ("HD", "Hunedoara"), ("IL", "Ialomița"), ("IS", "Iași"), ("IF", "Ilfov"),
    ("MM", "Maramureș"), ("MH", "Mehedinți"), ("MS", "Mureș"), ("NT", "Neamț"), ("OT", "Olt"),
    ("PH", "Prahova"), ("SM", "Satu Mare"), ("SJ", "Sălaj"), ("SB", "Sibiu"),
    ("SV", "Suceava"), ("TR", "Teleorman"), ("TM", "Timiș"), ("TL", "Tulcea"),
    ("VS", "Vaslui"), ("VL", "Vâlcea"), ("VN", "Vrancea")]

/-- The display name of a county code, if the code is known. -/
def countyName? (code : String) : Option String := counties.lookup code

end Catalogue

end SchoolAtlas
