/-!
# Arguments

What the words of a command line say, before anyone asks whether it makes sense.

After its name a command takes options only. Most options take a value, which
follows as the next word or in the same word behind an equals sign. An option
may have a letter beside its name, and then the value can also follow the
letter at once. A word that begins with a dash is never taken for the value of
the option before it, so that a forgotten value is noticed. Such a value has to
stand in the word of its option.

An option that stands for one thing can be given once. Only those that add to a
list may be repeated.

## Main definitions

* `Parameter`: The options that take a value.
* `Switch`: The options that stand for themselves.
* `Vocabulary`: The options of a command.
* `Arguments`: What has been given.
* `Arguments.ofWords?`: Reads the words after the name of a command.
-/

namespace SchoolAtlas

/-- An option that takes a value. -/
inductive Parameter where
  | filters
  | county
  | town
  | level
  | language
  | bacLanguage
  | bacResult
  | source
  | mapType
  | dataDir
  | config
deriving DecidableEq, Repr

namespace Parameter

/-- The name of an option. -/
def name : Parameter → String
  | filters => "filters"
  | county => "county"
  | town => "town"
  | level => "level"
  | language => "language"
  | bacLanguage => "bac-language"
  | bacResult => "bac-result"
  | source => "source"
  | mapType => "map-type"
  | dataDir => "data-dir"
  | config => "config"

/-- The letter of an option, if it has one. -/
def letter? : Parameter → Option Char
  | county => some 'c'
  | town => some 't'
  | source => some 's'
  | mapType => some 'm'
  | dataDir => some 'd'
  | filters | level | language | bacLanguage | bacResult | config => none

/-- Whether an option adds to a list. -/
def isRepeatable : Parameter → Bool
  | level | language | bacLanguage | bacResult => true
  | filters | county | town | source | mapType | dataDir | config => false

/-- Whether an option names a file or directory. -/
def isPath : Parameter → Bool
  | filters | dataDir | config => true
  | county | town | level | language | bacLanguage | bacResult | source | mapType => false

/-- Whether an option may have a value. No file has an empty name. -/
def accepts (p : Parameter) (value : String) : Bool := !p.isPath || value ≠ ""

end Parameter

/-- An option that stands for itself. -/
inductive Switch where
  | strict
  | perCapita
  | schoolAgeOnly
  | examDataset
  | roster
deriving DecidableEq, Repr

/-- The name of an option. -/
def Switch.name : Switch → String
  | strict => "strict"
  | perCapita => "per-capita"
  | schoolAgeOnly => "school-age-only"
  | examDataset => "exam-dataset"
  | roster => "roster"

/-- The options of a command. -/
structure Vocabulary where
  parameters : List Parameter
  switches : List Switch
deriving DecidableEq, Repr

/-- What a word of the command line means. -/
inductive Word where
  | switch (s : Switch)
  /-- An option with its value, or without one if the value has to follow. -/
  | parameter (p : Parameter) (value : Option String)
deriving DecidableEq, Repr

namespace Vocabulary

/-- Reads a name, and a value if there is an equals sign. -/
def longWord? (v : Vocabulary) (text : List Char) : Option Word :=
  let name := String.ofList (text.takeWhile (· ≠ '='))
  let value := match text.dropWhile (· ≠ '=') with
    | _ :: value => some (String.ofList value)
    | [] => none
  match v.parameters.find? (fun p => p.name = name), v.switches.find? (fun s => s.name = name) with
  | some p, _ => some (.parameter p value)
  | none, some s => if value.isNone then some (.switch s) else none
  | none, none => none

/-- Reads a letter, and a value if anything follows. An equals sign in front of the
    value does not belong to it. -/
def shortWord? (v : Vocabulary) (letter : Char) (text : List Char) : Option Word :=
  (v.parameters.find? (fun p => p.letter? = some letter)).map fun p =>
    .parameter p <|
      match text with
      | [] => none
      | '=' :: value => some (String.ofList value)
      | value => some (String.ofList value)

/-- Reads a word that is not a value. -/
def word? (v : Vocabulary) (text : String) : Option Word :=
  match text.toList with
  | '-' :: '-' :: text => v.longWord? text
  | '-' :: letter :: text => v.shortWord? letter text
  | _ => none

end Vocabulary

/-- Whether a word can be the value of the option before it. A dash on its own
    can. -/
def isValue (text : String) : Bool :=
  match text.toList with
  | '-' :: _ :: _ => false
  | _ => true

/-- What has been given, in order. -/
structure Arguments where
  values : List (Parameter × String)
  switches : List Switch
deriving DecidableEq, Repr

namespace Arguments

/-- Nothing has been given. -/
def empty : Arguments := ⟨[], []⟩

/-- Adds an option in front of what follows it. -/
def add (a : Arguments) (p : Parameter) (value : String) : Arguments :=
  { a with values := (p, value) :: a.values }

/-- Adds an option in front of what follows it. -/
def addSwitch (a : Arguments) (s : Switch) : Arguments := { a with switches := s :: a.switches }

/-- Reads words one after the other. Two dashes end the options, and nothing is to
    follow them. -/
def collect? (v : Vocabulary) : List String → Option Arguments
  | [] => some empty
  | "--" :: rest => if rest.isEmpty then some empty else none
  | text :: rest =>
    match v.word? text, rest with
    | some (.switch s), rest => (collect? v rest).map (·.addSwitch s)
    | some (.parameter p (some value)), rest => (collect? v rest).map (·.add p value)
    | some (.parameter p none), value :: rest =>
      if isValue value then (collect? v rest).map (·.add p value) else none
    | some (.parameter _ none), [] => none
    | none, _ => none

/-- The values of an option. -/
def valuesOf (a : Arguments) (p : Parameter) : List String :=
  (a.values.filter (fun given => given.1 = p)).map Prod.snd

/-- The value of an option, if it is given. -/
def value? (a : Arguments) (p : Parameter) : Option String := (a.valuesOf p).head?

/-- Whether an option is given. -/
def has (a : Arguments) (s : Switch) : Bool := a.switches.contains s

/-- Nothing is repeated that may not be, and every value is one that its option may
    have. -/
def IsSound (a : Arguments) : Prop :=
  a.switches.Nodup ∧ ((a.values.map Prod.fst).filter (!·.isRepeatable)).Nodup ∧
    ∀ given ∈ a.values, given.1.accepts given.2

instance (a : Arguments) : Decidable a.IsSound := inferInstanceAs (Decidable (_ ∧ _))

/-- Reads the words after the name of a command. -/
def ofWords? (v : Vocabulary) (words : List String) : Option Arguments :=
  (collect? v words).filter fun a => a.IsSound

end Arguments

end SchoolAtlas
