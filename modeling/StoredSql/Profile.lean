import StoredSql.Registry
import StoredSql.Text.Digit
import StoredSql.Text.Word

/-!
# Profiles

A profile holds the settings for an environment. Profiles are kept in a file, of which the first one
that exists is taken, and variables of the environment go before what it says. A dialect can be had
without a profile: where there is none, or none that is usable, the usual settings hold.
-/

namespace StoredSql

/-- What surrounds the program: variables of the environment, files in the working directory by
their paths, and the file of the installation. A file that cannot be read is `none`. -/
structure Surroundings where
  environment : List (String × String) := []
  files : List (String × Option Outline) := []
  installed : Option (Option Outline) := none

namespace Surroundings

/-- A variable, if it is set and not empty. -/
def text? (s : Surroundings) (key : String) : Option String :=
  Text.nonEmpty (s.environment.lookup key)

/-- A variable that is a number. -/
def number? (s : Surroundings) (key : String) : Option Int := s.text? key >>= Text.readInt?

end Surroundings

/-- A profile. What a file says is taken as it is, except for what is checked. -/
structure Profile where
  name : String
  dialect : Outline := .text "mysql"
  delimiter : String := "$$"
  indent : Nat := 2
  labelStem : Outline := .text "loop"

/-- A value as a text: a text is itself. -/
def Outline.asText : Outline → String
  | .value (.text s) => s
  | o => o.shown

namespace Profile

/-- A path in its plain form: without empty parts and without dots that stand alone. -/
def plainPath (path : String) : String :=
  let parts := (Text.splitAll '/' path).filter fun part => part ≠ "" ∧ part ≠ "."
  (if path.startsWith "/" then "/" else "") ++ Text.joinWith "/" parts

/-- A place where profiles may be kept: what it is called, and the file if it exists. -/
structure Place where
  shown : String
  file : Option (Option Outline)

/-- A place in the working directory that is called by its path. -/
def givenPlace (s : Surroundings) (path : String) : Place :=
  ⟨plainPath path, (s.files.find? fun f => plainPath f.1 == plainPath path).map (·.2)⟩

/-- The usual places: the installation, the working directory, and the system. -/
def usualPlaces (s : Surroundings) : List Place :=
  let path := "config/" ++ Error.profilesFile
  [⟨"<root>/" ++ path, s.installed⟩, ⟨"<cwd>/" ++ path, s.files.lookup path⟩,
    ⟨"/etc/procsql/" ++ Error.profilesFile, none⟩]

/-- The places that are searched, in order: a given path, that of the environment, the usual
places. -/
def places (s : Surroundings) (path : Option String) : List Place :=
  ((Text.nonEmpty path).toList ++ (s.text? "PROCSQL_PROFILES_PATH").toList).map (givenPlace s)
    ++ usualPlaces s

/-- The first file that exists, with what its place is called. -/
def find (s : Surroundings) (path : Option String) : Except Error (String × Option Outline) :=
  let places := places s path
  match places.findSome? fun p => p.file.map fun file => (p.shown, file) with
  | some found => .ok found
  | none => .error (.noProfileFile (places.map (·.shown)))

/-- The entries of a mapping; what is nothing has none. -/
def entries (o : Outline) : Except Error (List (String × Outline)) :=
  if o.isFalsy then .ok []
  else match o with
    | .mapping entries => .ok entries
    | o => .error (.kind (.notUsable o.kindName))

/-- A setting from the environment, else from the file, else the usual one. -/
def setting (fromEnvironment : Option Outline) (entries : List (String × Outline)) (key : String)
    (usual : Outline) : Outline :=
  fromEnvironment.getD ((entries.lookup key).getD usual)

/-- The delimiter of a profile: a text with neither white space nor backslashes, and no semicolon
alone. -/
def readDelimiter (name path : String) : Outline → Except Error String
  | .value (.text s) =>
    if s.isEmpty ∨ s = ";" then .error (.profile (.delimiterMissing name path))
    else if Statement.isDelimiter s then .ok s
    else .error (.profile (.delimiterBlank name path s))
  | _ => .error (.profile (.delimiterMissing name path))

/-- The indent of a profile: a count. -/
def readIndent (name path : String) : Outline → Except Error Nat
  | .value (.int (.ofNat n)) => .ok n
  | _ => .error (.profile (.indent name path))

/-- The stem of labels: a word. -/
def checkStem (name path : String) (o : Outline) : Except Error Outline :=
  if !o.isFalsy ∧ Text.isWord o.asText then .ok o
  else .error (.profile (.labelStem name path))

/-- The profile of a name in a file, and variables of the environment before it. -/
def ofEntries (s : Surroundings) (name path : String) (entries : List (String × Outline)) :
    Except Error Profile := do
  let delimiter ← readDelimiter name path
    (setting ((s.text? "PROCSQL_DELIMITER").map .text) entries "delimiter" (.text "$$"))
  let indent ← readIndent name path
    (setting ((s.number? "PROCSQL_INDENT").map fun n => .value (.int n)) entries "indent"
      (.count 2))
  let stem ← checkStem name path (setting none entries "label_prefix" (.text "loop"))
  pure ⟨name, setting none entries "default_dialect" (.text "mysql"), delimiter, indent, stem⟩

/-- The active profile: the environment tells its name, else the file. -/
def load (s : Surroundings) (path : Option String) : Except Error Profile := do
  let (path, file) ← find s path
  match file with
  | none => throw (.unreadableProfileFile path)
  | some data =>
    let data ← entries data
    let active :=
      setting ((s.text? "PROCSQL_PROFILE").map .text) data "active_profile" (.text "dev")
    let profiles ← entries ((data.lookup "profiles").getD .null)
    let missing := Error.noSuchProfile active.asText path
      ((profiles.map (·.1)).mergeSort fun a b => decide (a ≤ b))
    match active with
    | .value (.text name) =>
      match profiles.lookup name with
      | some p => ofEntries s name path (← entries p)
      | none => throw missing
    | _ => throw missing

/-- The outline of a profile. -/
def outline (p : Profile) : Outline :=
  .plain "Profile" [("name", .text p.name), ("default_dialect", p.dialect),
    ("delimiter", .text p.delimiter), ("indent", .count p.indent), ("label_prefix", p.labelStem)]

/-- The name of the dialect that holds if no other one is given. -/
def usualDialect : String := "mysql"

/-- The name of the active dialect: the given one, else that of the environment, else that of the
profile. -/
def dialectName (s : Surroundings) (given : Option String) (profile : Option Profile) : String :=
  let ofProfile := profile.bind fun p => if p.dialect.isFalsy then none else some p.dialect.asText
  match Text.nonEmpty given, s.text? "PROCSQL_SQL_DIALECT", ofProfile with
  | some name, _, _ => Text.lower name
  | none, some name, _ => Text.lower name
  | none, none, some name => Text.lower name
  | none, none, none => usualDialect

/-- The active dialect, with the settings of the active profile if there is a usable one. -/
def activeDialect (r : Registry) (s : Surroundings) (given path : Option String) :
    Except Error Dialect :=
  match load s path with
  | .ok p => r.get (dialectName s given (some p)) (some p.indent) (some p.delimiter)
  | .error _ => r.get (dialectName s given none) none none

end Profile
end StoredSql
