import ServiceLevel.Failure

/-!
# Paths

A path is kept in its normal form: without empty parts and without parts that
stand for the directory itself.  Parts that lead upwards are kept.  Two slashes at
the beginning are another root than one, and any other number counts as one.
-/

namespace ServiceLevel

/-- Where a path begins. -/
inductive PathRoot where
  | here
  | top
  | doubleTop
  deriving DecidableEq, Repr

/-- A path of the file system. -/
structure FilePath where
  root : PathRoot
  parts : List String
  deriving DecidableEq, Repr

namespace FilePath

/-- The parts of a text that its slashes separate. -/
def splitSlashes : List Char → List (List Char)
  | [] => [[]]
  | c :: text =>
    if c = '/' then [] :: splitSlashes text
    else
      match splitSlashes text with
      | [] => [[c]]
      | first :: others => (c :: first) :: others

/-- Whether a part names something. -/
def isProper (part : List Char) : Bool :=
  !(part = [] || part = ['.'])

/-- The root of a text. -/
def rootOf : List Char → PathRoot
  | '/' :: '/' :: '/' :: _ => .top
  | '/' :: '/' :: _ => .doubleTop
  | '/' :: _ => .top
  | _ => .here

/-- The path that a text names. -/
def ofText (text : String) : FilePath where
  root := rootOf text.toList
  parts := ((splitSlashes text.toList).filter isProper).map String.ofList

/-- The text of a root. -/
def PathRoot.text : PathRoot → String
  | .here => ""
  | .top => "/"
  | .doubleTop => "//"

/-- The text of a path; the path without parts is a dot. -/
def text (path : FilePath) : String :=
  if path.root = .here ∧ path.parts = [] then "."
  else PathRoot.text path.root ++ "/".intercalate path.parts

/-- Whether a path begins at the top. -/
def isAbsolute (path : FilePath) : Bool :=
  path.root ≠ .here

/-- A path seen from a directory. -/
def under (directory path : FilePath) : FilePath :=
  if path.isAbsolute then path else ⟨directory.root, directory.parts ++ path.parts⟩

/-- A path below a directory. -/
def below (directory : FilePath) (parts : List String) : FilePath :=
  ⟨directory.root, directory.parts ++ parts⟩

/-- The directory that holds what a path names. -/
def parent (path : FilePath) : FilePath :=
  ⟨path.root, path.parts.dropLast⟩

/-- The name of the user behind a tilde at the beginning of a path; the current user needs
none. -/
def user? (path : FilePath) : Option String :=
  match path.root, path.parts with
  | .here, first :: _ =>
    match first.toList with
    | '~' :: name => some (String.ofList name)
    | _ => none
  | _, _ => none

end FilePath

/-- The home directories of users. -/
structure Homes where
  /-- That of the current user. -/
  own : FilePath
  /-- Those of other users, by name. -/
  others : List (String × FilePath) := []
  deriving Repr

namespace Homes

instance : Coe FilePath Homes := ⟨fun own => { own }⟩

instance : Coe (List String) Homes := ⟨fun parts => { own := ⟨.top, parts⟩ }⟩

/-- The home directory of a user; no name stands for the current one. -/
def find (homes : Homes) (user : String) : Except Failure FilePath :=
  if user.isEmpty then .ok homes.own
  else if user.toList.any fun c => c.toNat = 0 then
    .error (.fault .value "embedded null byte")
  else
    match homes.others.lookup user with
    | some home => .ok home
    | none => .error (.fault .runtime "Could not determine home directory.")

end Homes

namespace FilePath

/-- A path with a home directory in place of a tilde at its beginning. -/
def expandHome (path : FilePath) (homes : Homes) : Except Failure FilePath :=
  match path.user? with
  | none => .ok path
  | some user => (homes.find user).map fun home => home.below (path.parts.drop 1)

end FilePath

end ServiceLevel
