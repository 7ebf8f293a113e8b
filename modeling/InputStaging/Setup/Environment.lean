import InputStaging.Setup.FrontEnd

/-!
# Environment

The variables, the home directories and the working directory that a path in the
settings may refer to, and the files that can be read. The working directory may have been
removed, so that the system cannot tell it.
-/

namespace InputStaging

/-- Why a text names no directory. -/
inductive DirectoryFault where
  | homeUnknown
  /-- The system cannot be asked about a variable or a user of this name. -/
  | unspeakable
  /-- The directory is relative to the working directory, which the system cannot tell. -/
  | lost (fault : FileFault)
  deriving DecidableEq

structure Environment where
  vars : Table String String := ∅
  /-- The home directories of the users. -/
  homes : Table String String := ∅
  /-- The home directory of whoever runs the program, should no variable name it. -/
  ownHome : Option String := none
  workingDirectory : Path
  rooted : workingDirectory.isAbsolute = true
  /-- What the system says instead, should it be unable to tell the working directory. -/
  lost : Option FileFault := none
  /-- The text of a file, seen from the working directory. -/
  read : Path → Except FileFault String := fun _ => .error .missing

namespace Environment

def isNameChar (c : Char) : Bool := c.isAlphanum || c = '_'

/-- What a reference is replaced by; a variable that is not set stays as it is
written. -/
def valueOr (e : Environment) (name written : List Char) : List Char :=
  ((e.vars.get? (String.ofList name)).map String.toList).getD written

/-- A reference that starts after a `$`: the name, and how many characters the reference
has. It is a name, or anything in braces. -/
def reference? (cs : List Char) : Option (List Char × Nat) :=
  match cs.takeWhile isNameChar, cs with
  | [], '\x7b' :: inner =>
    let name := inner.takeWhile (· ≠ '\x7d')
    if name.length < inner.length then some (name, name.length + 2) else none
  | [], _ => none
  | name, _ => some (name, name.length)

/-- The names of the variables that a text refers to. -/
def mentioned (cs : List Char) : List String :=
  match cs with
  | [] => []
  | c :: rest =>
    match if c = '$' then reference? rest else none with
    | some (name, n) => String.ofList name :: mentioned (rest.drop n)
    | none => mentioned rest
termination_by cs.length
decreasing_by
  · simp only [List.length_drop, List.length_cons]; omega
  · simp

/-- Put in the values of variables, each written `$name` or `${name}`. What is put in is
not looked at again. -/
def expand (e : Environment) (cs : List Char) : List Char :=
  match cs with
  | [] => []
  | c :: rest =>
    match if c = '$' then reference? rest else none with
    | some (name, n) => e.valueOr name (c :: rest.take n) ++ e.expand (rest.drop n)
    | none => c :: e.expand rest
termination_by cs.length
decreasing_by
  · simp only [List.length_drop, List.length_cons]; omega
  · simp

/-- The home directory that `~`, or `~user`, stands for. -/
def home? (e : Environment) (user : String) : Option String :=
  let found :=
    if user = "" then (e.vars.get? "HOME") <|> e.ownHome else e.homes.get? user
  found.map fun h =>
    match (h.toList.reverse.dropWhile (· = '/')).reverse with
    | [] => "/"
    | kept => String.ofList kept

/-- Replace a leading `~` segment. -/
def expandHome (e : Environment) (p : Path) : Except DirectoryFault Path :=
  match p.root, p.segments.head?.map String.toList with
  | .relative, some ('~' :: user) =>
    if user.contains '\x00' || !Text.isSpeakable user then .error .unspeakable
    else
      match e.home? (String.ofList user) with
      | none => .error .homeUnknown
      | some h =>
        if h.toList.head? = some '~' then .error .homeUnknown
        else .ok (Path.ofString h / p.tail)
  | _, _ => .ok p

/-- The working directory, if the system can tell it. -/
def here (e : Environment) : Except FileFault { p : Path // p.isAbsolute = true } :=
  e.lost.elim (.ok ⟨e.workingDirectory, e.rooted⟩) .error

/-- The path as seen from the working directory, without normalizing it. An absolute path looks
the same from everywhere. -/
def absolute (e : Environment) (p : Path) :
    Except DirectoryFault { p : Path // p.isAbsolute = true } :=
  if h : p.isAbsolute = true then .ok ⟨p, h⟩
  else (e.here.mapError .lost).map fun dir =>
    ⟨dir.1 / p, by
      have hroot := dir.2
      simp only [Bool.not_eq_true] at h
      simpa [Path.isAbsolute, Path.root_div h] using hroot⟩

/-- The directory that a text names: variables are put in first, then the home
directory, and the result is made absolute. -/
def directory (e : Environment) (text : String) :
    Except DirectoryFault { p : Path // p.isAbsolute = true } := do
  unless (mentioned text.toList).all fun n => Text.isSpeakable n.toList do throw .unspeakable
  e.absolute (← e.expandHome (.ofString (String.ofList (e.expand text.toList))))

/-- The document in a file, where a blank one is an empty mapping. -/
def document (e : Environment) (file : Path) (fe : FrontEnd := .own) :
    Except SetupFailure Document := do
  let text ← (e.read file).mapError .file
  return (← (fe.yaml text).mapError (.ofYaml file)).orEmpty

end Environment

end InputStaging
