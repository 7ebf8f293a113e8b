import InputStaging.Failure

/-!
# File trees

A tree of files, directories and symbolic links, and how a path is followed through it.
`..` leads to the directory above the one that was reached, which after a link is not
the one that was named. At most forty links are followed.
-/

namespace InputStaging

inductive FileNode where
  | file (text : String)
  | directory
  | link (target : String)
  deriving DecidableEq

/-- What stands at absolute paths without `..`. Of the root nothing has to be said. -/
structure FileTree where
  nodes : Table Path FileNode := ∅

namespace FileTree

def root : Path := Path.ofString "/"

def node? (t : FileTree) (p : Path) : Option FileNode :=
  if p.segments = [] then some .directory else t.nodes.get? p

/-- The directories that a path lies in, from the root down. -/
def above (p : Path) : List Path :=
  (List.range p.segments.length).map fun i =>
    (p.segments.take i).foldl (fun (d : Path) s => d / Path.ofString s) root

/-- Add what is not there yet: a node, and the directories above it. -/
def add (t : FileTree) (p : Path) (n : FileNode) : FileTree :=
  let dirs := (above p).foldl (fun (ns : Table Path FileNode) d =>
    if d.segments = [] then ns else ns.insertNew d .directory) t.nodes
  { nodes := dirs.insertNew p n }

/-- A name may have 255 bytes. -/
def nameFits (s : String) : Bool := s.utf8ByteSize ≤ 255

/-- What a piece of a path leads to. -/
inductive Turn where
  | place (p : Path)
  | link (at_ : Path) (target : String)

/-- What a piece leads to from a directory. A piece that is empty or `.` stays there. -/
def turn (t : FileTree) (dir : Path) (s : String) : Except FileFault Turn :=
  if t.node? dir ≠ some .directory then .error .notDirectory
  else if s = "" ∨ s = "." then .ok (.place dir)
  else if s = ".." then .ok (.place dir.parent)
  else if !nameFits s then .error .nameTooLong
  else
    match t.node? (dir / Path.ofString s) with
    | none => .error .missing
    | some (.link target) => .ok (.link (dir / Path.ofString s) target)
    | some _ => .ok (.place (dir / Path.ofString s))

/-- Follow the pieces of a path from a directory. The last piece is not followed if it is a
link and `whole` is false. -/
def follow (t : FileTree) (whole : Bool) (links : Nat) (dir : Path) (pending : List String) :
    Except FileFault Path :=
  match pending with
  | [] => .ok dir
  | s :: rest =>
    match t.turn dir s with
    | .error fault => .error fault
    | .ok (.place next) => t.follow whole links next rest
    | .ok (.link at_ target) =>
      if rest = [] ∧ !whole then .ok at_
      else
        match links with
        | 0 => .error .tooManyLinks
        | links + 1 =>
          let start := if (Path.ofString target).isAbsolute then root else dir
          t.follow whole links start ((Path.pieces target.toList).map String.ofList ++ rest)
termination_by (links, pending.length)

/-- Where a path leads from the working directory. -/
def resolve (t : FileTree) (whole : Bool) (cwd p : Path) : Except FileFault Path :=
  match FileFault.ofPath? p with
  | some fault => .error fault
  | none =>
    if p.text.utf8ByteSize ≥ 4096 then .error .nameTooLong
    else t.follow whole 40 (if p.isAbsolute then root else cwd) p.segments

/-- The type of what stands behind a path. Links are followed; a link that leads nowhere
is reported as what it is. -/
def typeOf (t : FileTree) (p : Path) : Except FileFault FileType :=
  match t.resolve true root p with
  | .ok q => .ok (if t.node? q = some .directory then .directory else .file)
  | .error .missing => .ok (if (t.resolve false root p).isOk then .symlink else .absent)
  | .error e => .error e

/-- File types beneath an execution root. -/
def metadata (t : FileTree) (execRoot : Path) (v : Input) : Except Failure FileType :=
  match v.execPath? with
  | none => .ok .absent
  | some p => (t.typeOf (execRoot / p)).mapError .file

/-- The text of the file that stands at a path. -/
def textAt (t : FileTree) (p : Path) : Except FileFault String :=
  match t.node? p with
  | some (.file text) => .ok text
  | _ => .error .isDirectory

/-- The text of the file that a path leads to. -/
def read (t : FileTree) (cwd p : Path) : Except FileFault String := do
  t.textAt (← t.resolve true cwd p)

end FileTree

end InputStaging
