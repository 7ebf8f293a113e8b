import InputStaging.Input
import InputStaging.Text.Quoted

/-!
# Failures of a mapping

Each failure is its cause, with what is needed to report it. `Failure.message` is the
one place where the wording is.
-/

namespace InputStaging

/-- Why a location is refused. -/
inductive LocationFault where
  | nullByte
  | absolute
  | drivePrefix
  | baseOutsideSandbox
  | outsideSandbox
  | isSandboxRoot
  | outsideFileset (mount : Path)
  deriving DecidableEq

namespace LocationFault

/-- The code under which the refusal is reported. -/
def reason : LocationFault → String
  | nullByte => "NULL_BYTES"
  | absolute => "ABSOLUTE_PATH"
  | drivePrefix => "DRIVE_PREFIX"
  | baseOutsideSandbox => "OUTSIDE_SANDBOX"
  | outsideSandbox => "OUTSIDE_SANDBOX"
  | isSandboxRoot => "EMPTY_PATH"
  | outsideFileset _ => "OUTSIDE_FILESET"

/-- The refusal of a location that is spelt `text`. -/
def message (text : String) : LocationFault → String
  | nullByte => s!"Path contains null bytes: {Text.quoted text}"
  | absolute => s!"Destination must be sandbox-relative: {text}"
  | drivePrefix => s!"Destination must not carry a drive prefix: {text}"
  | baseOutsideSandbox => s!"Base directory leaves the sandbox root: {text}"
  | outsideSandbox => s!"Destination leaves the sandbox root: {text}"
  | isSandboxRoot => s!"Destination names the sandbox root: {text}"
  | outsideFileset mount => s!"Fileset entry {text} leaves its fileset {mount.text}"

end LocationFault

/-- Which expansion of an artifact is missing. -/
inductive Expansion where
  | tree
  | fileset
  deriving DecidableEq

def Expansion.label : Expansion → String
  | tree => "tree"
  | fileset => "fileset"

/-- What the operating system says about a path that it cannot look at. -/
inductive FileFault where
  | missing
  | notDirectory
  | isDirectory
  | tooManyLinks
  | nameTooLong
  | nullByte
  /-- Behind this many characters of the path there are halves of surrogate pairs. -/
  | unspeakable (start : Nat) (halves : List Char)
  | other (code : Nat)
  deriving DecidableEq

namespace FileFault

/-- The system's number for the fault; some paths never get as far as the system. -/
def code? : FileFault → Option Nat
  | missing => some 2
  | notDirectory => some 20
  | isDirectory => some 21
  | nameTooLong => some 36
  | tooManyLinks => some 40
  | nullByte | unspeakable _ _ => none
  | other n => some n

def ofCode : Nat → FileFault
  | 2 => missing
  | 20 => notDirectory
  | 21 => isDirectory
  | 36 => nameTooLong
  | 40 => tooManyLinks
  | n => other n

/-- Which characters cannot be encoded. -/
def unspeakableText (start : Nat) : List Char → String
  | [c] => s!"character '\\u{String.ofList (Text.hexDigits 4 (Text.codePoint c))}' in position {start}"
  | halves => s!"characters in position {start}-{start + halves.length - 1}"

/-- The fault of a path that cannot be handed to the system. -/
def ofPath? (p : Path) : Option FileFault :=
  match Text.unspeakable? p.text.toList with
  | some (start, halves) => some (unspeakable start halves)
  | none => if '\x00' ∈ p.text.toList then some nullByte else none

def message : FileFault → String
  | missing => "No such file or directory"
  | notDirectory => "Not a directory"
  | isDirectory => "Is a directory"
  | nameTooLong => "File name too long"
  | tooManyLinks => "Too many levels of symbolic links"
  | nullByte => "embedded null byte"
  | unspeakable start halves =>
    s!"'utf-8' codec can't encode {unspeakableText start halves}: surrogates not allowed"
  | other n => s!"error {n}"

end FileFault

inductive Failure where
  | location (text : String) (fault : LocationFault)
  | forbiddenInput (path : Path)
  | forbiddenLink (target : String) (location : Path)
  | missingExpansion (execPath : Path) (expansion : Expansion)
  | conflict (path : Path) (previous replacement : Input)
  | filesetAsInput (execPath : Path)
  | notFileset (execPath : Path)
  | unknownKind (label : String)
  /-- An artifact of a kind that is not known is to be described. -/
  | namelessKind
  | unknownPolicy (label : String)
  | relativeExecRoot (path : Path)
  /-- The metadata provider gave up, in its own words. -/
  | metadata (reason : String)
  | file (fault : FileFault)
  /-- The destination is known to have been written, and its entry is gone. -/
  | forgotten (path : Path)
  | negativeLimit
  deriving DecidableEq

namespace Failure

def message : Failure → String
  | location text fault => fault.message text
  | forbiddenInput p => s!"Not a file: {p.text}"
  | forbiddenLink target loc =>
      s!"Fileset symlink {loc.text} -> {target} is not allowed to point outside the fileset"
  | missingExpansion p e => s!"No {e.label} expansion registered for {p.text}"
  | conflict p previous replacement =>
      s!"Conflicting inputs for {p.text}: {previous.text} would be replaced by {replacement.text}"
  | filesetAsInput p =>
      s!"Fileset {p.text} must be passed as a fileset mapping, not as a direct input"
  | notFileset p => s!"{p.text} is not a fileset artifact"
  | unknownKind l => s!"Unknown artifact kind: {Text.quoted l}"
  | namelessKind => "'str' object has no attribute 'value'"
  | unknownPolicy l => s!"Unknown relative symlink policy: {Text.quoted l}"
  | relativeExecRoot p => s!"Execution root must be absolute: {p.text}"
  | metadata reason => reason
  | file fault => fault.message
  | forgotten p => s!"No entry at {p.text}"
  | negativeLimit => "Semaphore initial value must be >= 0"

/-- The build graph handed over something it should never contain; no action owner can
mend this. -/
def isInternal : Failure → Bool
  | missingExpansion _ _ => true
  | _ => false

/-- The action declares inputs that cannot be staged. -/
def isInputFault : Failure → Bool
  | location _ _ | forbiddenInput _ | forbiddenLink _ _ | conflict _ _ _
  | filesetAsInput _ | notFileset _ => true
  | _ => false

end Failure

theorem ok_of_toOption {ε α : Type} {x : Except ε α} {a : α} (h : x.toOption = some a) :
    x = .ok a := by
  cases x with
  | error e => cases h
  | ok b => exact congrArg Except.ok (Option.some.inj h)

end InputStaging
