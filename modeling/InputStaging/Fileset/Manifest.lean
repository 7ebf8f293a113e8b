import InputStaging.Log
import InputStaging.Path.Destination

/-!
# Fileset manifests

A fileset is declared link by link and mounted at a directory. Its manifest says, for
each location, which target is to be staged there. Links are read in two passes: the
first records what each link declares, the second follows the links that point to
other entries of the same fileset.

A location has at most one direct declaration (the first one) and at most one link to
another entry (the last one); where it has both, following the link decides, unless
the link leads nowhere.
-/

namespace InputStaging

/-- Locations with their targets, no target meaning an empty placeholder, and the
locations of links that were left out. -/
structure Manifest where
  mount : Path
  entries : Table Path (Option String) := ∅
  dropped : List Path := []

/-- What one link declares for its location. -/
inductive Declaration where
  /-- No target, an absolute one, or one taken from the execution root. -/
  | direct (target : Option String)
  /-- A relative target that stays in the fileset. -/
  | inside (target : String)
  /-- A relative target that leaves the fileset, aimed at `aim`. -/
  | escaping (target : String) (aim : Path)

/-- Read a link that stands at `location`, in a fileset mounted at `mount`. -/
def Link.declaration (l : Link) (mount location : Path) : Declaration :=
  match l.relativeTarget? with
  | none => .direct l.target?
  | some target =>
    let aim := location.parent / Path.ofString target
    if !aim.climbsOut && aim.isWithin mount then .inside target else .escaping target aim

/-- Turns link declarations into manifests. -/
structure Resolver where
  execRoot : Path
  policy : EscapePolicy := .error
  /-- How many links are followed before a chain is given up. -/
  maxHops : Nat := 256
  rooted : execRoot.isAbsolute = true

namespace Resolver

def make (execRoot : Path) (policy : EscapePolicy := .error) (maxHops : Nat := 256) :
    Except Failure Resolver :=
  if h : execRoot.isAbsolute = true then .ok ⟨execRoot, policy, maxHops, h⟩
  else .error (.relativeExecRoot execRoot)

/-- Where a link stands once the fileset is mounted. -/
def locate (mount : Path) (l : Link) : Except Failure Path := do
  let name ← (Spelling.ofPath l.name).relative
  let location := mount / name
  if location.climbsOut || !location.isWithin mount then
    throw (.location name.text (.outsideFileset mount))
  return location.normalize

/-- What has been read of a fileset: its direct entries, and apart from them the links
to other entries. -/
structure Draft where
  entries : Table Path (Option String) := ∅
  links : Table Path String := ∅
  dropped : List Path := []
  log : List Event := []

/-- An escaping link, as the policy has it. -/
def declareEscaping (r : Resolver) (mount location : Path) (target : String) (aim : Path)
    (d : Draft) : Except Failure Draft :=
  match r.policy with
  | .error => .error (.forbiddenLink target location)
  | .ignore =>
    .ok { d with dropped := d.dropped ++ [location],
                 log := d.log ++ [.linkIgnored location target mount] }
  | .resolve =>
    if aim.climbsOut then .error (.forbiddenLink target location)
    else
      let resolved := r.execRoot / aim.normalize
      .ok { d with entries := d.entries.insertNew location (some resolved.text),
                   log := d.log ++ [.linkResolved location resolved] }
  | .other label => .error (.unknownPolicy label)

def declare (r : Resolver) (mount : Path) (d : Draft) (l : Link) : Except Failure Draft := do
  let location ← locate mount l
  match l.declaration mount location with
  | .direct target => return { d with entries := d.entries.insertNew location target }
  | .inside target => return { d with links := d.links.insert location target }
  | .escaping target aim => r.declareEscaping mount location target aim d

/-- Read links up to the first that is refused; the draft read so far is kept. -/
def declareAll (r : Resolver) (mount : Path) : Draft → List Link → Draft × Except Failure Unit
  | d, [] => (d, .ok ())
  | d, l :: rest =>
    match r.declare mount d l with
    | .ok d => r.declareAll mount d rest
    | .error e => (d, .error e)

/-- How following a link ends. -/
inductive Chase where
  | tooLong
  | cycle (seen : List Path)
  | arrived (at_ : Path)

/-- Follow `target` from the link at `current`, at most `hops` times, through the links
of the fileset. A chain that comes back to a location it has been at is a cycle, unless
it has used up its hops by then. -/
def chase (links : Table Path String) : Nat → Path → String → List Path → Chase
  | 0, _, _, _ => .tooLong
  | hops + 1, current, target, seen =>
    let next := (current.parent / Path.ofString target).normalize
    if next ∈ seen then if hops = 0 then .tooLong else .cycle seen
    else
      match links.get? next with
      | none => .arrived next
      | some target => chase links hops next target (seen ++ [next])

/-- Settle one link to another entry: it takes over the entry at the end of its chain,
or is dropped. -/
def settle (r : Resolver) (links : Table Path String) (m : Manifest × List Event)
    (link : Path × String) : Manifest × List Event :=
  let (m, log) := m
  let (location, target) := link
  let drop (e : Event) := ({ m with dropped := m.dropped ++ [location] }, log ++ [e])
  match chase links r.maxHops location target [] with
  | .tooLong => drop (.chainTooLong location r.maxHops r.maxHops)
  | .cycle seen => drop (.linkCycle location seen)
  | .arrived at_ =>
    match m.entries.get? at_ with
    | none => drop (.linkDangling location at_ m.mount)
    | some target => ({ m with entries := m.entries.insert location target }, log)

/-- The manifest of the links mounted at `mount`, with what was told on the way. -/
def manifest (r : Resolver) (links : List Link) (mount : Spelling) :
    Except Failure Manifest × List Event :=
  match mount.relative with
  | .error e => (.error e, [])
  | .ok mount =>
    let mount := mount.normalize
    match r.declareAll mount {} links with
    | (d, .error e) => (.error e, d.log)
    | (d, .ok ()) =>
      let m := d.links.entries.foldl (r.settle d.links)
        ({ mount, entries := d.entries, dropped := d.dropped }, d.log)
      (.ok m.1, m.2)

end Resolver

end InputStaging
