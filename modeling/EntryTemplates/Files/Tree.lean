/-
**A tree of files.**

A tree lists its entries under their locations, which are lists of names from the top.  The top
itself always is a directory.  A path is walked part by part from the working directory or from the
top: every step needs a directory to stand in, `..` leaves it, and a name must not be longer than
255 bytes.  An entry may be closed to some uses: a file that must not be read, a directory whose
names must not be listed, or through which no path may lead.  Links, devices and the owners of
entries are left out, and so is whatever others do to the tree meanwhile.

Main definitions:

* `EntryTemplates.Files.Tree` — entries, what is denied at them, and the working directory;
* `EntryTemplates.Files.Failure` — why an operation on files fails;
* `EntryTemplates.Files.Tree.locate` — the location that a path leads to;
* `EntryTemplates.Files.Tree.isDirectory`, `contains` — questions about a path;
* `EntryTemplates.Files.Tree.read`, `write`, `append`, `makeDirectories`, `list` — operations.
-/

import EntryTemplates.Files.Path
import EntryTemplates.Text.Quoted

set_option relaxedAutoImplicit false
set_option autoImplicit false

namespace EntryTemplates.Files

/-- What stands at a location. -/
inductive Entry where
  | file (bytes : ByteArray)
  | directory

/-- Files are compared by their bytes. -/
def Entry.decEq : (a b : Entry) → Decidable (a = b)
  | .file s, .file t =>
      match ByteArray.instDecidableEq s t with
      | isTrue h => isTrue (by rw [h])
      | isFalse h => isFalse fun hfile => h (Entry.file.inj hfile)
  | .file _, .directory => isFalse (by simp)
  | .directory, .file _ => isFalse (by simp)
  | .directory, .directory => isTrue rfl

instance : DecidableEq Entry := Entry.decEq

/-- A list of names from the top. -/
abbrev Location := List String

/-- A use of an entry.  A directory is read for its names, written to when a name is added, and
searched when a path leads through it. -/
inductive Use where
  | read
  | write
  | search
  deriving DecidableEq, Repr

/-- A tree of files. -/
@[ext]
structure Tree where
  /-- The entries, each under its location. -/
  entries : List (Location × Entry)
  /-- The working directory. -/
  here : Location
  /-- The uses that are denied, each at its location. -/
  denied : List (Location × Use) := []
  /-- Nothing is denied where nothing stands: what is new may be used. -/
  stands : ∀ item ∈ denied, item.1 = [] ∨ (entries.lookup item.1).isSome := by simp

/-- Why an operation on files fails. -/
inductive Cause where
  | noSuchEntry
  | entryExists
  | notADirectory
  | isADirectory
  | nameTooLong
  | denied
  deriving DecidableEq, Repr

/-- The number of a cause. -/
def Cause.number : Cause → Nat
  | .noSuchEntry => 2
  | .denied => 13
  | .entryExists => 17
  | .notADirectory => 20
  | .isADirectory => 21
  | .nameTooLong => 36

/-- A cause in words. -/
def Cause.words : Cause → String
  | .noSuchEntry => "No such file or directory"
  | .entryExists => "File exists"
  | .notADirectory => "Not a directory"
  | .isADirectory => "Is a directory"
  | .nameTooLong => "File name too long"
  | .denied => "Permission denied"

/-- Whether a question about a path passes a cause on.  Of the others it makes the answer that
nothing stands there. -/
def Cause.isPassedOn : Cause → Bool
  | .noSuchEntry => false
  | .notADirectory => false
  | _ => true

/-- A failed operation on files. -/
inductive Failure where
  /-- The system refused the path. -/
  | system (cause : Cause) (path : String)
  /-- The path holds a null character. -/
  | nullCharacter
  deriving DecidableEq, Repr

/-- Where a walk ends. -/
inductive Place where
  /-- At an entry. -/
  | taken (location : Location) (entry : Entry)
  /-- At a name that is free in an existing directory. -/
  | free (location : Location)
  deriving DecidableEq

namespace Tree

/-! ### Entries -/

/-- What stands at a location. -/
def at? (t : Tree) (location : Location) : Option Entry :=
  if location = [] then some .directory else t.entries.lookup location

/-- Whether a use is denied at a location. -/
def Denies (t : Tree) (use : Use) (location : Location) : Prop := (location, use) ∈ t.denied

instance (t : Tree) (use : Use) (location : Location) : Decidable (t.Denies use location) :=
  inferInstanceAs (Decidable (_ ∈ t.denied))

theorem lookup_filter_ne (entries : List (Location × Entry)) {a b : Location} (h : a ≠ b) :
    (entries.filter fun item => item.1 ≠ b).lookup a = entries.lookup a := by
  induction entries with
  | nil => rfl
  | cons item rest ih =>
      obtain ⟨l, e⟩ := item
      by_cases hl : l = b
      · have ha : (a == l) = false := by simpa [hl] using h
        rw [List.filter_cons_of_neg (by simpa using hl), ih, List.lookup_cons, ha]
      · rw [List.filter_cons_of_pos (by simpa using hl), List.lookup_cons, List.lookup_cons, ih]

/-- The tree with an entry put at a location, in place of what was there. -/
def put (t : Tree) (location : Location) (e : Entry) : Tree :=
  { t with
    entries := (location, e) :: t.entries.filter fun item => item.1 ≠ location
    stands := by
      intro item hitem
      refine (t.stands item hitem).imp_right fun hthere => ?_
      by_cases hlocation : item.1 = location
      · simp [hlocation]
      · have hother : (item.1 == location) = false := by simpa using hlocation
        rwa [List.lookup_cons, hother, lookup_filter_ne _ hlocation] }

@[simp] theorem put_here (t : Tree) (location : Location) (e : Entry) :
    (t.put location e).here = t.here := rfl

@[simp] theorem put_denied (t : Tree) (location : Location) (e : Entry) :
    (t.put location e).denied = t.denied := rfl

@[simp] theorem denies_put {t : Tree} {location other : Location} {e : Entry} {use : Use} :
    (t.put location e).Denies use other ↔ t.Denies use other := Iff.rfl

theorem denies_congr {t t' : Tree} (h : t'.denied = t.denied) {use : Use} {location : Location} :
    t'.Denies use location ↔ t.Denies use location := by
  rw [Denies, h, Denies]

/-- Nothing is denied where nothing stands. -/
theorem not_denies_of_at? {t : Tree} {location : Location} (h : t.at? location = none)
    (use : Use) : ¬ t.Denies use location := by
  intro hdenies
  rw [at?] at h
  split at h
  · cases h
  · rename_i hne
    rcases t.stands _ hdenies with htop | hthere
    · exact hne htop
    · simp [h] at hthere

/-- The tree in which a use is denied at a location, if something stands there. -/
def deny (t : Tree) (use : Use) (location : Location) : Tree :=
  if h : location = [] ∨ (t.entries.lookup location).isSome then
    { t with
      denied := (location, use) :: t.denied
      stands := List.forall_mem_cons.2 ⟨h, t.stands⟩ }
  else t

/-- A location holds what was put there. -/
theorem at?_put_self (t : Tree) {location : Location} (h : location ≠ []) (e : Entry) :
    (t.put location e).at? location = some e := by
  simp [at?, put, h]

/-- All other locations keep what they hold. -/
theorem at?_put_of_ne (t : Tree) {a b : Location} (h : a ≠ b) (e : Entry) :
    (t.put b e).at? a = t.at? a := by
  unfold at? put
  split
  · rfl
  · have : (a == b) = false := by simpa using h
    simp only [List.lookup_cons, this]
    exact lookup_filter_ne t.entries h

/-! ### Walking a path -/

/-- The greatest number of bytes in a name. -/
def nameLimit : Nat := 255

/-- The greatest number of bytes in a path. -/
def pathLimit : Nat := 4095

/-- Where the remaining parts of a path lead from an entry. -/
def walk (t : Tree) : Location → Entry → List String → Except Cause Place
  | location, e, [] => .ok (.taken location e)
  | _, .file _, _ :: _ => .error .notADirectory
  | location, .directory, part :: rest =>
      if t.Denies .search location then .error .denied
      else if part = ".." then
        walk t location.dropLast .directory rest
      else if nameLimit < part.utf8ByteSize then .error .nameTooLong
      else
        match t.at? (location ++ [part]) with
        | some e => walk t (location ++ [part]) e rest
        | none =>
            match rest with
            | [] => .ok (.free (location ++ [part]))
            | _ :: _ => .error .noSuchEntry

/-- The location where a path starts. -/
def start (t : Tree) (p : Path) : Location := if p.isAbsolute then [] else t.here

/-- Whether a path holds a null character. -/
def hasNull (p : Path) : Bool := p.parts.any fun part => part.toList.contains '\x00'

/-- **Where a path leads.**  One that does not start at the top leads through the working
directory, even if it has no parts. -/
def locate (t : Tree) (p : Path) : Except Failure Place :=
  if hasNull p then .error .nullCharacter
  else if pathLimit < p.text.utf8ByteSize then .error (.system .nameTooLong p.text)
  else if p.isAbsolute = false ∧ t.Denies .search t.here then .error (.system .denied p.text)
  else
    match t.walk (t.start p) .directory p.parts with
    | .ok place => .ok place
    | .error cause => .error (.system cause p.text)

/-! ### Questions about a path -/

/-- What stands where a path leads, if anything does.  A name that is too long is an error, and so
is a directory that must not be searched; any other obstacle means that nothing stands there. -/
def inspect (t : Tree) (p : Path) : Except Failure (Option Entry) :=
  match t.locate p with
  | .ok (.taken _ e) => .ok (some e)
  | .ok (.free _) => .ok none
  | .error (.system cause text) =>
      if cause.isPassedOn then .error (.system cause text) else .ok none
  | .error .nullCharacter => .ok none

/-- Whether a path leads to a directory. -/
def isDirectory (t : Tree) (p : Path) : Except Failure Bool :=
  (t.inspect p).map fun e => e == some .directory

/-- Whether a path leads to an entry. -/
def contains (t : Tree) (p : Path) : Except Failure Bool := (t.inspect p).map Option.isSome

/-! ### Operations -/

/-- The bytes of the file that a path leads to. -/
def read (t : Tree) (p : Path) : Except Failure ByteArray :=
  match t.locate p with
  | .ok (.taken location (.file bytes)) =>
      if t.Denies .read location then .error (.system .denied p.text) else .ok bytes
  | .ok (.taken location .directory) =>
      if t.Denies .read location then .error (.system .denied p.text)
      else .error (.system .isADirectory p.text)
  | .ok (.free _) => .error (.system .noSuchEntry p.text)
  | .error e => .error e

/-- The tree with an entry where a path leads to a free name. -/
def add (t : Tree) (p : Path) (location : Location) (e : Entry) : Except Failure Tree :=
  if t.Denies .write location.dropLast then .error (.system .denied p.text)
  else .ok (t.put location e)

/-- **The tree after bytes were written to a path**, in place of what the file held. -/
def write (t : Tree) (p : Path) (bytes : ByteArray) : Except Failure Tree :=
  match t.locate p with
  | .ok (.taken location (.file _)) =>
      if t.Denies .write location then .error (.system .denied p.text)
      else .ok (t.put location (.file bytes))
  | .ok (.taken _ .directory) => .error (.system .isADirectory p.text)
  | .ok (.free location) => t.add p location (.file bytes)
  | .error e => .error e

/-- The tree after bytes were added to the end of the file at a location, if there is one. -/
def append (t : Tree) (location : Location) (bytes : ByteArray) : Tree :=
  match t.at? location with
  | some (.file old) => t.put location (.file (old ++ bytes))
  | _ => t

/-- The location of a path, where `..` takes back the part before it whatever stands there. -/
def absolute (t : Tree) (p : Path) : Location :=
  p.parts.foldl (fun location part =>
    if part = ".." then location.dropLast else location ++ [part]) (t.start p)

/-- The tree in which a path leads to a file, which is made empty if nothing stands there. -/
def ensureFile (t : Tree) (p : Path) : Except Failure Tree :=
  match t.locate p with
  | .ok (.taken location (.file _)) =>
      if t.Denies .write location then .error (.system .denied p.text) else .ok t
  | .ok (.taken _ .directory) => .error (.system .isADirectory p.text)
  | .ok (.free location) => t.add p location (.file .empty)
  | .error e => .error e

/-- The tree after a directory was made where none was. -/
def makeDirectory (t : Tree) (p : Path) : Except Failure Tree :=
  match t.locate p with
  | .ok (.taken ..) => .error (.system .entryExists p.text)
  | .ok (.free location) => t.add p location .directory
  | .error e => .error e

/-- The tree after a directory was made; an existing one will do. -/
def ensureDirectory (t : Tree) (p : Path) : Except Failure Tree :=
  match t.makeDirectory p with
  | .ok t' => .ok t'
  | .error (.system .noSuchEntry text) => .error (.system .noSuchEntry text)
  | .error .nullCharacter => .error .nullCharacter
  | .error e =>
      match t.isDirectory p with
      | .ok true => .ok t
      | .ok false => .error e
      | .error e' => .error e'

/-- The tree after a directory was made together with those above it, whose number bounds the
recursion.  The tree is returned in any case: directories made before a failure remain. -/
def makeDirectoriesUpTo (root : String) : Nat → List String → Tree → Tree × Except Failure Unit
  | fuel, parts, t =>
      let p : Path := ⟨root, parts⟩
      match t.ensureDirectory p with
      | .ok t' => (t', .ok ())
      | .error (.system .noSuchEntry text) =>
          match fuel with
          | 0 => (t, .error (.system .noSuchEntry text))
          | fuel + 1 =>
              match makeDirectoriesUpTo root fuel parts.dropLast t with
              | (t', .ok ()) =>
                  match t'.ensureDirectory p with
                  | .ok t'' => (t'', .ok ())
                  | .error e => (t', .error e)
              | (t', .error e) => (t', .error e)
      | .error e => (t, .error e)

/-- **The tree after a directory was made together with those above it**, and whether that
succeeded. -/
def makeDirectories (t : Tree) (p : Path) : Tree × Except Failure Unit :=
  makeDirectoriesUpTo p.root p.parts.length p.parts t

/-- The names in the directory at a location, in no particular order. -/
def namesIn (t : Tree) (location : Location) : List String :=
  t.entries.filterMap fun item =>
    match item.1.getLast? with
    | some name => if item.1.dropLast = location then some name else none
    | none => none

/-- Names in the order of their code points. -/
def sortNames (names : List String) : List String := names.mergeSort fun a b => !(b < a)

/-- The names in the directory that a path leads to, in the order of their code points. -/
def list (t : Tree) (p : Path) : Except Failure (List String) :=
  match t.locate p with
  | .ok (.taken location .directory) =>
      if t.Denies .read location then .error (.system .denied p.text)
      else .ok (sortNames (t.namesIn location))
  | .ok (.taken _ (.file _)) => .error (.system .notADirectory p.text)
  | .ok (.free _) => .error (.system .noSuchEntry p.text)
  | .error e => .error e

/-- What follows a location in a longer one. -/
def below? : Location → Location → Option Location
  | [], rest => some rest
  | _ :: _, [] => none
  | a :: above, b :: rest => if a = b then below? above rest else none

/-- Every entry below the working directory as a path text, directories with a final slash, in the
order of their code points. -/
def listing (t : Tree) : List String :=
  sortNames <| t.entries.filterMap fun (location, e) =>
    match below? t.here location with
    | none => none
    | some [] => none
    | some rest =>
        let text := "/".intercalate rest
        some (match e with
          | .directory => text ++ "/"
          | .file _ => text)

/-- A tree with nothing but an empty working directory. -/
def empty : Tree := { entries := [(["work"], .directory)], here := ["work"] }

end Tree

/-- The report on a failure. -/
def Failure.message : Failure → String
  | .system cause path => s!"[Errno {cause.number}] {cause.words}: " ++ Text.quotedString path
  | .nullCharacter => "embedded null byte"

end EntryTemplates.Files
