import TreeQuery.Discovery.Host

namespace TreeQuery

abbrev Place := List FileName

def Place.move (place : Place) (name : FileName) : Place :=
  if name.1 = Path.above then place.dropLast else place ++ [name]

def Root.place (working : Place) : Root → Place
  | .working => working
  | .top | .doubled => []

/-- Files and directories at their places; what is on the way to one is a directory. `closed` are
the directories in which nothing may be looked for, and `hidden` those that may not be read. -/
structure FileTree where
  items : List (Place × FileKind)
  working : Place
  closed : Place → Option HostFault := fun _ => none
  hidden : Place → Option HostFault := fun _ => none

namespace FileTree

def longestName : Nat := 255

def longestPath : Nat := 4095

def places (t : FileTree) : List Place := t.working :: t.items.map (·.1)

def isFile (t : FileTree) (place : Place) : Bool := t.items.contains (place, .file)

def isDirectory (t : FileTree) (place : Place) : Bool :=
  place.isPrefixOf t.working || t.items.contains (place, .directory) ||
    t.places.any fun other => place.isPrefixOf other && place.length < other.length

def kind? (t : FileTree) (place : Place) : Option FileKind :=
  if t.isFile place then some .file
  else if t.isDirectory place then some .directory
  else if t.items.contains (place, .other) then some .other
  else none

def step (t : FileTree) (place : Place) (name : FileName) : Except HostFault Place :=
  if !t.isDirectory place then .error (if (t.kind? place).isSome then .notDirectory else .absent)
  else match t.closed place with
    | some fault => .error fault
    | none => if longestName < name.1.utf8ByteSize then .error .tooLong else .ok (place.move name)

def follow (t : FileTree) (p : Path) : Except HostFault Place :=
  p.parts.foldlM t.step (p.root.place t.working)

def find (t : FileTree) (p : Path) : Except HostFault Place :=
  if longestPath < p.toString.utf8ByteSize then .error .tooLong else t.follow p

def stat (t : FileTree) (p : Path) : Except HostFault FileKind := do
  match t.kind? (← t.find p) with
  | some kind => return kind
  | none => throw .absent

def next? (place other : Place) : Option FileName :=
  if place.isPrefixOf other then other[place.length]? else none

def listed (t : FileTree) (place : Place) : List DirectoryItem :=
  ((t.places.filterMap (next? place)).eraseDups.filter (·.1 ≠ Path.above)).map fun name =>
    ⟨name, t.isDirectory (place ++ [name])⟩

def scan (t : FileTree) (p : Path) : Except HostFault (List DirectoryItem) := do
  let place ← t.find p
  if !t.isDirectory place then throw .notDirectory
  match t.hidden place with
  | some fault => throw fault
  | none => return t.listed place

def depth (t : FileTree) : Nat := t.places.flatten.length

def height (t : FileTree) (p : Path) : Nat :=
  match t.find p with
  | .ok place => t.depth - place.length
  | .error _ => 0

variable {t : FileTree}

theorem length_le_depth {place : Place} (there : t.isDirectory place) :
    place.length ≤ t.depth := by
  have bound : ∀ other ∈ t.places, other.length ≤ t.depth := by
    intro other member
    exact (List.sublist_flatten_of_mem member).length_le
  simp only [isDirectory, Bool.or_eq_true, List.any_eq_true, Bool.and_eq_true,
    decide_eq_true_eq, List.contains_iff_mem, List.isPrefixOf_iff_prefix] at there
  rcases there with (onTheWay | listed) | ⟨other, member, _, shorter⟩
  · exact Nat.le_trans onTheWay.length_le (bound _ List.mem_cons_self)
  · exact bound _ (List.mem_cons_of_mem _ (List.mem_map_of_mem listed))
  · exact Nat.le_trans (Nat.le_of_lt shorter) (bound _ member)

theorem step_ok {place next : Place} {name : FileName} (moved : t.step place name = .ok next) :
    next = place.move name := by
  unfold step at moved
  split at moved
  · cases moved
  · split at moved
    · cases moved
    · split at moved
      · cases moved
      · exact (Except.ok.inj moved).symm

theorem find_ok {p : Path} {place : Place} (found : t.find p = .ok place) :
    t.follow p = .ok place := by
  unfold find at found
  split at found
  · cases found
  · exact found

theorem follow_child {p : Path} {name : FileName} {next : Place}
    (found : t.follow (p.child name) = .ok next) :
    ∃ place, t.follow p = .ok place ∧ next = place.move name := by
  unfold follow at found ⊢
  rw [Path.child, List.foldlM_append] at found
  rcases reached : p.parts.foldlM t.step (p.root.place t.working) with fault | place
  · rw [reached] at found
    cases found
  · rw [reached] at found
    simp only [List.foldlM_cons, List.foldlM_nil, bind_pure] at found
    exact ⟨place, rfl, step_ok found⟩

theorem find_child {p : Path} {name : FileName} {place next : Place}
    (found : t.find p = .ok place) (found' : t.find (p.child name) = .ok next)
    (down : name.1 ≠ Path.above) : next = place ++ [name] := by
  obtain ⟨before, reached, rfl⟩ := follow_child (find_ok found')
  have same : before = place := Except.ok.inj (reached.symm.trans (find_ok found))
  rw [same, Place.move, if_neg down]

theorem scan_ok {p : Path} {items : List DirectoryItem} (scanned : t.scan p = .ok items) :
    ∃ place, t.find p = .ok place ∧ items = t.listed place := by
  unfold scan at scanned
  rcases found : t.find p with fault | place
  · rw [found] at scanned
    cases scanned
  · refine ⟨place, rfl, ?_⟩
    rw [found] at scanned
    simp only [bind, Except.bind] at scanned
    split at scanned
    · cases scanned
    · split at scanned
      · cases scanned
      · exact (Except.ok.inj scanned).symm

theorem height_child_lt {p : Path} {items : List DirectoryItem} {item : DirectoryItem}
    (scanned : t.scan p = .ok items) (member : item ∈ items) (below : item.isDirectory) :
    t.height (p.child item.name) < t.height p := by
  obtain ⟨place, found, rfl⟩ := scan_ok scanned
  obtain ⟨name, listed, rfl⟩ := List.mem_map.mp member
  have down : name.1 ≠ Path.above := by simpa using (List.mem_filter.mp listed).2
  have deep := length_le_depth below
  rw [List.length_append, List.length_singleton] at deep
  have here : t.height p = t.depth - place.length := by simp only [height, found]
  rw [here]
  unfold height
  split
  · next found' =>
    rw [find_child found found' down, List.length_append, List.length_singleton]
    omega
  · omega

/-- What a system that holds the tree answers, with the codes that runs end with. -/
def host (t : FileTree) (run : Path → Int) : Host where
  stat := t.stat
  scan := t.scan
  run := run
  height := t.height
  lower := height_child_lt

end FileTree

structure FileEntry where
  path : String
  code? : Option Int
  deriving DecidableEq, Repr

abbrev Listing := List FileEntry

namespace FileEntry

def ofLine? (line : String) : Option FileEntry :=
  match Path.splitAt ' ' line.toList with
  | code :: rest =>
    let path := " ".intercalate (rest.map String.ofList)
    if code = ['-'] then some ⟨path, none⟩
    else (String.ofList code).toInt?.map fun n => ⟨path, some n⟩
  | [] => none

def way (place : Place) : List FileName → List Place
  | [] => [place]
  | name :: names => place :: way (place.move name) names

def ways (working : Place) (e : FileEntry) : List Place :=
  let p := Path.ofString e.path
  way (p.root.place working) p.parts

def place (working : Place) (e : FileEntry) : Place := (e.ways working).getLastD []

def items (working : Place) (e : FileEntry) : List (Place × FileKind) :=
  (e.ways working).dropLast.map (·, .directory) ++
    [(e.place working, if e.code?.isSome then .file else .directory)]

end FileEntry

namespace Listing

def ofText (text : String) : Listing :=
  (Path.splitAt '\n' text.toList).filterMap fun line => FileEntry.ofLine? (String.ofList line)

def working : Place := [⟨"work", by decide⟩]

def tree (l : Listing) : FileTree := { items := l.flatMap (FileEntry.items working), working }

def code (l : Listing) (other : Int) (p : Path) : Int :=
  match l.tree.find p with
  | .ok place =>
    ((l.reverse.find? fun e => e.code?.isSome && e.place working == place).bind (·.code?)).getD
      other
  | .error _ => other

-- `other` is the code of a run for which none is given, such as that of a directory.
def host (l : Listing) (other : Int) : Host := l.tree.host (l.code other)

instance : Coe Listing Host := ⟨fun l => l.host 0⟩

end Listing

end TreeQuery
