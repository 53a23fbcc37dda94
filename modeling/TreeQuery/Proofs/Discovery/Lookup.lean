import TreeQuery.Proofs.Discovery.Below

namespace TreeQuery

namespace Path

theorem splitAt_of_not_mem {c : Char} {cs : List Char} (absent : c ∉ cs) :
    splitAt c cs = [cs] := by
  induction cs with
  | nil => rfl
  | cons d cs ih =>
    have other : d ≠ c := fun same => absent (same ▸ List.mem_cons_self)
    have rest := ih fun member => absent (List.mem_cons_of_mem _ member)
    simp [splitAt, rest, other]

theorem rootOf_of_not_mem {cs : List Char} (absent : separator ∉ cs) : rootOf cs = .working := by
  cases cs with
  | nil => rfl
  | cons c cs =>
    have other : c ≠ '/' := fun same => absent (same ▸ List.mem_cons_self)
    unfold rootOf
    split <;> simp_all

theorem ofString_name (name : FileName) (some : name.1 ≠ "") (other : name.1 ≠ here) :
    ofString name.1 = ⟨.working, [name]⟩ := by
  have slashless : separator ∉ name.1.toList := name.2
  have read : component? name.1 = .some name := by
    rw [component?, dif_pos name.2, if_neg]
    simp [some, other]
  simp [ofString, splitAt_of_not_mem slashless, rootOf_of_not_mem slashless, read]

theorem toString_ofString_name (name : FileName) (some : name.1 ≠ "") (other : name.1 ≠ here) :
    (ofString name.1).toString = name.1 := by
  rw [ofString_name name some other]
  simp [toString, names, Root.text]

def nameOfSize (n : Nat) : FileName :=
  ⟨String.ofList (List.replicate n 'a'), by
    rw [String.toList_ofList]
    intro member
    exact absurd (List.eq_of_mem_replicate member) (by decide)⟩

theorem nameOfSize_val (n : Nat) : (nameOfSize n).1 = String.ofList (List.replicate n 'a') := rfl

theorem utf8ByteSize_nameOfSize (n : Nat) : (nameOfSize n).1.utf8ByteSize = n := by
  induction n with
  | zero => rfl
  | succ n ih =>
    rw [nameOfSize_val] at ih ⊢
    rw [List.replicate_succ, String.ofList_cons, String.utf8ByteSize_append, ih,
      String.utf8ByteSize_singleton]
    have one : 'a'.utf8Size = 1 := rfl
    omega

theorem not_mem_nameOfSize {c : Char} (other : c ≠ 'a') (n : Nat) :
    c ∉ (nameOfSize n).1.toList := by
  rw [nameOfSize_val, String.toList_ofList]
  intro member
  exact other (List.eq_of_mem_replicate member)

theorem head_nameOfSize (n : Nat) : (nameOfSize n).1.toList.head? ≠ some '-' := by
  intro head
  exact not_mem_nameOfSize (by decide) n (List.mem_of_head? head)

end Path

namespace FileTree

variable {t : FileTree}

theorem isDirectory_working (t : FileTree) : t.isDirectory t.working = true := by
  simp [isDirectory]

theorem ne_of_long {name : FileName} (long : longestName < name.1.utf8ByteSize) :
    name.1 ≠ "" ∧ name.1 ≠ Path.here := by
  constructor
  · intro same
    rw [same] at long
    cases long
  · intro same
    rw [same] at long
    exact absurd long (by decide)

/-- A name that is too long is refused even where there is nothing. -/
theorem stat_of_long {name : FileName} (t : FileTree) (unlocked : t.closed t.working = none)
    (long : longestName < name.1.utf8ByteSize) :
    t.stat (.ofString name.1) = .error .tooLong := by
  obtain ⟨some, other⟩ := ne_of_long long
  have refused : t.follow ⟨.working, [name]⟩ = .error .tooLong := by
    simp [follow, step, Root.place, isDirectory_working, unlocked, long]
  rw [Path.ofString_name name some other, stat, find, refused]
  split <;> rfl

/-- Something is at a place or below it. -/
def Holds (t : FileTree) (place : Place) : Prop := ∃ other ∈ t.places, place <+: other

variable {place : Place} {p q : Path} {run : Path → Int}

theorem next?_eq_some {name : FileName} {other : Place} :
    next? place other = some name ↔ place ++ [name] <+: other := by
  unfold next?
  constructor
  · intro goesOn
    split at goesOn
    · next before =>
      obtain ⟨rest, rfl⟩ := List.isPrefixOf_iff_prefix.mp before
      cases rest with
      | nil => simp at goesOn
      | cons first rest =>
        have same : first = name := by simpa using goesOn
        subst same
        exact ⟨rest, by simp⟩
    · cases goesOn
  · rintro ⟨rest, rfl⟩
    have before : place.isPrefixOf (place ++ [name] ++ rest) = true :=
      List.isPrefixOf_iff_prefix.mpr ⟨[name] ++ rest, by simp⟩
    rw [if_pos before]
    simp

theorem mem_listed {item : DirectoryItem} :
    item ∈ t.listed place ↔ t.Holds (place ++ [item.name]) ∧ item.name.1 ≠ Path.above ∧
      item.isDirectory = t.isDirectory (place ++ [item.name]) := by
  obtain ⟨name, directory⟩ := item
  simp only [listed, List.mem_map, List.mem_filter, List.mem_eraseDups, List.mem_filterMap,
    next?_eq_some, decide_eq_true_eq, DirectoryItem.mk.injEq]
  constructor
  · rintro ⟨_, ⟨held, down⟩, rfl, rfl⟩
    exact ⟨held, down, rfl⟩
  · rintro ⟨held, down, rfl⟩
    exact ⟨name, ⟨held, down⟩, rfl, rfl⟩

theorem isDirectory_of_holds {rest : Place} (strict : rest ≠ [])
    (held : t.Holds (place ++ rest)) : t.isDirectory place = true := by
  obtain ⟨other, member, before⟩ := held
  have shorter : place.length < other.length := by
    have some := List.length_pos_iff.mpr strict
    have longer := before.length_le
    rw [List.length_append] at longer
    omega
  have prefixed : place.isPrefixOf other = true :=
    List.isPrefixOf_iff_prefix.mpr ((List.prefix_append place rest).trans before)
  simp only [isDirectory, Bool.or_eq_true, List.any_eq_true, Bool.and_eq_true,
    decide_eq_true_eq]
  exact .inr ⟨other, member, prefixed, shorter⟩

theorem find_ok_of_below (below : (t.host run).Below p q) : ∃ next, t.find p = .ok next := by
  cases below with
  | inside scanned =>
    obtain ⟨next, reached, _⟩ := scan_ok scanned
    exact ⟨next, reached⟩
  | deeper scanned =>
    obtain ⟨next, reached, _⟩ := scan_ok scanned
    exact ⟨next, reached⟩

theorem scan_of_readable (allowed : ∀ q, t.scan q ≠ .error .denied)
    (readable : ∀ fault, ¬ (t.host run).Unreadable fault p) :
    ∃ place, t.find p = .ok place ∧ t.scan p = .ok (t.listed place) := by
  rcases scanned : t.scan p with fault | items
  · have other : fault ≠ .denied := by
      rintro rfl
      exact allowed p scanned
    exact absurd (.here scanned other) (readable fault)
  · obtain ⟨place, found, rfl⟩ := scan_ok scanned
    exact ⟨place, found, rfl⟩

/-- What is found below a path is in the tree below the place that the path leads to. -/
theorem holds_of_below (found : t.find p = .ok place) (below : (t.host run).Below p q) :
    ∃ rest, rest ≠ [] ∧ q = ⟨p.root, p.parts ++ rest⟩ ∧ t.Holds (place ++ rest) := by
  induction below generalizing place with
  | @inside p items item scanned member =>
    obtain ⟨_, found', rfl⟩ := scan_ok scanned
    cases found.symm.trans found'
    exact ⟨[item.name], by simp, rfl, (mem_listed.mp member).1⟩
  | @deeper p q items item scanned member directory below ih =>
    obtain ⟨_, found', rfl⟩ := scan_ok scanned
    cases found.symm.trans found'
    obtain ⟨_, down, _⟩ := mem_listed.mp member
    obtain ⟨next, reached⟩ := find_ok_of_below below
    cases find_child found reached down
    obtain ⟨rest, _, rfl, held⟩ := ih reached
    exact ⟨item.name :: rest, by simp, by simp [Path.child], by simpa using held⟩

/-- Conversely, whatever the tree holds below a place is found, if every directory on the way can
be read. -/
theorem below_of_holds {rest : Place} (found : t.find p = .ok place)
    (upless : ∀ other ∈ t.places, ∀ name ∈ other, name.1 ≠ Path.above)
    (allowed : ∀ q, t.scan q ≠ .error .denied)
    (readable : ∀ fault, ¬ (t.host run).Unreadable fault p) (strict : rest ≠ [])
    (held : t.Holds (place ++ rest)) : (t.host run).Below p ⟨p.root, p.parts ++ rest⟩ := by
  induction rest generalizing p place with
  | nil => exact absurd rfl strict
  | cons name rest ih =>
    obtain ⟨_, found', scanned⟩ := scan_of_readable allowed readable
    cases found.symm.trans found'
    have down : name.1 ≠ Path.above := by
      obtain ⟨other, member, before⟩ := held
      exact upless other member name (before.subset (by simp))
    have here : t.Holds (place ++ [name]) := by
      obtain ⟨other, member, before⟩ := held
      refine ⟨other, member, List.IsPrefix.trans ⟨rest, by simp⟩ before⟩
    have listed : ⟨name, t.isDirectory (place ++ [name])⟩ ∈ t.listed place :=
      mem_listed.mpr ⟨here, down, rfl⟩
    rcases eq_or_ne rest [] with rfl | more
    · exact .inside scanned listed
    · have held' : t.Holds (place ++ [name] ++ rest) := by simpa using held
      have directory := isDirectory_of_holds more held'
      have readable' : ∀ fault, ¬ (t.host run).Unreadable fault (p.child name) :=
        fun fault unreadable => readable fault (.deeper scanned listed directory unreadable)
      obtain ⟨next, reached, _⟩ := scan_of_readable allowed readable'
      cases find_child found reached down
      have below := ih reached readable' more held'
      simp only [Path.child, List.append_assoc, List.singleton_append] at below
      exact .deeper scanned listed directory below

end FileTree

end TreeQuery
