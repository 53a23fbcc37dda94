import TreeQuery.Discovery.Run
import Mathlib.Data.List.Basic
import Mathlib.Data.List.Forall2

namespace TreeQuery

namespace Except

variable {α β ε : Type} {f : α → Except ε β}

theorem mapM_ends (f : α → Except ε β) (xs : List α) :
    (∃ ys, xs.mapM f = .ok ys ∧ List.Forall₂ (fun x y => f x = .ok y) xs ys) ∨
      ∃ x ∈ xs, ∃ e, f x = .error e ∧ xs.mapM f = .error e := by
  induction xs with
  | nil => exact .inl ⟨[], rfl, .nil⟩
  | cons x xs ih =>
    rw [List.mapM_cons]
    rcases first : f x with e | y
    · exact .inr ⟨x, List.mem_cons_self, e, first, rfl⟩
    · rcases ih with ⟨ys, rest, each⟩ | ⟨x', member, e, refused, rest⟩
      · exact .inl ⟨y :: ys, by rw [rest]; rfl, .cons first each⟩
      · exact .inr ⟨x', List.mem_cons_of_mem _ member, e, refused, by rw [rest]; rfl⟩

theorem ok_of_mem {xs : List α} {ys : List β}
    (each : List.Forall₂ (fun x y => f x = .ok y) xs ys) {x : α} (member : x ∈ xs) :
    ∃ y, f x = .ok y := by
  induction each with
  | nil => cases member
  | cons first _ ih =>
    rcases List.mem_cons.mp member with rfl | later
    · exact ⟨_, first⟩
    · exact ih later

theorem mem_flatten_of_mapM {f : α → Except ε (List β)} {xs : List α} {lists : List (List β)}
    (each : List.Forall₂ (fun x list => f x = .ok list) xs lists) {y : β} :
    y ∈ lists.flatten ↔ ∃ x ∈ xs, ∃ list, f x = .ok list ∧ y ∈ list := by
  induction each with
  | nil => simp
  | @cons x list xs lists first _ ih => simp [ih, first]

end Except

def Path.IsTest (p : Path) : Prop :=
  ∃ name, p.parts.getLast? = some name ∧ ∃ stem, name.1 = stem ++ Host.extension

namespace Host

variable {h : Host} {p q : Path} {items : List DirectoryItem} {fault : HostFault}

def Is (h : Host) (kind : FileKind) (p : Path) : Prop :=
  '\x00' ∉ p.toString.toList ∧ h.stat p = .ok kind

/-- What is strictly below a directory, through directories that can be read. -/
inductive Below (h : Host) : Path → Path → Prop
  | inside {p : Path} {items : List DirectoryItem} {item : DirectoryItem} :
      h.scan p = .ok items → item ∈ items → Below h p (p.child item.name)
  | deeper {p q : Path} {items : List DirectoryItem} {item : DirectoryItem} :
      h.scan p = .ok items → item ∈ items → item.isDirectory →
      Below h (p.child item.name) q → Below h p q

/-- A directory, or one below it, cannot be read, and not because that is denied. -/
inductive Unreadable (h : Host) (fault : HostFault) : Path → Prop
  | here {p : Path} : h.scan p = .error fault → fault ≠ .denied → Unreadable h fault p
  | deeper {p : Path} {items : List DirectoryItem} {item : DirectoryItem} :
      h.scan p = .ok items → item ∈ items → item.isDirectory →
      Unreadable h fault (p.child item.name) → Unreadable h fault p

theorem isTestName_iff {name : String} :
    isTestName name = true ↔ ∃ stem, name = stem ++ extension := by
  rw [isTestName, List.isSuffixOf_iff_suffix]
  constructor
  · rintro ⟨stem, same⟩
    refine ⟨String.ofList stem, String.toList_injective ?_⟩
    rw [String.toList_append, String.toList_ofList, same]
  · rintro ⟨stem, rfl⟩
    rw [String.toList_append]
    exact List.suffix_append _ _

theorem isTest_child {name : FileName} :
    (p.child name).IsTest ↔ isTestName name = true := by
  rw [isTestName_iff]
  simp [Path.IsTest, Path.child]

theorem mem_testsAmong :
    q ∈ testsAmong items p ↔ ∃ item ∈ items, q = p.child item.name ∧ q.IsTest := by
  unfold testsAmong
  constructor
  · intro member
    obtain ⟨item, kept, rfl⟩ := List.mem_map.mp member
    obtain ⟨among, test⟩ := List.mem_filter.mp kept
    exact ⟨item, among, rfl, isTest_child.mpr test⟩
  · rintro ⟨item, among, rfl, test⟩
    exact List.mem_map_of_mem (List.mem_filter.mpr ⟨among, isTest_child.mp test⟩)

/-- What is below a directory is in it, or below a directory in it. -/
theorem below_iff (scanned : h.scan p = .ok items) :
    h.Below p q ↔ ∃ item ∈ items,
      q = p.child item.name ∨ item.isDirectory = true ∧ h.Below (p.child item.name) q := by
  constructor
  · intro below
    cases below with
    | inside scanned' member =>
      cases scanned.symm.trans scanned'
      exact ⟨_, member, .inl rfl⟩
    | deeper scanned' member directory below =>
      cases scanned.symm.trans scanned'
      exact ⟨_, member, .inr ⟨directory, below⟩⟩
  · rintro ⟨item, member, rfl | ⟨directory, below⟩⟩
    · exact .inside scanned member
    · exact .deeper scanned member directory below

theorem not_below_of_error (refused : h.scan p = .error fault) : ¬ h.Below p q := by
  intro below
  cases below with
  | inside scanned => cases refused.symm.trans scanned
  | deeper scanned => cases refused.symm.trans scanned

theorem unreadable_iff (scanned : h.scan p = .ok items) :
    h.Unreadable fault p ↔
      ∃ item ∈ items, item.isDirectory = true ∧ h.Unreadable fault (p.child item.name) := by
  constructor
  · intro unreadable
    cases unreadable with
    | here refused => cases scanned.symm.trans refused
    | deeper scanned' member directory below =>
      cases scanned.symm.trans scanned'
      exact ⟨_, member, directory, below⟩
  · rintro ⟨item, member, directory, below⟩
    exact .deeper scanned member directory below

structure Walked (h : Host) (p : Path) (found : List Path) : Prop where
  found : ∀ q, q ∈ found ↔ h.Below p q ∧ q.IsTest
  readable : ∀ fault, ¬ h.Unreadable fault p

theorem walked_of_denied (refused : h.scan p = .error .denied) : h.Walked p [] where
  found q := by simp [not_below_of_error refused]
  readable fault unreadable := by
    cases unreadable with
    | here refused' other =>
      cases refused.symm.trans refused'
      exact other rfl
    | deeper scanned => cases refused.symm.trans scanned

def walkItem (h : Host) (p : Path) (item : DirectoryItem) : Except HostFault (List Path) :=
  if item.isDirectory then h.walk (p.child item.name) else .ok []

theorem directory_of_walkItem {item : DirectoryItem}
    (refused : h.walkItem p item = .error fault) :
    item.isDirectory = true ∧ h.walk (p.child item.name) = .error fault := by
  unfold walkItem at refused
  split at refused
  · next directory => exact ⟨directory, refused⟩
  · cases refused

theorem walked_of_items {lists : List (List Path)} (scanned : h.scan p = .ok items)
    (each : List.Forall₂ (fun item list => h.walkItem p item = .ok list) items lists)
    (below : ∀ item ∈ items, item.isDirectory = true → ∀ list,
      h.walk (p.child item.name) = .ok list → h.Walked (p.child item.name) list) :
    h.Walked p (testsAmong items p ++ lists.flatten) where
  found q := by
    rw [List.mem_append, mem_testsAmong, Except.mem_flatten_of_mapM each, below_iff scanned]
    constructor
    · rintro (⟨item, member, same, test⟩ | ⟨item, member, list, walked, among⟩)
      · exact ⟨⟨item, member, .inl same⟩, test⟩
      · unfold walkItem at walked
        split at walked
        · next directory =>
          obtain ⟨under, test⟩ := ((below item member directory list walked).found q).mp among
          exact ⟨⟨item, member, .inr ⟨directory, under⟩⟩, test⟩
        · cases walked
          cases among
    · rintro ⟨⟨item, member, same | ⟨directory, under⟩⟩, test⟩
      · exact .inl ⟨item, member, same, test⟩
      · obtain ⟨list, walked⟩ := Except.ok_of_mem each member
        have deeper : h.walk (p.child item.name) = .ok list := by
          rwa [walkItem, if_pos directory] at walked
        -- The path is further below, in a directory whose own walk has found it.
        have among := ((below item member directory list deeper).found q).mpr ⟨under, test⟩
        exact .inr ⟨item, member, list, walked, among⟩
  readable fault unreadable := by
    obtain ⟨item, member, directory, under⟩ := (unreadable_iff scanned).mp unreadable
    obtain ⟨list, walked⟩ := Except.ok_of_mem each member
    rw [walkItem, if_pos directory] at walked
    exact (below item member directory list walked).readable fault under

theorem walk_of_items (scanned : h.scan p = .ok items) :
    h.walk p = do
      let deeper ← items.mapM (h.walkItem p)
      return testsAmong items p ++ deeper.flatten := by
  have plain : items.attach.mapM (fun item => if item.1.isDirectory then
      h.walk (p.child item.1.name) else .ok []) = items.mapM (h.walkItem p) := by
    rw [List.mapM_subtype (g := h.walkItem p) fun item member => rfl, List.unattach_attach]
  rw [← plain, walk]
  split
  · next refused => cases scanned.symm.trans refused
  · next scanned' =>
    cases scanned.symm.trans scanned'
    simp only [dite_eq_ite]

theorem walk_of_error (refused : h.scan p = .error fault) :
    h.walk p = if fault = .denied then .ok [] else .error fault := by
  rw [walk]
  split
  · next refused' =>
    cases refused.symm.trans refused'
    rfl
  · next scanned => cases refused.symm.trans scanned

/-- A walk finds just the test files below, unless it is refused. -/
theorem walk_ends (h : Host) (p : Path) :
    (∃ found, h.walk p = .ok found ∧ h.Walked p found) ∨
      ∃ fault, h.walk p = .error fault ∧ h.Unreadable fault p := by
  induction height : h.height p using Nat.strongRecOn generalizing p with
  | ind n ih =>
    subst height
    rcases scanned : h.scan p with fault | items
    · rw [walk_of_error scanned]
      by_cases denied : fault = .denied
      · subst denied
        exact .inl ⟨[], rfl, walked_of_denied scanned⟩
      · exact .inr ⟨fault, if_neg denied, .here scanned denied⟩
    · rw [walk_of_items scanned]
      rcases Except.mapM_ends (h.walkItem p) items with
        ⟨lists, done, each⟩ | ⟨item, member, fault, refused, stopped⟩
      · refine .inl ⟨_, by rw [done]; rfl, walked_of_items scanned each ?_⟩
        intro item member directory list walked
        rcases ih _ (h.lower scanned member directory) _ rfl with ⟨_, done, good⟩ | ⟨_, refused, _⟩
        · cases walked.symm.trans done
          exact good
        · cases walked.symm.trans refused
      · refine .inr ⟨fault, by rw [stopped]; rfl, ?_⟩
        obtain ⟨directory, refused⟩ := directory_of_walkItem refused
        rcases ih _ (h.lower scanned member directory) _ rfl with
          ⟨_, done, _⟩ | ⟨_, refused', unreadable⟩
        · cases refused.symm.trans done
        · cases refused.symm.trans refused'
          exact .deeper scanned member directory unreadable

end Host

end TreeQuery
