import TreeQuery.Proofs.Search.Children
import Mathlib.Data.List.Forall2

namespace TreeQuery

open Relation

/-- The tag is the same, and so are the names of the attributes and, once the blanks around them
are trimmed, their values. -/
structure NodeView.Alike (m m' : NodeView) : Prop where
  tag : m'.tag = m.tag
  attrs (name : String) : (Store.under? m'.attrs name).map Value.trimmed =
    (Store.under? m.attrs name).map Value.trimmed

namespace Store

inductive At (st : Store) : Addr → List Nat → Addr → Prop
  | here (a : Addr) : At st a [] a
  | down {a b : Addr} {i : Nat} {path : List Nat} {m : NodeView}
      (child : (st.childNodes (.ref a))[i]? = some m) (rest : At st m.id path b) :
      At st a (i :: path) b

/-- Nodes of two stores that stand at one place, each below a root of its own. -/
structure Twins (st st' : Store) (root root' : Addr) (m m' : NodeView) : Prop where
  place : ∃ path, st.At root path m.id ∧ st'.At root' path m'.id
  view : st.view? (.ref m.id) = some m
  view' : st'.view? (.ref m'.id) = some m'

/-- The trees below two roots have the same places, and at each place nodes that are alike. -/
structure SameSkeleton (st st' : Store) (root root' : Addr) : Prop where
  places (path : List Nat) : (∃ a, st.At root path a) ↔ ∃ a', st'.At root' path a'
  alike (m m' : NodeView) : st.Twins st' root root' m m' → m.Alike m'

variable {st st' : Store} {root root' a b c : Addr} {path : List Nat} {i : Nat} {m : NodeView}

namespace At

theorem unique (first : st.At a path b) (second : st.At a path c) : b = c := by
  induction first with
  | here a =>
    cases second
    rfl
  | down child rest ih =>
    cases second with
    | down child' rest' =>
      cases child.symm.trans child'
      exact ih rest'

theorem snoc (at_ : st.At root path a) (child : (st.childNodes (.ref a))[i]? = some m) :
    st.At root (path ++ [i]) m.id := by
  induction at_ with
  | here a => exact .down child (.here m.id)
  | down first rest ih => exact .down first (ih child)

theorem of_snoc (at_ : st.At root (path ++ [i]) b) :
    ∃ a m, st.At root path a ∧ (st.childNodes (.ref a))[i]? = some m ∧ m.id = b := by
  induction path generalizing root with
  | nil =>
    cases at_ with
    | down child rest =>
      cases rest
      exact ⟨root, _, .here root, child, rfl⟩
  | cons j path ih =>
    cases at_ with
    | down first rest =>
      obtain ⟨a, m, before, child, same⟩ := ih rest
      exact ⟨a, m, .down first before, child, same⟩

theorem reached (at_ : st.At root path a) : ReflTransGen st.Parent root a := by
  induction at_ with
  | here a => exact .refl
  | @down a b i path m child rest ih =>
    obtain ⟨c, n, edge, _, rfl⟩ := (mem_childNodes m).mp (List.mem_of_getElem? child)
    exact .head edge ih

end At

theorem view?_of_mem_childNodes (member : m ∈ st.childNodes (.ref a)) :
    st.view? (.ref m.id) = some m := by
  obtain ⟨b, n, _, node, rfl⟩ := (mem_childNodes m).mp member
  exact view?_of_node node

theorem Formed.exists_view (formed : st.Formed a) :
    ∃ m, m.id = a ∧ st.view? (.ref a) = some m := by
  obtain ⟨n, node⟩ := formed.exists_node
  exact ⟨st.viewOf a n, rfl, view?_of_node node⟩

namespace SameSkeleton

variable (same : st.SameSkeleton st' root root')
include same

theorem isChildIndex (at_ : st.At root path a) (at' : st'.At root' path b) (i : Nat) :
    i < (st.childNodes (.ref a)).length ↔ i < (st'.childNodes (.ref b)).length := by
  have inside : ∀ {st : Store} {root a : Addr}, st.At root path a →
      (i < (st.childNodes (.ref a)).length ↔ ∃ c, st.At root (path ++ [i]) c) := by
    intro st root a at_
    constructor
    · intro lt
      exact ⟨_, at_.snoc (List.getElem?_eq_getElem lt)⟩
    · rintro ⟨c, further⟩
      obtain ⟨d, m, at', child, _⟩ := further.of_snoc
      cases at_.unique at'
      exact (List.getElem?_eq_some_iff.mp child).1
  rw [inside at_, inside at']
  exact same.places (path ++ [i])

theorem twins_childNodes (at_ : st.At root path a) (at' : st'.At root' path b) :
    List.Forall₂ (st.Twins st' root root') (st.childNodes (.ref a))
      (st'.childNodes (.ref b)) := by
  have count : (st.childNodes (.ref a)).length = (st'.childNodes (.ref b)).length := by
    have index := same.isChildIndex at_ at'
    apply Nat.le_antisymm
    · exact Nat.le_of_not_lt fun lt => Nat.lt_irrefl _ ((index _).mp lt)
    · exact Nat.le_of_not_lt fun lt => Nat.lt_irrefl _ ((index _).mpr lt)
  refine List.forall₂_iff_get.mpr ⟨count, ?_⟩
  intro i inside inside'
  have child := List.getElem?_eq_getElem inside
  have child' := List.getElem?_eq_getElem inside'
  constructor
  · exact ⟨path ++ [i], at_.snoc child, at'.snoc child'⟩
  · exact view?_of_mem_childNodes (List.getElem_mem inside)
  · exact view?_of_mem_childNodes (List.getElem_mem inside')

theorem twins_below {m m' : NodeView} (twins : st.Twins st' root root' m m') :
    List.Forall₂ (st.Twins st' root root') (st.childNodes (.ref m.id))
      (st'.childNodes (.ref m'.id)) := by
  obtain ⟨path, at_, at'⟩ := twins.place
  exact same.twins_childNodes at_ at'

end SameSkeleton

theorem alike_of_forall₂ {m m' : NodeView} (tag : m'.tag = m.tag)
    (attrs : List.Forall₂ (fun e e' => e.1 = e'.1 ∧ e.2.trimmed = e'.2.trimmed) m.attrs m'.attrs) :
    m.Alike m' := by
  refine ⟨tag, ?_⟩
  intro name
  unfold under? findBy
  generalize m.attrs = es, m'.attrs = es' at attrs
  induction attrs with
  | nil => rfl
  | @cons e e' es es' first rest ih =>
    obtain ⟨key, value⟩ := first
    by_cases here : e.1 == Value.text name
    · simp [← key, here, value]
    · simpa [← key, here] using ih

theorem At.follow (pairs : Addr → Addr → Prop)
    (below : ∀ a a', pairs a a' → List.Forall₂ (fun m m' => pairs m.id m'.id)
      (st.childNodes (.ref a)) (st'.childNodes (.ref a')))
    (at_ : st.At a path b) {a' : Addr} (paired : pairs a a') :
    ∃ b', st'.At a' path b' ∧ pairs b b' := by
  induction at_ generalizing a' with
  | here a => exact ⟨a', .here a', paired⟩
  | @down a b i path m child rest ih =>
    obtain ⟨inside, here⟩ := List.getElem?_eq_some_iff.mp child
    obtain ⟨count, each⟩ := List.forall₂_iff_get.mp (below a a' paired)
    have inside' : i < (st'.childNodes (.ref a')).length := count ▸ inside
    have next := each i inside inside'
    simp only [List.get_eq_getElem, here] at next
    obtain ⟨b', at', paired'⟩ := ih next
    exact ⟨b', .down (List.getElem?_eq_getElem inside') at', paired'⟩

/-- Two trees have the same skeleton if their nodes can be paired so that the child nodes of a pair
are pairs, and those of a pair are alike. -/
theorem sameSkeleton_of_pairs (pairs : Addr → Addr → Prop) (roots : pairs root root')
    (alike : ∀ a a' m m', pairs a a' → st.view? (.ref a) = some m → st'.view? (.ref a') = some m' →
      m.Alike m')
    (below : ∀ a a', pairs a a' → List.Forall₂ (fun m m' => pairs m.id m'.id)
      (st.childNodes (.ref a)) (st'.childNodes (.ref a'))) :
    st.SameSkeleton st' root root' := by
  constructor
  · intro path
    constructor
    · rintro ⟨b, at_⟩
      obtain ⟨b', at', _⟩ := at_.follow pairs below roots
      exact ⟨b', at'⟩
    · rintro ⟨b', at'⟩
      obtain ⟨b, at_, _⟩ := at'.follow (fun a' a => pairs a a')
        (fun a' a paired => (below a a' paired).flip) roots
      exact ⟨b, at_⟩
  · rintro m m' ⟨⟨path, at_, at'⟩, view, view'⟩
    obtain ⟨b', at'', paired⟩ := at_.follow pairs below roots
    cases at''.unique at'
    exact alike _ _ m m' paired view view'

end Store

end TreeQuery
