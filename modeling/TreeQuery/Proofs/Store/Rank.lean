import TreeQuery.Value
import Mathlib.Data.List.Perm.Subperm
import Mathlib.Data.List.Range
import Mathlib.Logic.Relation

namespace TreeQuery

open Relation

/-- From the address it takes less than this many steps to where there is no further step. -/
inductive Ranked (R : Addr → Addr → Prop) : Nat → Addr → Prop
  | step {n : Nat} {a : Addr} (later : ∀ b, R a b → Ranked R n b) : Ranked R (n + 1) a

/-- Different addresses from each of which one address is reached. -/
structure Chain (R : Addr → Addr → Prop) (path : List Addr) (a : Addr) : Prop where
  nodup : path.Nodup
  above : ∀ p ∈ path, TransGen R p a

variable {R : Addr → Addr → Prop} {path : List Addr} {a b : Addr}

def Returnless (R : Addr → Addr → Prop) (a : Addr) : Prop :=
  ∀ b, ReflTransGen R a b → ¬ TransGen R b b

namespace Returnless

theorem below (returnless : Returnless R a) (edge : R a b) : Returnless R b :=
  fun _ path => returnless _ (.head edge path)

theorem of_acc (ends : Acc (flip R) a) : Returnless R a := by
  induction ends with
  | intro a _ ih =>
    intro b path cycle
    have first : ∃ c, R a c ∧ ReflTransGen R c b := by
      rcases path.cases_head with rfl | first
      · exact TransGen.head'_iff.mp cycle
      · exact first
    obtain ⟨c, edge, path'⟩ := first
    exact ih c edge b path' cycle

end Returnless

namespace Chain

theorem nil (a : Addr) : Chain R [] a :=
  ⟨.nil, fun _ member => nomatch member⟩

theorem cons (chain : Chain R path a) (returnless : Returnless R a) (edge : R a b) :
    Chain R (a :: path) b := by
  have fresh : a ∉ path := fun member => returnless a .refl (chain.above a member)
  refine ⟨List.nodup_cons.mpr ⟨fresh, chain.nodup⟩, ?_⟩
  intro p member
  rcases List.mem_cons.mp member with rfl | member
  · exact .single edge
  · exact (chain.above p member).tail edge

/-- None of the addresses is listed twice, so that there are not more than there are at all. -/
theorem length_le {bound : Nat} (chain : Chain R path a) (inside : ∀ a b, R a b → a < bound) :
    path.length ≤ bound := by
  have within : path ⊆ List.range bound := by
    intro p member
    obtain ⟨b, edge, _⟩ := TransGen.head'_iff.mp (chain.above p member)
    exact List.mem_range.mpr (inside p b edge)
  calc path.length
    _ ≤ (List.range bound).length := (List.subperm_of_subset chain.nodup within).length_le
    _ = bound := List.length_range

/-- Each step takes one more of the different addresses. -/
theorem ranked {bound n : Nat} (chain : Chain R path a) (inside : ∀ a b, R a b → a < bound)
    (returnless : Returnless R a) (enough : bound < path.length + n) : Ranked R n a := by
  induction n generalizing path a with
  | zero =>
    have short := chain.length_le inside
    omega
  | succ n ih =>
    constructor
    intro b edge
    refine ih (chain.cons returnless edge) (returnless.below edge) ?_
    rw [List.length_cons]
    omega

end Chain

theorem Returnless.ranked {bound n : Nat} (returnless : Returnless R a)
    (inside : ∀ a b, R a b → a < bound) (enough : bound < n) : Ranked R n a :=
  (Chain.nil a).ranked inside returnless (by simpa using enough)

end TreeQuery
