import TreeQuery.Proofs.Combine
import TreeQuery.Proofs.Query.Paths
import TreeQuery.Proofs.Search.Skeleton

/-! Queries in trees with the same skeleton: they find nodes at the same places, or both nothing.
Their steps ask for one thing, or for the first of several that there is. -/

namespace TreeQuery

open Eval

/-- What one step of a query asks for: one thing, or of several candidates the first for which
there is a child. -/
inductive Wish
  | one (k : Ask)
  | first (selector : String) (candidates : List String)
  deriving DecidableEq, Repr

namespace Wish

inductive Is (st : Store) : Wish → Step → Prop
  | one (k : Ask) : Is st (.one k) k.step
  | first {selector : String} {candidates : List String} {form listed : Value}
      (pair : st.tupleItems? form = some [.function .firstPresent, listed])
      (texts : st.sequence? listed = some (candidates.map .text)) :
      Is st (.first selector candidates) (.branch (.text selector) form)

end Wish

namespace Store

/-- Both values are nothing, or nodes at one place. -/
inductive Found (st st' : Store) (root root' : Addr) : Value → Value → Prop
  | nothing : Found st st' root root' .null .null
  | node {m m' : NodeView} (twins : st.Twins st' root root' m m') :
      Found st st' root root' (.ref m.id) (.ref m'.id)

variable {st st' : Store} {root root' : Addr} {v v' : Value}

theorem Found.of_rel {r r' : Option NodeView}
    (related : Option.Rel (st.Twins st' root root') r r') :
    st.Found st' root root' (foundValue r) (foundValue r') := by
  cases related with
  | none => exact .nothing
  | some twins => exact .node twins

theorem found_firstPresent {vs vs' : List Value}
    (related : List.Forall₂ (st.Found st' root root') vs vs') :
    st.Found st' root root' (Combine.firstPresent vs) (Combine.firstPresent vs') := by
  induction related with
  | nil => exact .nothing
  | cons first _ ih =>
    cases first with
    | nothing => exact ih
    | node twins => exact .node twins

section Selecting

variable (same : st.SameSkeleton st' root root') (formed : st.Formed root)
  (formed' : st'.Formed root')
include same formed formed'

theorem SameSkeleton.selectChild (k : Ask) (found : st.Found st' root root' v v') :
    Both (st.Found st' root root') (st.selectChild (.text k.selector) (.text k.value) v)
      (st'.selectChild (.text k.selector) (.text k.value) v') := by
  cases found with
  | nothing =>
    exact ⟨.null, .null, k.selectChild_other rfl, k.selectChild_other rfl, .nothing⟩
  | @node m m' twins =>
    obtain ⟨path, at_, at'⟩ := twins.place
    have here := formed.below at_.reached
    have here' := formed'.below at'.reached
    have agree : Agree st st' root root' (k.test st) (k.test st') := by
      unfold Ask.test
      split
      · exact same.agree_tagged k.value
      · exact same.agree_attrIs formed formed' k.selector k.value
    obtain ⟨r, r', among, among', related⟩ := firstWhere_both agree (same.twins_below twins)
    rw [k.selectChild_node here.isNode, k.selectChild_node here'.isNode, among, among']
    exact ⟨_, _, rfl, rfl, .of_rel related⟩

end Selecting

theorem Found.shows {s s' : Session} (formed : s.store.Formed root)
    (formed' : s'.store.Formed root') (found : s.store.Found s'.store root root' v v') :
    Shows v s ∧ Shows v' s' := by
  cases found with
  | nothing => exact ⟨shows_null s, shows_null s'⟩
  | node twins =>
    obtain ⟨path, at_, at'⟩ := twins.place
    exact ⟨shows_formed (formed.below at_.reached), shows_formed (formed'.below at'.reached)⟩

end Store

namespace Query

theorem exec_call_firstPresent (results : List Value) (s : Session) :
    (Function.caller Eval.call (.function .firstPresent) results).exec s =
      (.ok (Combine.firstPresent results), s) := by
  rw [Combine.firstPresent_eq]
  exact Combine.exec_firstPresent results s

theorem exec_tell_wish (traced : Bool) {wish : Wish} {step : Step} {v : Value} {s : Session}
    (is : wish.Is s.store step) (shows : Shows v s) :
    ∃ log, (tell traced step v).exec s = (.ok (), { s with log := log }) := by
  cases is with
  | one k => exact exec_tell_ask traced k shows
  | @first selector candidates form listed pair texts =>
    cases traced with
    | false => exact ⟨s.log, rfl⟩
    | true =>
      have isText : (Value.text selector).isText := rfl
      have named : Shows (.function .firstPresent) s := ⟨_, rfl⟩
      obtain ⟨text, told⟩ := Display.exec_branchText isText pair (items_of_sequence texts)
        (by simp [Value.isText]) named
      obtain ⟨result, shown⟩ := shows.abbreviated
      have line : (Moment.mk (.branch (.text selector) form) v s).Line
          ("descend: " ++ text ++ " -> " ++ result ++ "\n") :=
        ⟨text, result, told, shown, rfl⟩
      exact ⟨_, exec_record line s.log⟩

section Running

variable {s s' : Session} {root root' : Addr} {v v' : Value}
  (same : s.store.SameSkeleton s'.store root root') (formed : s.store.Formed root)
  (formed' : s'.store.Formed root')
include same formed formed'

theorem found_selectAll (selector : String) (found : s.store.Found s'.store root root' v v')
    (candidates : List String) :
    ∃ results results', s.store.selectAll selector candidates v = .ok results ∧
      s'.store.selectAll selector candidates v' = .ok results' ∧
      List.Forall₂ (s.store.Found s'.store root root') results results' := by
  induction candidates with
  | nil => exact ⟨[], [], rfl, rfl, .nil⟩
  | cons candidate candidates ih =>
    obtain ⟨results, results', selected, selected', related⟩ := ih
    obtain ⟨r, r', select, select', first⟩ :=
      same.selectChild formed formed' ⟨selector, candidate⟩ found
    refine ⟨r :: results, r' :: results', ?_, ?_, .cons first related⟩
    · rw [Store.selectAll_cons, select, selected]
      rfl
    · rw [Store.selectAll_cons, select', selected']
      rfl

/-- One step leads from values at one place to values at one place. -/
theorem exec_carryOut_wish {wish : Wish} {step step' : Step} (is : wish.Is s.store step)
    (is' : wish.Is s'.store step') (found : s.store.Found s'.store root root' v v') :
    ∃ w w', s.store.Found s'.store root root' w w' ∧
      (step.carryOut (Function.caller Eval.call) v).exec s = (.ok w, s) ∧
      (step'.carryOut (Function.caller Eval.call) v').exec s' = (.ok w', s') := by
  cases is with
  | one k =>
    cases is'
    obtain ⟨w, w', select, select', next⟩ := same.selectChild formed formed' k found
    refine ⟨w, w', next, ?_, ?_⟩
    · rw [Ask.step, Step.exec_carryOut_scalar, select]
    · rw [Ask.step, Step.exec_carryOut_scalar, select']
  | @first selector candidates form listed pair texts =>
    cases is' with
    | @first _ _ form' listed' pair' texts' =>
      obtain ⟨results, results', selected, selected', related⟩ :=
        found_selectAll same formed formed' selector found candidates
      have runs := Step.exec_select selector candidates v s
      have runs' := Step.exec_select selector candidates v' s'
      rw [selected] at runs
      rw [selected'] at runs'
      refine ⟨_, _, Store.found_firstPresent related, ?_, ?_⟩
      · rw [Step.carryOut, exec_bind_ok (pair_of_sequence (Store.sequence?_of_tupleItems? pair)),
          exec_bind_ok ((visit_of_sequence _ texts).trans runs), exec_call_firstPresent]
      · rw [Step.carryOut, exec_bind_ok (pair_of_sequence (Store.sequence?_of_tupleItems? pair')),
          exec_bind_ok ((visit_of_sequence _ texts').trans runs'), exec_call_firstPresent]

end Running

/-- Queries that ask for the same lead from values at one place to values at one place, whether
they are traced or not. Nothing else comes of them but what a trace writes. -/
theorem exec_compose_wishes {s s' : Session} {root root' : Addr} {v v' : Value}
    (same : s.store.SameSkeleton s'.store root root') (formed : s.store.Formed root)
    (formed' : s'.store.Formed root') (traced traced' : Bool) {wishes : List Wish}
    {steps steps' : List Step} (are : List.Forall₂ (Wish.Is s.store) wishes steps)
    (are' : List.Forall₂ (Wish.Is s'.store) wishes steps')
    (found : s.store.Found s'.store root root' v v') :
    ∃ w w' log log', s.store.Found s'.store root root' w w' ∧
      (compose (Function.caller Eval.call) traced steps v).exec s =
        (.ok w, { s with log := log }) ∧
      (compose (Function.caller Eval.call) traced' steps' v').exec s' =
        (.ok w', { s' with log := log' }) := by
  induction wishes generalizing s s' v v' steps steps' with
  | nil =>
    cases are
    cases are'
    exact ⟨v, v', s.log, s'.log, found, rfl, rfl⟩
  | cons wish wishes ih =>
    cases are with
    | @cons _ step _ steps is are =>
    cases are' with
    | @cons _ step' _ steps' is' are' =>
      obtain ⟨w, w', next, done, done'⟩ := exec_carryOut_wish same formed formed' is is' found
      obtain ⟨shows, shows'⟩ := next.shows formed formed'
      obtain ⟨log, told⟩ := exec_tell_wish traced is shows
      obtain ⟨log', told'⟩ := exec_tell_wish traced' is' shows'
      -- What is told changes neither store.
      have same' : ({ s with log := log } : Session).store.SameSkeleton
          ({ s' with log := log' } : Session).store root root' := same
      obtain ⟨u, u', further, further', last, later, later'⟩ :=
        ih same' formed formed' are are' next
      refine ⟨u, u', further, further', last, ?_, ?_⟩
      · rw [compose_cons, exec_bind_ok done, exec_bind_ok told, later]
      · rw [compose_cons, exec_bind_ok done', exec_bind_ok told', later']

end Query

/-- Texts among children and blanks around the values of attributes make no difference to exact
searches and queries: from nodes at one place in two trees with the same skeleton, they find nodes
at one place in both, or nothing in both. -/
theorem texts_and_blanks_do_not_count (s s' : Session) (root root' : Addr)
    (formed : s.store.Formed root) (formed' : s'.store.Formed root')
    (same : s.store.SameSkeleton s'.store root root') (path : List Nat) (a a' : Addr)
    (at_ : s.store.At root path a) (at' : s'.store.At root' path a') :
    Store.SearchAlike s.store s'.store root root' a a' ∧
    ∀ (wishes : List Wish) (q q' : Query), List.Forall₂ (Wish.Is s.store) wishes q.steps →
      List.Forall₂ (Wish.Is s'.store) wishes q'.steps →
      ∃ v v' log log', s.store.Found s'.store root root' v v' ∧
        (q.run (Function.caller Eval.call) (.ref a)).exec s = (.ok v, { s with log := log }) ∧
        (q'.run (Function.caller Eval.call) (.ref a')).exec s' =
          (.ok v', { s' with log := log' }) := by
  refine ⟨same.searchAlike formed formed' at_ at', ?_⟩
  intro wishes q q' are are'
  obtain ⟨m, rfl, view⟩ := (formed.below at_.reached).exists_view
  obtain ⟨m', rfl, view'⟩ := (formed'.below at'.reached).exists_view
  have found : s.store.Found s'.store root root' (.ref m.id) (.ref m'.id) :=
    .node ⟨⟨path, at_, at'⟩, view, view'⟩
  exact Query.exec_compose_wishes same formed formed' q.traced q'.traced are are' found

namespace Store

def rebranching : Store where
  objects := #[.list [.text "v"], .dict [(.text "id", .text "k\t")], .node ⟨"c", 1, 0⟩,
    .list [.ref 2, .text ""], .dict [(.text "class", .text "x")], .node ⟨"b", 4, 3⟩,
    .list [], .dict [], .node ⟨"d", 7, 6⟩,
    .list [.text " ", .ref 8], .dict [(.text "class", .text "\nx")], .node ⟨"b", 10, 9⟩,
    .list [.ref 5, .text "t", .text "t", .ref 11], .dict [], .node ⟨"a", 13, 12⟩]

theorem formed_rebranching : rebranching.Formed 14 :=
  formed_of_earlier rfl (by decide)

theorem sameSkeleton_rebranching : branching.SameSkeleton rebranching 14 14 := by
  refine sameSkeleton_of_pairs (fun a a' => a = a' ∧ a ∈ [2, 5, 8, 11, 14]) (by decide) ?_ ?_
  · rintro a _ m m' ⟨rfl, member⟩ view view'
    simp only [List.mem_cons, List.not_mem_nil, or_false] at member
    rcases member with rfl | rfl | rfl | rfl | rfl <;> cases view <;> cases view' <;>
      refine alike_of_forall₂ rfl ?_
    · exact .cons ⟨rfl, by decide +kernel⟩ .nil
    · exact .cons ⟨rfl, by decide +kernel⟩ .nil
    · exact .nil
    · exact .cons ⟨rfl, by decide +kernel⟩ .nil
    · exact .nil
  · rintro a _ ⟨rfl, member⟩
    simp only [List.mem_cons, List.not_mem_nil, or_false] at member
    rcases member with rfl | rfl | rfl | rfl | rfl
    · exact .nil
    · exact .cons (by decide) .nil
    · exact .nil
    · exact .cons (by decide) .nil
    · exact .cons (by decide) (.cons (by decide) .nil)

end Store

def onRebranching : Session where
  store := .rebranching

theorem branching_texts_and_blanks_do_not_count :
    Query.onBranching.store.Formed 14 ∧ onRebranching.store.Formed 14 ∧
      Query.onBranching.store.SameSkeleton onRebranching.store 14 14 ∧
      Query.onBranching.store.At 14 [1] 11 ∧ onRebranching.store.At 14 [1] 11 ∧
      Store.SearchAlike Query.onBranching.store onRebranching.store 14 14 11 11 ∧
      ∀ (wishes : List Wish) (q q' : Query),
        List.Forall₂ (Wish.Is Query.onBranching.store) wishes q.steps →
        List.Forall₂ (Wish.Is onRebranching.store) wishes q'.steps →
        ∃ v v' log log', Query.onBranching.store.Found onRebranching.store 14 14 v v' ∧
          (q.run (Function.caller Eval.call) (.ref 11)).exec Query.onBranching =
            (.ok v, { Query.onBranching with log := log }) ∧
          (q'.run (Function.caller Eval.call) (.ref 11)).exec onRebranching =
            (.ok v', { onRebranching with log := log' }) := by
  have at_ : Query.onBranching.store.At 14 [1] 11 := .down rfl (.here 11)
  have at' : onRebranching.store.At 14 [1] 11 := .down rfl (.here 11)
  exact ⟨Store.formed_branching, Store.formed_rebranching, Store.sameSkeleton_rebranching, at_,
    at', texts_and_blanks_do_not_count _ _ 14 14 Store.formed_branching Store.formed_rebranching
      Store.sameSkeleton_rebranching [1] 11 11 at_ at'⟩

end TreeQuery
