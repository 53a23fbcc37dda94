import TreeQuery.Proofs.Function.Closed
import TreeQuery.Proofs.Search.Scan
import TreeQuery.Proofs.Search.Sound

namespace TreeQuery

open Eval

namespace Store

def AreFindings (vs : List Value) (st : Store) : Prop := ∀ v ∈ vs, st.IsFinding v

theorem isFinding_firstWhere {st : Store} {test : Criterion} {v : Value}
    {found : Option NodeView} (first : firstWhere test (st.childNodes v) = .ok found) :
    st.IsFinding (foundValue found) := by
  cases found with
  | none => exact .inl rfl
  | some view =>
    obtain ⟨before, later, nodes, _⟩ := ((scans_firstWhere _).found test view).mp first
    have member : view ∈ st.childNodes v := by simp [nodes]
    obtain ⟨a, n, node, rfl⟩ := views_childNodes st v view member
    exact .inr (by simp [foundValue, viewOf, isNode, node])

theorem isFinding_selectChild {st : Store} {attr wanted v found : Value}
    (selected : st.selectChild attr wanted v = .ok found) : st.IsFinding found := by
  unfold selectChild at selected
  split at selected
  · obtain ⟨view, tagged, same⟩ := except_bind_eq_ok.mp selected
    cases same
    unfold childTagged at tagged
    split at tagged
    · obtain ⟨tag, _, first⟩ := except_bind_eq_ok.mp tagged
      exact isFinding_firstWhere first
    · cases tagged
      exact .inl rfl
  · obtain ⟨view, first, same⟩ := except_bind_eq_ok.mp selected
    cases same
    exact isFinding_firstWhere first

end Store

theorem lasts_areFindings (vs : List Value) : Lasts (Store.AreFindings vs) :=
  fun _ _ keeps findings v member => keeps.isFinding (findings v member)

/-- Calls by place, with nodes and absent values, keep all objects that are no iterators. -/
def KeepingCaller (call : NamedCaller) : Prop :=
  ∀ fn args, Keeping (Store.AreFindings args) (call fn args [])

theorem areFindings_of_prepare {step : Step} {current : Value} {due : Application} {s t : Session}
    (prepared : (step.prepare current).exec s = (.ok (.call due), t)) :
    Store.AreFindings due.results t.store := by
  cases step with
  | scalar attr wanted =>
    obtain ⟨found, m, _, given⟩ := exec_bind_eq_ok.mp prepared
    obtain ⟨v, m', _, given⟩ := exec_bind_eq_ok.mp given
    cases given
  | branch attr form =>
    obtain ⟨⟨combinator, candidates⟩, m, _, visited⟩ := exec_bind_eq_ok.mp prepared
    obtain ⟨results, m', visited, given⟩ := exec_bind_eq_ok.mp visited
    cases given
    have lasts : ∀ (st st' : Store) v, st.Keeps st' → st.IsFinding v → st'.IsFinding v :=
      fun _ _ _ keeps => keeps.isFinding
    refine visit_all lasts ?_ (fun v s _ => (Step.quiet_select attr current v).keepsFrom s) visited
    intro wanted s found t selected
    rw [exec_bind_ok (exec_getStore s), exec_lift] at selected
    obtain ⟨given, same⟩ := Prod.mk.inj selected
    rw [← same]
    exact Store.isFinding_selectChild given

theorem keeps_carryOut {call : Caller} (keeping : ∀ fn args, Keeping (Store.AreFindings args)
    (call fn args)) (step : Step) (current : Value) (s : Session) :
    KeepsFrom s (step.carryOut call current) := by
  rw [Step.carryOut_eq_prepare]
  refine KeepsFrom.bind ((step.quiet_prepare current).keepsFrom s) ?_
  intro due t prepared
  cases due with
  | value v => exact .refl t.store
  | call due => exact keeping _ _ t (areFindings_of_prepare prepared)

theorem exec_change_finding {c : Value} {s : Session} (finding : s.store.IsFinding c)
    (key v : Value) : (setItem c key v).exec s = (.error .notAssignable, s) ∧
      (append c v).exec s = (.error (.noAttribute "append"), s) := by
  rcases finding with rfl | node
  · exact ⟨rfl, rfl⟩
  · obtain ⟨n, node⟩ := Store.node?_of_isNode node
    have object := Store.node?_eq_some.mp node
    cases c with
    | ref a =>
      have read : s.store.read? a = some (.node n) := object
      constructor
      · unfold setItem
        rw [exec_bind_ok (exec_getStore s)]
        simp [read]
      · unfold append
        rw [exec_bind_ok (exec_getStore s)]
        simp [object]
    | _ => cases object

theorem KeepingCaller.calls {call : NamedCaller} (keeping : KeepingCaller call)
    (args : List Value) : Calls @(@Keeping (Store.AreFindings args)) call args [] where
  called fn vs kw among none := by
    have plain : kw = [] := List.subset_nil.mp none
    subst plain
    intro s findings
    refine keeping fn vs s ?_
    intro v member
    exact findings v (by simpa using among member)
  carried step current s _ := keeps_carryOut keeping step current s
  copies tag es vs s _ := Node.keeps_makeCopy tag es vs s
  made parts named := absurd rfl named
  set key v given s findings := by
    have finding := findings _ (by simpa using given)
    unfold KeepsFrom
    rw [(exec_change_finding finding key v).1]
    exact .refl s.store
  appended v given s findings := by
    have finding := findings _ (by simpa using given)
    unfold KeepsFrom
    rw [(exec_change_finding finding .null v).2]
    exact .refl s.store

theorem keeping_callWithin (depth : Nat) : KeepingCaller (callWithin depth) := by
  induction depth with
  | zero => exact fun _ _ s _ => (Quiet.throw _).keepsFrom s
  | succ depth ih =>
    intro fn args
    exact (Keeping.closed (lasts_areFindings args)).callWithin_succ (ih.calls args) fn

theorem keeping_call : KeepingCaller call := keeping_callWithin callDepth

end TreeQuery
