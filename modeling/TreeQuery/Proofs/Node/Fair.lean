import TreeQuery.Proofs.Fair
import TreeQuery.Proofs.Node.Fresh

namespace TreeQuery

open Eval

theorem fair_setItem (c key v : Value) : Fair (setItem c key v) := by
  refine fun st => .getStore_bind ?_
  cases c with
  | ref a =>
    rcases read : st.read? a with _ | o
    · simpa only [read] using Fair.throw _ st
    · cases o with
      | list vs =>
        simp only [read]
        split
        · exact Fair.throw _ st
        · split
          · exact .write read rfl
          · exact Fair.throw _ st
      | element e =>
        simp only [read]
        split
        · exact Fair.throw _ st
        · split
          · exact Fair.throw _ st
          · exact .write read rfl
          · exact Fair.throw _ st
      | dict es =>
        simp only [read]
        exact .lift_bind fun _ => .write read rfl
      | _ =>
        simp only [read]
        exact Fair.throw _ st
  | _ => exact Fair.throw _ st

theorem fair_append (c v : Value) : Fair (append c v) := by
  refine fun st => .getStore_bind ?_
  split
  · next a vs list => exact .write list rfl
  · next a e element =>
    split
    · exact .write element rfl
    · exact Fair.throw _ st
  · exact Fair.throw _ st

namespace Node

theorem fair_getOrPut (dict key v : Value) : Fair (getOrPut dict key v) := by
  refine .getStore_bind ?_
  intro st
  split
  · split
    · exact .pure _
    · exact .bind (fair_setItem _ _ _) fun _ => .pure _
  · exact .throw _

theorem fair_addClass (attrs cl : Value) : Fair (addClass attrs cl) := by
  refine .bind (fair_getOrPut _ _ _) fun present => .getStore_bind fun st => ?_
  split
  · exact .bind (quiet_display _).fair fun _ => .bind (quiet_display _).fair fun _ => .throw _
  · exact .pure _

theorem quiet_refuseAttr (e : Value × Value) : Quiet (refuseAttr e) :=
  .bind (quiet_display _) fun _ => .getStore_bind fun _ =>
    .bind (Display.quiet_abbreviated _ _) fun _ => .throw _

theorem fair_settleEntry (a : Addr) (e : Value × Value) : Fair (settleEntry a e) := by
  unfold settleEntry
  split
  · split
    · exact fair_setItem _ _ _
    · exact (quiet_refuseAttr e).fair
  · exact .pure _

theorem fair_settleAttrs (attrs : Value) : Fair (settleAttrs attrs) := by
  refine fun st => .getStore_bind ?_
  split
  · next a es dict =>
    rw [settleDict_eq]
    refine .bind (.bind (.write dict rfl) fun _ _ t _ _ => ?_) fun _ _ t _ _ => Fair.pure _ t.store
    cases (replaceUntil settled? es).2 with
    | none => exact Fair.pure _ t.store
    | some e => exact (quiet_refuseAttr e).fair t.store
  · next a e element =>
    exact Fair.bind (Fair.closed.forM (fair_settleEntry a) _) (fun _ => .pure _) st
  · exact Fair.throw _ st

theorem fair_childList (content : Value) : Fair (childList content) := by
  refine .getStore_bind ?_
  intro st
  split
  · exact .allocAt _
  · split
    · exact .pure _
    · exact .bind (Quiet.items _).fair fun _ => .allocAt _

theorem list_of_childList {content : Value} {c : Addr} {s t : Session}
    (done : (childList content).exec s = (.ok c, t)) : ∃ vs, t.store.read? c = some (.list vs) := by
  by_cases given : ∃ vs, s.store.object? content = some (.list vs)
  · obtain ⟨vs, list⟩ := given
    cases content with
    | ref a =>
      cases (exec_childList_list list).symm.trans done
      exact ⟨vs, list⟩
    | _ => cases list
  · rcases exec_childList_other (not_exists.mp given) with ⟨_, _, stops, _⟩ | ⟨st, vs, _, made⟩
    · cases stops.symm.trans done
    · cases made.symm.trans done
      exact ⟨vs, Store.read?_alloc_self st _⟩

theorem fairOn_settleChildren {st : Store} {c : Addr} {vs : List Value}
    (list : st.read? c = some (.list vs)) : FairOn st (settleChildren c) := by
  refine .getStore_bind ?_
  refine .bind (.write list rfl) ?_
  intro _ _ t _ _
  split
  · exact Fair.pure _ t.store
  · refine Fair.getStore_bind (fun _ => ?_) t.store
    exact .bind (Display.quiet_abbreviated _ _).fair fun _ => .throw _

theorem fairOn_enterChildren {st : Store} {c : Addr} {vs : List Value} (parts : Parts)
    (list : st.read? c = some (.list vs)) : FairOn st (parts.enterChildren c) := by
  refine .bind (.getStore_bind (.write list rfl)) ?_
  intro _ s t at_ run
  cases run
  subst at_
  exact fairOn_settleChildren (Store.read?_write_self _ _ (Store.lt_of_read? list))

theorem fair_make (parts : Parts) : Fair (make parts) := by
  rw [Parts.make_eq]
  refine .getStore_bind fun st => .bind (.lift _) fun tag => .bind ?_ fun attrs =>
    .bind ?_ fun a => ?_
  · unfold Parts.attrsOrNew
    split
    · exact .alloc _
    · exact .pure _
  · refine .bind (Fair.closed.forM (fun given => fair_setItem _ _ _) _) fun _ => .bind ?_ fun _ =>
      fair_settleAttrs _
    unfold Parts.enterClass
    split
    · exact fair_addClass _ _
    · exact .pure _
  · refine fun st' => (fair_childList parts.content st').bind fun c s t _ run => ?_
    obtain ⟨vs, list⟩ := list_of_childList run
    exact (fairOn_enterChildren parts list).bind fun _ _ t _ _ => Fair.alloc _ t.store

theorem fair_makeCopy (tag : Value) (es : Entries) (vs : List Value) :
    Fair (makeCopy tag es vs) :=
  .bind (.alloc _) fun _ => .bind (.alloc _) fun _ => fair_make _

end Node

end TreeQuery
