import TreeQuery.Proofs.Closed
import TreeQuery.Proofs.Display.Quiet
import TreeQuery.Proofs.Node.Fresh

namespace TreeQuery

namespace Eval.Composed

variable {P : {α : Type} → Eval α → Prop} (closed : Composed @P)
include closed

open Node

theorem display (v : Value) : P (display v) := closed.quiet (quiet_display v)

theorem checkEntry (e : Value × Value) : P (checkEntry e) := by
  have settled : P (do
      if (attrText? e.2).isNone then
        let key ← TreeQuery.display e.1
        let shown ← TreeQuery.display e.2
        MonadExcept.throw (Fault.recordValue key shown) : Eval Unit) := by
    split
    · exact closed.bind (closed.display _) fun _ => closed.bind (closed.display _) fun _ =>
        closed.throw _
    · exact closed.pure _
  unfold Node.checkEntry
  cases e.1.isText with
  | true => exact settled
  | false =>
    exact closed.bind (closed.display _) fun _ => closed.bind (closed.throw _) fun _ => settled

theorem recordChild {below : Value → Eval Value} (each : ∀ v, P (below v)) (v : Value) :
    P (recordChild below v) := by
  refine closed.getStore_bind ?_
  intro st
  split
  · exact closed.pure _
  · split
    · exact each _
    · exact closed.bind (closed.display _) fun _ => closed.throw _

theorem checkAttrs (attrs : Value) : P (checkAttrs attrs) := by
  refine closed.getStore_bind ?_
  intro st
  split
  · exact closed.bind (closed.forM closed.checkEntry _) fun _ => closed.pure _
  · exact closed.bind (closed.display _) fun _ => closed.throw _

variable (copies : ∀ tag es vs, P (makeCopy tag es vs))
include copies

theorem ofRecordWithin (fuel : Nat) (record : Value) : P (ofRecordWithin fuel record) := by
  induction fuel generalizing record with
  | zero => exact closed.throw _
  | succ fuel ih =>
    refine closed.getStore_bind fun st => closed.bind (closed.lift _) fun tag =>
      closed.bind (closed.newContainer rfl) fun noAttrs => closed.bind (closed.lift _) fun attrs =>
      closed.bind (closed.newContainer rfl) fun noChildren =>
      closed.bind (closed.lift _) fun content => ?_
    have rest : P (do
        let entries ← Node.checkAttrs attrs
        let children ← Eval.visit content (Node.recordChild (Node.ofRecordWithin fuel))
        makeCopy tag entries children) :=
      closed.bind (closed.checkAttrs attrs) fun _ =>
        closed.bind (closed.visit (closed.recordChild ih) content) fun _ => copies _ _ _
    cases tag.isText with
    | true => exact rest
    | false =>
      exact closed.bind (closed.display _) fun _ => closed.bind (closed.throw _) fun _ => rest

omit copies in
theorem elementChildren {below : Value → Eval Value} (each : ∀ v, P (below v)) (as : List Addr) :
    P (elementChildren below as) := by
  induction as with
  | nil => exact closed.pure _
  | cons a as ih =>
    exact closed.bind (each _) fun _ => closed.getStore_bind fun _ =>
      closed.bind ih fun _ => closed.pure _

theorem ofElementWithin (fuel : Nat) (v : Value) : P (ofElementWithin fuel v) := by
  induction fuel generalizing v with
  | zero => exact closed.throw _
  | succ fuel ih =>
    refine closed.getStore_bind ?_
    intro st
    split
    · exact closed.bind (closed.elementChildren ih _) fun _ => copies _ _ _
    · exact closed.throw _

theorem ofRecord (record : Value) : P (ofRecord record) :=
  closed.getStore_bind fun st => closed.ofRecordWithin copies st.depth record

theorem ofElement (v : Value) : P (ofElement v) :=
  closed.getStore_bind fun st => closed.ofElementWithin copies st.depth v

end Eval.Composed

end TreeQuery
