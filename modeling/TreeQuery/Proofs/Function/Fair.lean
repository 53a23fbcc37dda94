import TreeQuery.Proofs.Function.Closed
import TreeQuery.Proofs.Node.Fair

namespace TreeQuery

open Eval

def FairCaller (call : NamedCaller) : Prop := ∀ fn args named, Fair (call fn args named)

namespace Query

theorem fair_carryOut {call : Caller} (fair : ∀ fn args, Fair (call fn args)) (step : Step)
    (current : Value) : Fair (step.carryOut call current) := by
  rw [Step.carryOut_eq_prepare]
  refine .bind (step.quiet_prepare current).fair ?_
  intro due
  cases due with
  | value v => exact .pure v
  | call due => exact fair _ _

end Query

theorem FairCaller.calls {call : NamedCaller} (fair : FairCaller call) (args : List Value)
    (named : Keywords) : Calls @Fair call args named where
  called fn _ _ _ _ := fair fn _ _
  carried := Query.fair_carryOut fun fn args => fair fn args []
  copies := Node.fair_makeCopy
  made parts _ := Node.fair_make parts
  set key v _ := fair_setItem _ key v
  appended v _ := fair_append _ v

namespace Eval

theorem fair_callWithin (depth : Nat) : FairCaller (callWithin depth) := by
  induction depth with
  | zero => exact fun _ _ _ => .throw _
  | succ depth ih =>
    exact fun fn args named => Fair.closed.callWithin_succ (ih.calls args named) fn

theorem fair_call : FairCaller call := fair_callWithin callDepth

end Eval

end TreeQuery
