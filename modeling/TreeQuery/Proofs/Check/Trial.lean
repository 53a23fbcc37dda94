import TreeQuery.Proofs.Check.Block
import Mathlib.Logic.Relation

namespace TreeQuery

open Eval

namespace ErrorClass

def Within (c d : ErrorClass) : Prop := Relation.ReflTransGen (fun c p => c.parent? = some p) c d

theorem within_of_isWithin {fuel : Nat} {c d : ErrorClass} (found : isWithin fuel c d = true) :
    c.Within d := by
  induction fuel generalizing c with
  | zero =>
    have same : c = d := by simpa [isWithin] using found
    rw [same]
    exact .refl
  | succ fuel ih =>
    simp only [isWithin, Bool.or_eq_true, beq_iff_eq] at found
    rcases found with same | above
    · rw [same]
      exact .refl
    · cases parent : c.parent? with
      | none => simp [parent] at above
      | some p =>
        simp only [parent, Option.map_some, Option.getD_some] at above
        exact .head parent (ih above)

def level : ErrorClass → Nat
  | base => 0
  | interrupt | exit | generatorExit | general => 1
  | floatingPoint | overflow | zeroDivision | moduleAbsent | index | key | unboundLocal
  | fileAbsent | permission | timeout | notImplemented | recursion | unicode => 3
  | noMatch => 4
  | _ => 2

theorem level_lt_of_parent {c p : ErrorClass} (parent : c.parent? = some p) :
    p.level < c.level := by
  cases c <;> cases parent <;> decide

theorem level_le_depth (c : ErrorClass) : c.level ≤ depth := by
  cases c <;> decide

theorem isWithin_of_within {c d : ErrorClass} (within : c.Within d) {fuel : Nat}
    (enough : c.level ≤ fuel) : isWithin fuel c d = true := by
  induction within using Relation.ReflTransGen.head_induction_on generalizing fuel with
  | refl => cases fuel <;> simp [isWithin]
  | @head c p parent _ ih =>
    have below := level_lt_of_parent parent
    cases fuel with
    | zero => omega
    | succ fuel =>
      have later : p.level ≤ fuel := by omega
      simp [isWithin, parent, ih later]

theorem isA_iff {c d : ErrorClass} : c.isA d = true ↔ c.Within d :=
  ⟨within_of_isWithin, fun within => isWithin_of_within within (level_le_depth c)⟩

end ErrorClass

theorem Store.pairwise_iff {related : Value → Value → Bool} {xs ys : List Value} :
    Store.pairwise related xs ys = true ↔ List.Forall₂ (fun x y => related x y = true) xs ys := by
  induction xs generalizing ys with
  | nil => cases ys <;> simp [Store.pairwise]
  | cons x xs ih => cases ys <;> simp [Store.pairwise, ih]

namespace Check

/-- An error is the expected one: it is shown so, or it is of the class, or it is of the same
class as an expected error and holds equal values. -/
def Matches (s : Session) (fault : Fault) : Value → Prop
  | .text wanted => ∃ t, (Display.ofError display fault.kind fault.args).exec s = (.ok wanted, t)
  | .errorClass c => fault.kind.Within c
  | v => ∃ args, s.store.object? v = some (.error fault.kind args) ∧
      List.Forall₂ (fun x y => s.store.alike x y = true) args fault.args

def Fails (s : Session) (expected : Value) : Check → Outcome → Prop
  | value, .ok v | items, .ok v => s.store.equal expected v = false
  | shown, .ok v => ¬ ∃ text t, (display v).exec s = (.ok text, t) ∧ expected = .text text
  | error, .ok _ => True
  | error, .error fault => ¬ Matches s fault expected
  | value, .error _ | shown, .error _ | items, .error _ => True

theorem quiet_subjectName (subject : Value) : Quiet (subjectName subject) := by
  refine .getStore_bind ?_
  intro st
  split
  · exact .pure _
  · exact quiet_plain _

theorem quiet_isExpectedError (expected : Value) (fault : Fault) :
    Quiet (isExpectedError expected fault) := by
  unfold isExpectedError
  split
  · exact .bind (Display.quiet_ofError quiet_display _ _) fun _ => .pure _
  · exact .pure _
  · refine .getStore_bind ?_
    intro st
    split
    · exact .pure _
    · exact .pure _

theorem quiet_passes (check : Check) (expected : Value) (outcome : Outcome) :
    Quiet (check.passes expected outcome) := by
  cases check <;> cases outcome
  case error.error fault => exact quiet_isExpectedError expected fault
  case shown.ok v => exact .bind (quiet_display v) fun _ => .pure _
  case value.ok v => exact .getStore_bind fun _ => .pure _
  case items.ok v => exact .getStore_bind fun _ => .pure _
  all_goals exact .pure _

theorem matches_iff_of_other {s : Session} {expected : Value} {fault : Fault}
    (notText : ∀ wanted, expected ≠ .text wanted) (notClass : ∀ c, expected ≠ .errorClass c) :
    Matches s fault expected ↔ ∃ args,
      s.store.object? expected = some (.error fault.kind args) ∧
        List.Forall₂ (fun x y => s.store.alike x y = true) args fault.args := by
  cases expected with
  | text wanted => exact absurd rfl (notText wanted)
  | errorClass c => exact absurd rfl (notClass c)
  | _ => exact Iff.rfl

theorem isExpectedError_iff {expected : Value} {fault : Fault} {s t : Session} {b : Bool}
    (judged : (isExpectedError expected fault).exec s = (.ok b, t)) :
    b = true ↔ Matches s fault expected := by
  unfold isExpectedError at judged
  split at judged
  · next wanted =>
    obtain ⟨text, u, shown, same⟩ := exec_bind_eq_ok.mp judged
    cases same
    rw [beq_iff_eq]
    constructor
    · rintro rfl
      exact ⟨t, shown⟩
    · rintro ⟨t', shown'⟩
      cases shown.symm.trans shown'
      rfl
  · next c =>
    cases judged
    exact ErrorClass.isA_iff
  -- What is neither a text nor a class has to be an error itself.
  · next _ notText notClass =>
    rw [exec_bind_ok (exec_getStore s)] at judged
    rw [matches_iff_of_other notText notClass]
    split at judged
    · next kind args object =>
      cases judged
      rw [object, Bool.and_eq_true, beq_iff_eq, Store.pairwise_iff]
      constructor
      · rintro ⟨rfl, same⟩
        exact ⟨args, rfl, same⟩
      · rintro ⟨_, ⟨⟩, same⟩
        exact ⟨rfl, same⟩
    · next other =>
      cases judged
      simp only [Bool.false_eq_true, false_iff]
      rintro ⟨args, object, _⟩
      exact other _ _ object

theorem passes_eq_false_iff {check : Check} {expected : Value} {outcome : Outcome}
    {s t : Session} {b : Bool} (judged : (check.passes expected outcome).exec s = (.ok b, t)) :
    b = false ↔ check.Fails s expected outcome := by
  cases outcome with
  | ok v =>
    cases check with
    | value | items =>
      cases judged
      exact Iff.rfl
    | error =>
      cases judged
      exact ⟨fun _ => trivial, fun _ => rfl⟩
    | shown =>
      obtain ⟨text, u, shown, same⟩ := exec_bind_eq_ok.mp judged
      cases same
      rw [beq_eq_false_iff_ne]
      constructor
      · rintro differs ⟨text', t', shown', rfl⟩
        cases shown.symm.trans shown'
        exact differs rfl
      · rintro fails rfl
        exact fails ⟨text, t, shown, rfl⟩
  | error fault =>
    cases check with
    | error =>
      have expectedOne := isExpectedError_iff judged
      rw [← Bool.not_eq_true, expectedOne]
      exact Iff.rfl
    | _ =>
      cases judged
      exact ⟨fun _ => trivial, fun _ => rfl⟩

end Check

end TreeQuery
