import TreeQuery.Display.Value
import TreeQuery.Proofs.Settling
import TreeQuery.Proofs.Store.Json

namespace TreeQuery

namespace Display

open Eval

theorem exists_plainText {v : Value} (plain : v.isPlain) (fuel : Nat) (opened : List Addr) :
    ∃ text, valueWithin fuel opened v = pure text := by
  cases v with
  | null => exact ⟨_, by simp only [valueWithin]; rfl⟩
  | bool b => exact ⟨_, by simp only [valueWithin]; rfl⟩
  | int i => exact ⟨_, by simp only [valueWithin]; rfl⟩
  | float x => exact ⟨_, by simp only [valueWithin]; rfl⟩
  | text t => exact ⟨_, by simp only [valueWithin]; rfl⟩
  | _ => cases plain

/-- A container is shown in brackets, and inside itself by the brackets alone. -/
theorem steady_container {P : Fault → Prop} {s : Session} {a : Addr} {o : Object} {fuel : Nat}
    {opened : List Addr} {again : String} (read : s.store.read? a = some o)
    (reopened : reopened? o = some again)
    (shown : Steady P s (ofObject (valueWithin fuel (a :: opened)) (.ref a) o)) :
    Steady P s (valueWithin (fuel + 1) opened (.ref a)) := by
  unfold valueWithin
  obtain ⟨r, done, allowed⟩ : Steady P s (if opened.contains a then (pure again : Eval String)
      else ofObject (valueWithin fuel (a :: opened)) (.ref a) o) := by
    split
    · exact steady_pure again
    · exact shown
  refine ⟨r, ?_, allowed⟩
  rw [exec_bind_ok (exec_getStore s)]
  simpa only [read, reopened] using done

/-- Showing data stops only if it has more levels than may be shown. -/
theorem steady_valueWithin {st : Store} {s : Session} {n : Nat} {v : Value} (json : st.IsJson n v)
    (grows : st.Grows s.store) (fuel : Nat) (opened : List Addr) :
    Steady (fun fault => fault = .tooDeep ∧ fuel < n) s (valueWithin fuel opened v) := by
  induction json generalizing fuel opened with
  | plain plain =>
    obtain ⟨text, shown⟩ := exists_plainText plain fuel opened
    rw [shown]
    exact steady_pure text
  | list read items ih =>
    cases fuel with
    | zero => exact steady_throw ⟨rfl, Nat.succ_pos _⟩
    | succ fuel =>
      refine steady_container (grows _ _ read) rfl ?_
      refine .bind (steady_mapM fun v member => ?_) fun _ => steady_pure _
      simpa using ih v member fuel _
  | dict read keys values ih =>
    cases fuel with
    | zero => exact steady_throw ⟨rfl, Nat.succ_pos _⟩
    | succ fuel =>
      refine steady_container (grows _ _ read) rfl ?_
      refine .bind (steady_mapM fun e member => ?_) fun _ => steady_pure _
      obtain ⟨name, key⟩ := Value.eq_text_of_isText (keys e member)
      have plain : e.1.isPlain := by rw [key]; rfl
      obtain ⟨text, shown⟩ := exists_plainText plain fuel _
      rw [shown]
      refine (steady_pure text).bind fun _ => .bind ?_ fun _ => steady_pure _
      simpa using ih e member fuel _

theorem steady_display {st : Store} {s : Session} {n : Nat} {v : Value} (json : st.IsJson n v)
    (grows : st.Grows s.store) :
    Steady (fun fault => fault = .tooDeep ∧ deepest < n) s (display v) :=
  steady_valueWithin json grows deepest []

end Display

end TreeQuery
