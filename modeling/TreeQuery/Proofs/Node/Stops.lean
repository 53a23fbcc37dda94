import TreeQuery.Proofs.Node.Make
import TreeQuery.Proofs.Tree.Draft

namespace TreeQuery

namespace Eval

variable {α β : Type} {k : ErrorClass} {fault : String → Fault} {v : Value} {s t : Session}

/-- In one session, the evaluation stops as showing a value in the other does, or else with an
error of a class that tells what is shown. -/
structure StopsWith (k : ErrorClass) (fault : String → Fault) (v : Value) (t : Session)
    (x : Eval α) (s : Session) : Prop where
  kind (shown : String) : (fault shown).kind = k
  run : x.exec s = (display v >>= fun shown => throw (fault shown) : Eval α).exec t

theorem StopsWith.bind {x : Eval α} (stops : StopsWith k fault v t x s) (f : α → Eval β) :
    StopsWith k fault v t (x >>= f) s := by
  refine ⟨stops.kind, ?_⟩
  rw [exec_bind, stops.run, exec_bind, exec_bind]
  rcases (display v).exec t with ⟨(other | shown), u⟩ <;> rfl

theorem stopsWith_display {f : String → Eval α} (kind : ∀ shown, (fault shown).kind = k)
    (raises : ∀ shown u, (f shown).exec u = (.error (fault shown), u)) :
    StopsWith k fault v s (display v >>= f) s := by
  refine ⟨kind, ?_⟩
  rw [exec_bind, exec_bind]
  rcases (display v).exec s with ⟨(other | shown), u⟩
  · rfl
  · exact raises shown u

theorem StopsWith.congr {x y : Eval α} {u : Session} (stops : StopsWith k fault v t x u)
    (same : y.exec s = x.exec u) : StopsWith k fault v t y s :=
  ⟨stops.kind, same.trans stops.run⟩

theorem StopsWith.after {x : Eval α} {f : α → Eval β} {a : α} {u : Session}
    (first : x.exec s = (.ok a, u)) (stops : StopsWith k fault v t (f a) u) :
    StopsWith k fault v t (x >>= f) s :=
  ⟨stops.kind, (exec_bind_ok first f).trans stops.run⟩

end Eval

namespace Node

open Eval

theorem settledEntry_eq : settledEntry = fun e => (e.1, e.2.written) := by
  funext e
  obtain ⟨key, v⟩ := e
  cases v <;> rfl

theorem replaceUntil_first {α : Type} {f : α → Option α} {before : List α} {x : α}
    (all : ∀ y ∈ before, f y ≠ none) (none : f x = none) (later : List α) :
    replaceUntil f (before ++ x :: later) = (before.filterMap f ++ x :: later, some x) := by
  induction before with
  | nil => simp [replaceUntil, none]
  | cons y before ih =>
    obtain ⟨z, replaced⟩ := Option.ne_none_iff_exists'.mp (all y (.head _))
    have rest := ih fun y' member => all y' (.tail _ member)
    simp [replaceUntil, replaced, rest]

/-- Of items that are not all good, one is the first that is bad. -/
theorem exists_first_bad {α : Type} {good : α → Bool} {xs : List α} (bad : ∃ x ∈ xs, ¬ good x) :
    ∃ before x later, xs = before ++ x :: later ∧ (∀ y ∈ before, good y) ∧ ¬ good x := by
  obtain ⟨x, found⟩ := Option.isSome_iff_exists.mp
    (List.find?_isSome (p := fun x => !good x) |>.mpr (by simpa using bad))
  obtain ⟨isBad, before, later, split, all⟩ := List.find?_eq_some_iff_append.mp found
  exact ⟨before, x, later, split, by simpa using all, by simpa using isBad⟩

section Refusing

variable {s : Session} {a c : Addr} {es before later : Entries}

def attrFault (st : Store) (name : String) (v : Value) (shown : String) : Fault :=
  .attrValue (Text.quote name) (st.shownKind v) (Text.quote (Text.cut 64 shown))

def childFault (st : Store) (v : Value) (shown : String) : Fault :=
  .childValue (st.shownKind v) (Text.quote (Text.cut 64 shown))

theorem stopsWith_settleAttrs {name : String} {v : Value}
    (read : s.store.read? a = some (.dict (before ++ (.text name, v) :: later)))
    (all : ∀ e ∈ before, e.2.isTextOrNumber) (bad : ¬ v.isTextOrNumber) {t : Session}
    (left : t = { s with
      store := s.store.write a (.dict (before.map (fun e => (e.1, e.2.written)) ++
        (.text name, v) :: later)) }) :
    StopsWith .type (attrFault t.store name v) v t (settleAttrs (.ref a)) s := by
  have text : ∀ e ∈ before, attrText? e.2 ≠ none := by
    intro e member
    simp [attrText?_eq, all e member]
  have none : settled? (.text name, v) = none := by simp [settled?, attrText?_eq, bad]
  have stuck := replaceUntil_first
    (fun e member => settled?_eq_none.not.mpr (text e member)) none later
  rw [filterMap_settled? text, settledEntry_eq] at stuck
  subst left
  unfold settleAttrs
  refine .after (exec_getStore s) ?_
  simp only [Store.object?, read, settleDict_eq, stuck]
  refine .bind (.after (exec_write _ _ _) ?_) _
  have shown : ∀ t, (display (.text name)).exec t = (.ok (Text.quote name), t) := fun _ => rfl
  change StopsWith _ _ _ _ (refuseAttr (.text name, v)) _
  refine .after (shown _) (.after (exec_getStore _) ?_)
  simp only [Display.abbreviated, bind_assoc]
  exact stopsWith_display (fun _ => rfl) fun _ _ => rfl

theorem stopsWith_settleChildren {v : Value} {first rest : List Value}
    (list : s.store.read? c = some (.list (first ++ v :: rest)))
    (all : ∀ w ∈ first, s.store.isNode w || w.isTextOrNumber)
    (bad : ¬ (s.store.isNode v || v.isTextOrNumber)) {t : Session}
    (left : t = { s with
      store := s.store.write c (.list (first.map Value.written ++ v :: rest)) }) :
    StopsWith .type (childFault t.store v) v t (settleChildren c) s := by
  have members : s.store.members c = first ++ v :: rest := by simp [Store.members, list]
  have fine : ∀ w ∈ first, child? s.store w ≠ none := by
    intro w member
    simp [child?_eq, all w member]
  have none : child? s.store v = none := by rw [child?_eq, if_neg bad]
  have stuck := replaceUntil_first fine none rest
  rw [filterMap_child? all] at stuck
  subst left
  unfold settleChildren
  refine .after (exec_getStore s) ?_
  rw [members, stuck]
  refine .after (exec_write _ _ _) (.after (exec_getStore _) ?_)
  simp only [Display.abbreviated, bind_assoc]
  exact stopsWith_display (fun _ => rfl) fun _ _ => rfl

end Refusing

namespace Parts

variable {parts : Parts} {s : Session} {a : Addr} {es : Entries} {cl : Option String}

def ClassDiffers (parts : Parts) (cl : Option String) (es : Entries) : Prop :=
  ∃ c, cl = some c ∧ Store.under? (parts.enterAll es) "class" ≠ some (.text c)

theorem conflicts_iff (given : parts.className = cl.elim .null .text) (st : Store) (a : Addr)
    (es : Entries) : parts.conflicts st a es ↔ parts.ClassDiffers cl es := by
  cases cl with
  | none => simp [Parts.conflicts, ClassDiffers, show parts.className = .null from given]
  | some c =>
    have text : parts.className = .text c := given
    have some_ : parts.className ≠ .null := by simp [text]
    have present : ∃ v, Store.under? (parts.enterAll es) "class" = some v := by
      unfold enterAll
      rcases there : Store.under? (enter parts.named es) "class" with _ | v
      · simp [some_, there, Store.under?_putUnder]
      · simp [there]
    obtain ⟨v, there⟩ := present
    rw [conflicts_eq_differs some_ there, text]
    simp [differs, Store.equal_text_left, ClassDiffers, there]

/-- A class that differs stops the call before anything becomes a text. -/
theorem stopsWith_class {c : String} (given : parts.className = .text c)
    (read : s.store.read? a = some (.dict es))
    (differ : Store.under? (parts.enterAll es) "class" ≠ some (.text c)) :
    ∃ present, Store.under? (parts.enterAll es) "class" = some present ∧
      StopsWith .value (fun shown => .classConflict shown (Text.quote c)) present
        { s with store := s.store.write a (.dict (parts.enterAll es)) }
        (parts.enterAttrs (.ref a)) s := by
  have some_ : parts.className ≠ .null := by simp [given]
  have here := Store.read?_write_self s.store (.dict (enter parts.named es))
    (Store.lt_of_read? read)
  obtain ⟨present, there, placed⟩ := exec_getOrPut_class (s := { s with
    store := s.store.write a (.dict (enter parts.named es)) }) here some_
  simp only [Store.write_write] at placed
  have different : ∀ st : Store, differs st parts.className present = true := by
    intro st
    have other : present ≠ .text c := fun same => differ (same ▸ there)
    simp [differs, given, Store.equal_text_left, other]
  refine ⟨present, there, ?_⟩
  unfold enterAttrs enterClass
  rw [if_pos some_]
  refine .after (exec_named parts.named read) (.bind ?_ _)
  unfold addClass
  refine .after placed (.after (exec_getStore _) ?_)
  rw [if_pos (different _), given]
  exact stopsWith_display (fun _ => rfl) fun _ _ => rfl

theorem isText_key_putUnder {name : String} {v : Value} (keys : ∀ e ∈ es, e.1.isText) :
    ∀ e ∈ Store.putUnder es name v, e.1.isText := by
  unfold Store.putUnder
  induction es with
  | nil =>
    intro e member
    cases List.mem_singleton.mp member
    rfl
  | cons e es ih =>
    obtain ⟨first, rest⟩ := List.forall_mem_cons.mp keys
    unfold Store.putBy
    split
    · exact List.forall_mem_cons.mpr ⟨first, rest⟩
    · exact List.forall_mem_cons.mpr ⟨first, ih rest⟩

theorem isText_key_enterAll (parts : Parts) (keys : ∀ e ∈ es, e.1.isText) :
    ∀ e ∈ parts.enterAll es, e.1.isText := by
  have named : ∀ named : Keywords, ∀ e ∈ enter named es, e.1.isText := by
    intro named
    unfold enter
    induction named generalizing es with
    | nil => exact keys
    | cons given named ih => exact ih (isText_key_putUnder keys)
  unfold enterAll
  simp only
  split
  · exact named parts.named
  · exact isText_key_putUnder (named parts.named)

end Parts

end Node

end TreeQuery
