import TreeQuery.Proofs.Display.Quiet
import TreeQuery.Proofs.Node.Sound
import TreeQuery.Proofs.Store.TextKeys

namespace TreeQuery

namespace Value

def isTextOrNumber : Value → Bool
  | text _ | bool _ | int _ | float _ => true
  | _ => false

def written (v : Value) : Value := (v.numberText?.map text).getD v

end Value

namespace Eval

variable {α β : Type}

/-- An evaluation that stops with a fault. It leaves a store, but for items taken out of
iterators. -/
def FailsAt (x : Eval α) (s : Session) (left : Store) : Prop :=
  ∃ fault st, x.exec s = (.error fault, { s with store := st }) ∧ left.Drains st

theorem failsAt_throw (fault : Fault) (s : Session) : FailsAt (throw fault : Eval α) s s.store :=
  ⟨fault, s.store, rfl, .refl _⟩

theorem Quiet.bind_failsAt {x : Eval α} {f : α → Eval β} (quiet : Quiet x)
    (fails : ∀ a s, FailsAt (f a) s s.store) (s : Session) : FailsAt (x >>= f) s s.store := by
  obtain ⟨r, st, drains, runs⟩ := quiet s.store
  cases r with
  | error fault => exact ⟨fault, st, exec_bind_error (runs s rfl) f, drains⟩
  | ok a =>
    obtain ⟨fault, st', stops, drains'⟩ := fails a { s with store := st }
    exact ⟨fault, st', by rw [exec_bind_ok (runs s rfl), stops], drains.trans drains'⟩

theorem FailsAt.bind {x : Eval α} {s : Session} {left : Store} (fails : FailsAt x s left)
    (f : α → Eval β) : FailsAt (x >>= f) s left := by
  obtain ⟨fault, st, stops, drains⟩ := fails
  exact ⟨fault, st, exec_bind_error stops f, drains⟩

theorem FailsAt.after {x : Eval α} {f : α → Eval β} {a : α} {s : Session} {st left : Store}
    (first : x.exec s = (.ok a, { s with store := st }))
    (fails : FailsAt (f a) { s with store := st } left) : FailsAt (x >>= f) s left := by
  obtain ⟨fault, st', stops, drains⟩ := fails
  exact ⟨fault, st', by rw [exec_bind_ok first, stops], drains⟩

theorem exec_setItem {a : Addr} {es : Entries} {s : Session}
    (read : s.store.read? a = some (.dict es)) (name : String) (v : Value) :
    (setItem (.ref a) (.text name) v).exec s =
      (.ok (), { s with store := s.store.write a (.dict (Store.putUnder es name v)) }) := by
  unfold setItem
  rw [exec_bind_ok (exec_getStore s)]
  simp only [read]
  rw [← Store.put_text s.store]
  rfl

end Eval

namespace Node

open Eval

variable {α : Type}

theorem replaceUntil_all {f : α → Option α} {xs : List α} (all : ∀ x ∈ xs, f x ≠ none) :
    (replaceUntil f xs).2 = none ∧ ∀ y ∈ (replaceUntil f xs).1, ∃ x ∈ xs, f x = some y := by
  induction xs with
  | nil => exact ⟨rfl, fun _ member => nomatch member⟩
  | cons x xs ih =>
    obtain ⟨y, replaced⟩ := Option.ne_none_iff_exists'.mp (all x (.head _))
    obtain ⟨done, rest⟩ := ih fun x' member => all x' (.tail _ member)
    simp only [replaceUntil, replaced]
    refine ⟨done, ?_⟩
    intro z member
    rcases List.mem_cons.mp member with rfl | member
    · exact ⟨x, .head _, replaced⟩
    · obtain ⟨x', member', same⟩ := rest z member
      exact ⟨x', .tail _ member', same⟩

theorem replaceUntil_stuck {f : α → Option α} {xs : List α} (refused : ∃ x ∈ xs, f x = none) :
    ∃ x, (replaceUntil f xs).2 = some x ∧ x ∈ (replaceUntil f xs).1 ∧ f x = none := by
  induction xs with
  | nil => simp at refused
  | cons x xs ih =>
    rcases here : f x with _ | y
    · exact ⟨x, by simp [replaceUntil, here]⟩
    · obtain ⟨x', member, stuck⟩ := refused
      have later : x' ∈ xs := by
        rcases List.mem_cons.mp member with rfl | later
        · simp [here] at stuck
        · exact later
      obtain ⟨z, left, among, refused⟩ := ih ⟨x', later, stuck⟩
      exact ⟨z, by simp [replaceUntil, here, left, among, refused]⟩

theorem isText_of_attrText? {v w : Value} (settled : attrText? v = some w) : w.isText := by
  unfold attrText? at settled
  split at settled
  · cases settled
    rfl
  · obtain ⟨text, _, rfl⟩ := Option.map_eq_some_iff.mp settled
    rfl

theorem attrText?_of_isText {v : Value} (text : v.isText) : attrText? v = some v := by
  cases v with
  | text s => rfl
  | _ => cases text

theorem isChild_of_child? {st : Store} {v w : Value} (settled : child? st v = some w) :
    st.isChild w := by
  unfold child? at settled
  split at settled
  · next node =>
    cases settled
    simp [Store.isChild, node]
  · simp [Store.isChild, isText_of_attrText? settled]

theorem child?_of_isChild {st : Store} {v : Value} (fine : st.isChild v) :
    child? st v = some v := by
  unfold child?
  split
  · rfl
  · next other =>
    rcases Bool.or_eq_true_iff.mp fine with text | node
    · exact attrText?_of_isText text
    · exact absurd node other

theorem attrText?_eq (v : Value) :
    attrText? v = if v.isTextOrNumber then some v.written else none := by
  cases v <;> rfl

theorem child?_eq (st : Store) (v : Value) :
    child? st v = if st.isNode v || v.isTextOrNumber then some v.written else none := by
  unfold child?
  rw [attrText?_eq]
  cases v with
  | ref a => cases st.isNode (.ref a) <;> rfl
  | _ => rfl

theorem written_of_isChild {st : Store} {v : Value} (fine : st.isChild v) :
    (st.isNode v || v.isTextOrNumber) ∧ v.written = v := by
  have kept := child?_of_isChild fine
  rw [child?_eq] at kept
  split at kept
  · next good => exact ⟨good, Option.some.inj kept⟩
  · cases kept

theorem failsAt_refuseAttr (e : Value × Value) (s : Session) :
    FailsAt (refuseAttr e) s s.store := by
  refine (quiet_display e.1).bind_failsAt (fun _ s => ?_) s
  refine .after (exec_getStore s) ?_
  exact (Display.quiet_abbreviated _ e.2).bind_failsAt (fun _ => failsAt_throw _) s

section Attributes

variable {a : Addr} {es : Entries} {s : Session}

theorem exec_getOrPut (read : s.store.read? a = some (.dict es)) (name : String) (v : Value) :
    (getOrPut (.ref a) (.text name) v).exec s =
      (.ok ((Store.under? es name).getD v), { s with
        store := s.store.write a
          (.dict (if (Store.under? es name).isSome then es else Store.putUnder es name v)) }) := by
  unfold getOrPut
  rw [exec_bind_ok (exec_getStore s)]
  simp only [Store.object?, read, Store.find?_text]
  rcases Store.under? es name with _ | present
  · simp only
    rw [exec_bind_ok (exec_setItem read name v)]
    rfl
  · simp [Store.write_of_read? read]

def settled? (e : Value × Value) : Option (Value × Value) :=
  (attrText? e.2).map fun v => (e.1, v)

theorem settled?_eq_none {e : Value × Value} : settled? e = none ↔ attrText? e.2 = none := by
  simp [settled?]

theorem settleDict_eq (a : Addr) (es : Entries) :
    settleDict a es = (do
      write a (.dict (replaceUntil settled? es).1)
      (replaceUntil settled? es).2.forM refuseAttr) := rfl

theorem settleAttrs_all (read : s.store.read? a = some (.dict es))
    (all : ∀ e ∈ es, attrText? e.2 ≠ none) :
    ∃ left, (settleAttrs (.ref a)).exec s =
        (.ok a, { s with store := s.store.write a (.dict left) }) ∧ ∀ e ∈ left, e.2.isText := by
  obtain ⟨done, each⟩ := replaceUntil_all fun e member =>
    settled?_eq_none.not.mpr (all e member)
  refine ⟨(replaceUntil settled? es).1, ?_, ?_⟩
  · unfold settleAttrs
    rw [exec_bind_ok (exec_getStore s)]
    simp only [Store.object?, read, settleDict_eq, done]
    rfl
  · intro e member
    obtain ⟨e', _, settled⟩ := each e member
    obtain ⟨v, text, rfl⟩ := Option.map_eq_some_iff.mp settled
    exact isText_of_attrText? text

theorem settleAttrs_stuck (read : s.store.read? a = some (.dict es))
    (refused : ∃ e ∈ es, attrText? e.2 = none) :
    ∃ left, FailsAt (settleAttrs (.ref a)) s (s.store.write a (.dict left)) ∧
      ∃ e ∈ left, ¬ e.2.isText := by
  obtain ⟨e₀, member, none₀⟩ := refused
  obtain ⟨e, stuck, among, none⟩ :=
    replaceUntil_stuck ⟨e₀, member, settled?_eq_none.mpr none₀⟩
  refine ⟨(replaceUntil settled? es).1, ?_, e, among, ?_⟩
  · unfold settleAttrs
    refine .after (exec_getStore s) ?_
    simp only [Store.object?, read, settleDict_eq, stuck]
    exact .bind (.after (exec_write _ _ _) (failsAt_refuseAttr e _)) _
  · intro text
    have none := settled?_eq_none.mp none
    simp [attrText?_of_isText text] at none

end Attributes

namespace Parts

variable (parts : Parts)

def enter (named : Keywords) (es : Entries) : Entries :=
  named.foldl (fun es given => Store.putUnder es (attrName given.1) given.2) es

def enterAll (es : Entries) : Entries :=
  let es := enter parts.named es
  if parts.className = .null ∨ (Store.under? es "class").isSome then es
  else Store.putUnder es "class" parts.className

/-- Whether the class that is given differs from the one that stands in the dictionary then. -/
def conflicts (st : Store) (a : Addr) (es : Entries) : Bool :=
  parts.className ≠ .null && (Store.under? (parts.enterAll es) "class").any fun present =>
    differs (st.write a (.dict (parts.enterAll es))) parts.className present

/-- Whether a value is left in the dictionary that is no text. A class conflict leaves numbers as
they are; without one, all values become texts up to the first that cannot. -/
def spoilsDict (st : Store) (a : Addr) (es : Entries) : Bool :=
  (parts.enterAll es).any fun e =>
    if parts.conflicts st a es then !e.2.isText else (attrText? e.2).isNone

def attrsOrNew (attrs : Value) : Eval Value :=
  if attrs = .null then alloc (.dict []) else pure attrs

def enterClass (attrs : Value) : Eval Unit := do
  if parts.className ≠ .null then
    addClass attrs parts.className

def enterAttrs (attrs : Value) : Eval Addr := do
  parts.named.forM fun given => Eval.setItem attrs (.text (attrName given.1)) given.2
  parts.enterClass attrs
  settleAttrs attrs

def enterChildren (c : Addr) : Eval Unit := do
  addChildren c parts.more
  settleChildren c

def finish (tag : String) (a : Addr) : Eval Value := do
  let c ← childList parts.content
  parts.enterChildren c
  alloc (.node ⟨tag, a, c⟩)

theorem make_eq : make parts = (do
    let tag ← checkTag (← getStore) parts.tag
    let attrs ← attrsOrNew parts.attrs
    let a ← parts.enterAttrs attrs
    parts.finish tag a) := by
  unfold make attrsOrNew enterAttrs enterClass finish enterChildren
  by_cases none : parts.attrs = .null <;> by_cases given : parts.className = .null <;>
    simp [none, given]

variable {parts} {a : Addr} {es : Entries} {s : Session}

theorem exec_named (named : Keywords) (read : s.store.read? a = some (.dict es)) :
    (named.forM fun given => setItem (.ref a) (.text (attrName given.1)) given.2).exec s =
      (.ok (), { s with store := s.store.write a (.dict (enter named es)) }) := by
  induction named generalizing es s with
  | nil =>
    rw [enter, List.foldl_nil, Store.write_of_read? read]
    rfl
  | cons given named ih =>
    have here := Store.read?_write_self s.store
      (.dict (Store.putUnder es (attrName given.1) given.2)) (Store.lt_of_read? read)
    change (setItem (.ref a) (.text (attrName given.1)) given.2 >>= fun _ => _).exec s = _
    rw [exec_bind_ok (exec_setItem read _ _), ih here]
    simp only [Store.write_write]
    rfl

theorem conflicts_write (st : Store) (a : Addr) (o : Object) (es : Entries) :
    parts.conflicts (st.write a o) a es = parts.conflicts st a es := by
  simp only [Parts.conflicts, Store.write_write]

theorem exec_getOrPut_class (read : s.store.read? a = some (.dict (enter parts.named es)))
    (given : parts.className ≠ .null) :
    ∃ present, Store.under? (parts.enterAll es) "class" = some present ∧
      (getOrPut (.ref a) classAttr parts.className).exec s =
        (.ok present, { s with store := s.store.write a (.dict (parts.enterAll es)) }) := by
  have placed := exec_getOrPut read "class" parts.className
  have all : (if (Store.under? (enter parts.named es) "class").isSome then enter parts.named es
      else Store.putUnder (enter parts.named es) "class" parts.className) = parts.enterAll es := by
    simp [enterAll, given]
  refine ⟨(Store.under? (enter parts.named es) "class").getD parts.className, ?_, all ▸ placed⟩
  rw [← all]
  rcases present : Store.under? (enter parts.named es) "class" with _ | v
  · simp [Store.under?_putUnder]
  · simp [present]

theorem conflicts_eq_differs (given : parts.className ≠ .null) {st : Store} {present : Value}
    (there : Store.under? (parts.enterAll es) "class" = some present) :
    parts.conflicts st a es =
      differs (st.write a (.dict (parts.enterAll es))) parts.className present := by
  simp [Parts.conflicts, there, given]

theorem exec_addClass (read : s.store.read? a = some (.dict (enter parts.named es)))
    (given : parts.className ≠ .null) :
    if parts.conflicts s.store a es then
      FailsAt (addClass (.ref a) parts.className) s (s.store.write a (.dict (parts.enterAll es)))
    else (addClass (.ref a) parts.className).exec s =
      (.ok (), { s with store := s.store.write a (.dict (parts.enterAll es)) }) := by
  obtain ⟨present, there, placed⟩ := exec_getOrPut_class read given
  rw [conflicts_eq_differs given there]
  unfold addClass
  split
  · next different =>
    refine .after placed (.after (exec_getStore _) ?_)
    simp only [different, if_true]
    exact (quiet_display _).bind_failsAt
      (fun _ => (quiet_display _).bind_failsAt fun _ => failsAt_throw _) _
  · next same =>
    rw [exec_bind_ok placed, exec_bind_ok (exec_getStore _)]
    simp [same]

theorem exec_enterClass (read : s.store.read? a = some (.dict (enter parts.named es))) :
    if parts.conflicts s.store a es then
      FailsAt (parts.enterClass (.ref a)) s (s.store.write a (.dict (parts.enterAll es)))
    else (parts.enterClass (.ref a)).exec s =
      (.ok (), { s with store := s.store.write a (.dict (parts.enterAll es)) }) := by
  unfold enterClass
  by_cases given : parts.className = .null
  · have all : parts.enterAll es = enter parts.named es := by simp [enterAll, given]
    simp [Parts.conflicts, given, all, Store.write_of_read? read]
  · rw [if_pos given]
    exact exec_addClass read given

/-- Without a conflict, all attributes are entered before any of them is turned into a text. -/
theorem exec_enterAttrs (parts : Parts) (read : s.store.read? a = some (.dict es)) :
    if parts.conflicts s.store a es then
      FailsAt (parts.enterAttrs (.ref a)) s (s.store.write a (.dict (parts.enterAll es)))
    else (parts.enterAttrs (.ref a)).exec s = (settleAttrs (.ref a)).exec
      { s with store := s.store.write a (.dict (parts.enterAll es)) } := by
  have named := exec_named parts.named read
  have here := Store.read?_write_self s.store (.dict (enter parts.named es))
    (Store.lt_of_read? read)
  have classed := exec_enterClass (s := { s with
    store := s.store.write a (.dict (enter parts.named es)) }) here
  simp only [conflicts_write, Store.write_write] at classed
  unfold enterAttrs
  split at classed <;> rename_i differs
  · rw [if_pos differs]
    exact .after named (classed.bind _)
  · rw [if_neg differs, exec_bind_ok named, exec_bind_ok classed]

/-- Attributes that are accepted end up as texts. -/
theorem enterAttrs_accepts (read : s.store.read? a = some (.dict es))
    (agrees : parts.conflicts s.store a es = false)
    (clean : parts.spoilsDict s.store a es = false) :
    ∃ left, (parts.enterAttrs (.ref a)).exec s =
        (.ok a, { s with store := s.store.write a (.dict left) }) ∧ ∀ e ∈ left, e.2.isText := by
  have entered := exec_enterAttrs parts read
  have here := Store.read?_write_self s.store (.dict (parts.enterAll es)) (Store.lt_of_read? read)
  have all : ∀ e ∈ parts.enterAll es, attrText? e.2 ≠ none := by
    intro e member none
    have kept := List.any_eq_false.mp clean e member
    simp [agrees, none] at kept
  obtain ⟨left, settled, texts⟩ := settleAttrs_all (s := { s with
    store := s.store.write a (.dict (parts.enterAll es)) }) here all
  simp only [Store.write_write] at settled
  rw [agrees, if_neg Bool.false_ne_true, settled] at entered
  exact ⟨left, entered, texts⟩

/-- Attributes that are refused are left as texts or not. -/
theorem enterAttrs_refuses (read : s.store.read? a = some (.dict es))
    (refused : parts.conflicts s.store a es ∨ parts.spoilsDict s.store a es) :
    ∃ left, FailsAt (parts.enterAttrs (.ref a)) s (s.store.write a (.dict left)) ∧
      ((∀ e ∈ left, e.2.isText) ↔ parts.spoilsDict s.store a es = false) := by
  have entered := exec_enterAttrs parts read
  by_cases differs : parts.conflicts s.store a es
  · rw [if_pos differs] at entered
    refine ⟨parts.enterAll es, entered, ?_⟩
    simp [spoilsDict, differs]
  · have spoils := refused.resolve_left differs
    have here := Store.read?_write_self s.store (.dict (parts.enterAll es))
      (Store.lt_of_read? read)
    obtain ⟨e, member, stuck⟩ := List.any_eq_true.mp spoils
    have none : attrText? e.2 = none := by simpa [differs] using stuck
    obtain ⟨left, fails, e', among, other⟩ := settleAttrs_stuck (s := { s with
      store := s.store.write a (.dict (parts.enterAll es)) }) here ⟨e, member, none⟩
    simp only [Store.write_write] at fails
    rw [if_neg differs] at entered
    refine ⟨left, ?_, ?_⟩
    · obtain ⟨fault, st, stops, drains⟩ := fails
      exact ⟨fault, st, entered.trans stops, drains⟩
    · simp only [spoils, Bool.true_eq_false, iff_false]
      exact fun texts => other (texts e' among)

theorem failsAt_enterAttrs (parts : Parts) {attrs : Value}
    (plain : ∀ e, s.store.object? attrs ≠ some (.element e))
    (other : ∀ es, s.store.object? attrs ≠ some (.dict es)) :
    FailsAt (parts.enterAttrs attrs) s s.store := by
  have noItem : ∀ name v, FailsAt (setItem attrs (.text name) v) s s.store := by
    intro name v
    refine .after (exec_getStore s) ?_
    cases attrs with
    | ref a =>
      rcases read : s.store.read? a with _ | o
      · simpa only [read] using failsAt_throw _ s
      · cases o <;> simp only [read] <;>
          first
          | exact failsAt_throw _ s
          | exact absurd read (plain _)
          | exact absurd read (other _)
    | _ => exact failsAt_throw _ s
  have noClass : FailsAt (addClass attrs parts.className) s s.store := by
    refine .bind (.after (exec_getStore s) ?_) _
    split
    · next es dict => exact absurd dict (other es)
    · exact failsAt_throw _ s
  have noText : FailsAt (settleAttrs attrs) s s.store := by
    refine .after (exec_getStore s) ?_
    split
    · next a es dict => exact absurd dict (other es)
    · next a e element => exact absurd element (plain e)
    · exact failsAt_throw _ s
  -- Whichever comes first of attributes by name, a class and the values fails on its own.
  unfold enterAttrs enterClass
  rcases parts.named with _ | ⟨given, named⟩
  · refine .after (exec_pure () s) ?_
    by_cases given : parts.className = .null
    · simpa [given] using noText
    · simpa [given] using noClass.bind _
  · exact ((noItem _ _).bind _).bind _

section Children

variable {c : Addr} {vs : List Value}

/-- All children are added before any of them is turned into a text. -/
theorem exec_enterChildren (read : s.store.read? c = some (.list vs)) :
    (parts.enterChildren c).exec s = (settleChildren c).exec
      { s with store := s.store.write c (.list (vs ++ parts.more)) } := by
  have members : s.store.members c = vs := by simp [Store.members, read]
  unfold enterChildren addChildren
  rw [exec_bind, exec_bind_ok (exec_getStore s), members]
  rfl

/-- Children that are accepted end up as texts and nodes. -/
theorem enterChildren_accepts (read : s.store.read? c = some (.list vs))
    (all : ∀ v ∈ vs ++ parts.more, child? s.store v ≠ none) :
    ∃ left, (parts.enterChildren c).exec s =
        (.ok (), { s with store := s.store.write c (.list left) }) ∧
      ∀ v ∈ left, s.store.isChild v := by
  have inside := Store.lt_of_read? read
  have nodes : s.store.SameNodes (s.store.write c (.list (vs ++ parts.more))) :=
    Store.sameNodes_write read rfl rfl
  obtain ⟨done, each⟩ := replaceUntil_all all
  refine ⟨(replaceUntil (child? s.store) (vs ++ parts.more)).1, ?_, ?_⟩
  · rw [exec_enterChildren read]
    unfold settleChildren
    rw [exec_bind_ok (exec_getStore _)]
    simp only [Store.members_write_self _ _ inside, funext nodes.child?, done]
    rw [exec_bind_ok (exec_write _ _ _), Store.write_write]
    rfl
  · intro v member
    obtain ⟨v', _, settled⟩ := each v member
    exact isChild_of_child? settled

/-- Children that are refused are left with one that cannot be a child. -/
theorem enterChildren_refuses (read : s.store.read? c = some (.list vs))
    (refused : ∃ v ∈ vs ++ parts.more, child? s.store v = none) :
    ∃ left, FailsAt (parts.enterChildren c) s (s.store.write c (.list left)) ∧
      ∃ v ∈ left, ¬ s.store.isChild v := by
  have inside := Store.lt_of_read? read
  have nodes : s.store.SameNodes (s.store.write c (.list (vs ++ parts.more))) :=
    Store.sameNodes_write read rfl rfl
  obtain ⟨v, stuck, among, none⟩ := replaceUntil_stuck refused
  refine ⟨(replaceUntil (child? s.store) (vs ++ parts.more)).1, ?_, v, among, ?_⟩
  · have settles : FailsAt (settleChildren c)
        { s with store := s.store.write c (.list (vs ++ parts.more)) }
        (s.store.write c (.list (replaceUntil (child? s.store) (vs ++ parts.more)).1)) := by
      unfold settleChildren
      refine .after (exec_getStore _) ?_
      simp only [Store.members_write_self _ _ inside, funext nodes.child?, stuck]
      refine .after (exec_write _ _ _) (.after (exec_getStore _) ?_)
      rw [Store.write_write]
      exact (Display.quiet_abbreviated _ v).bind_failsAt (fun _ => failsAt_throw _) _
    obtain ⟨fault, st, stops, drains⟩ := settles
    exact ⟨fault, st, (exec_enterChildren read).trans stops, drains⟩
  · intro fine
    simp [child?_of_isChild fine] at none

end Children

end Parts

theorem exec_childList_list {c : Addr} {vs : List Value} {s : Session}
    (read : s.store.read? c = some (.list vs)) : (childList (.ref c)).exec s = (.ok c, s) := by
  have other : child? s.store (.ref c) = none := by
    simp [child?, Store.isNode, Store.node?, Store.object?, read, attrText?, Value.numberText?]
  unfold childList
  rw [exec_bind_ok (exec_getStore s)]
  simp [other, Store.object?, read]

theorem exec_childList_other {content : Value} {s : Session}
    (other : ∀ vs, s.store.object? content ≠ some (.list vs)) :
    FailsAt (childList content) s s.store ∨ ∃ st vs, s.store.Drains st ∧
      (childList content).exec s = (.ok st.size, { s with store := (st.alloc (.list vs)).2 }) := by
  unfold childList
  by_cases single : (child? s.store content).isSome
  · refine .inr ⟨s.store, [content], .refl _, ?_⟩
    rw [exec_bind_ok (exec_getStore s), if_pos single, exec_allocAt]
  · obtain ⟨r, st, drains, runs⟩ := Quiet.items content s.store
    have gone := runs s rfl
    cases r with
    | error fault =>
      refine .inl ⟨fault, st, ?_, drains⟩
      rw [exec_bind_ok (exec_getStore s), if_neg single]
      split
      · next vs list => exact absurd list (other vs)
      · exact exec_bind_error gone _
    | ok vs =>
      refine .inr ⟨st, vs, drains, ?_⟩
      rw [exec_bind_ok (exec_getStore s), if_neg single]
      split
      · next vs list => exact absurd list (other vs)
      · rw [exec_bind_ok gone, exec_allocAt]

end Node

end TreeQuery
