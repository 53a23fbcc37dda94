import TreeQuery.Proofs.Node.Given
import TreeQuery.Proofs.Node.Stops

/-! What a call that makes a node comes to: which error it stops with, and what is in the session
then, or which node there is, what it holds, and which of it is shared. -/

namespace TreeQuery

namespace Node

open Eval

section Call

variable {s : Session} {parts : Parts} {tag : String} {a c : Addr} {es : Entries} {st st' : Store}
  {xs : List Value}

theorem exec_make_enters (tagged : parts.tag = .text tag) (nonempty : tag ≠ "")
    (holds : Holds s.store parts.attrs a es st) :
    (make parts).exec s = (parts.enterAttrs (.ref a) >>= parts.finish tag).exec
      { s with store := st } := by
  have start : (liftM (checkTag s.store parts.tag) : Eval String).exec s = (.ok tag, s) := by
    rw [tagged, checkTag_text s.store nonempty]
    exact exec_lift _ s
  rw [Parts.make_eq, exec_bind_ok (exec_getStore s), exec_bind_ok start, exec_bind_ok holds.exec]

theorem exec_enterAttrs_written (read : s.store.read? a = some (.dict es))
    (agrees : parts.conflicts s.store a es = false)
    (all : ∀ e ∈ parts.enterAll es, e.2.isTextOrNumber) :
    (parts.enterAttrs (.ref a)).exec s = (.ok a, { s with
      store := s.store.write a
        (.dict ((parts.enterAll es).map fun e => (e.1, e.2.written))) }) := by
  have here := Store.read?_write_self s.store (.dict (parts.enterAll es)) (Store.lt_of_read? read)
  have text : ∀ e ∈ parts.enterAll es, attrText? e.2 ≠ none := by
    intro e member
    simp [attrText?_eq, all e member]
  have entered := Parts.exec_enterAttrs parts read
  have settled := exec_settleAttrs (s := { s with
    store := s.store.write a (.dict (parts.enterAll es)) }) here text
  rw [filterMap_settled? text, settledEntry_eq] at settled
  simp only [Store.write_write] at settled
  rw [agrees, if_neg Bool.false_ne_true, settled] at entered
  exact entered

/-- Of attributes that are refused, those before the first bad one become texts. -/
theorem stopsWith_enterAttrs {before later : Entries} {name : String} {v : Value}
    (read : s.store.read? a = some (.dict es)) (agrees : parts.conflicts s.store a es = false)
    (split : parts.enterAll es = before ++ (.text name, v) :: later)
    (all : ∀ e ∈ before, e.2.isTextOrNumber) (bad : ¬ v.isTextOrNumber) {t : Session}
    (left : t = { s with
      store := s.store.write a (.dict (before.map (fun e => (e.1, e.2.written)) ++
        (.text name, v) :: later)) }) :
    StopsWith .type (attrFault t.store name v) v t (parts.enterAttrs (.ref a)) s := by
  have here := Store.read?_write_self s.store (.dict (parts.enterAll es)) (Store.lt_of_read? read)
  have entered := Parts.exec_enterAttrs parts read
  rw [agrees, if_neg Bool.false_ne_true, split] at entered
  rw [split] at here
  refine (stopsWith_settleAttrs here all bad ?_).congr entered
  rw [left]
  simp only [Store.write_write]

theorem exec_finish_enters (lists : Lists s.store parts.content xs c st') :
    (parts.finish tag a).exec s =
      (settleChildren c >>= fun _ => alloc (.node ⟨tag, a, c⟩)).exec
        { s with store := st'.write c (.list (xs ++ parts.more)) } := by
  have entered : (parts.enterChildren c).exec { s with store := st' } = _ :=
    Parts.exec_enterChildren lists.read
  unfold Parts.finish
  rw [exec_bind_ok lists.exec, exec_bind, entered, ← exec_bind]

end Call

end Node

namespace Store

/-- What is at the address belongs to one node and to no other. -/
def OwnedBy (st : Store) (a r : Addr) : Prop :=
  ∀ b n, st.read? b = some (.node n) → n.attrs = a ∨ n.children = a → b = r

def Anchored (st : Store) : Prop :=
  ∀ b n, st.read? b = some (.node n) → n.attrs < st.size ∧ n.children < st.size

theorem ownedBy_alloc {st st' : Store} {n : Node} {x : Addr} (same : st.SameNodes st')
    (anchored : st.Anchored) (fresh : st.size ≤ x) :
    (st'.alloc (.node n)).2.OwnedBy x st'.size := by
  intro b m node uses
  have inside := lt_of_read? node
  rw [size_alloc] at inside
  rcases Nat.lt_succ_iff_lt_or_eq.mp inside with old | new
  · rw [read?_alloc_of_lt _ _ old] at node
    obtain ⟨attrs, children⟩ := anchored b m ((same b m).mp node)
    rcases uses with rfl | rfl
    · exact absurd attrs (Nat.not_lt.mpr fresh)
    · exact absurd children (Nat.not_lt.mpr fresh)
  · exact new

end Store

namespace Node

open Eval

structure Made (s : Session) (parts : Parts) (tag : String) (attrs : Entries)
    (children : List Value) (st : Store) (r a c : Addr) : Prop where
  node : st.node? (.ref r) = some ⟨tag, a, c⟩
  attrs : st.read? a = some (.dict (attrs.map fun e => (e.1, e.2.written)))
  children : st.read? c = some (.list (children.map Value.written))
  new : s.store.size ≤ r
  attrsGiven (b : Addr) : parts.attrs = .ref b → a = b
  attrsNew : parts.attrs = .null → s.store.size ≤ a ∧ (s.store.Anchored → st.OwnedBy a r)
  listGiven (b : Addr) (vs : List Value) :
    parts.content = .ref b → s.store.read? b = some (.list vs) → c = b
  listNew : (∀ vs, s.store.object? parts.content ≠ some (.list vs)) →
    s.store.size ≤ c ∧ (s.store.Anchored → st.OwnedBy c r)

section Call

variable {s : Session} {parts : Parts} {tag : String} {a c : Addr} {es A : Entries} {st st' : Store}
  {xs C : List Value}

theorem sameNodes_listed {fs : Entries} (holds : Holds s.store parts.attrs a es st)
    (lists : Lists (st.write a (.dict fs)) parts.content xs c st') (vs : List Value) :
    s.store.SameNodes (st'.write c (.list vs)) := fun b n =>
  (Store.sameNodes_write lists.read rfl rfl b n).trans
    ((lists.sameNodes b n).trans (holds.sameNodes_write _ b n))

theorem made_of_stages (holds : Holds s.store parts.attrs a es st)
    (lists : Lists (st.write a (.dict (A.map fun e => (e.1, e.2.written)))) parts.content xs c
      st') :
    Made s parts tag A C ((st'.write c (.list (C.map Value.written))).alloc
      (.node ⟨tag, a, c⟩)).2 st'.size a c := by
  have dict := lists.read?_dict (Store.read?_write_self st
    (.dict (A.map fun e => (e.1, e.2.written))) (Store.lt_of_read? holds.read))
  have list := lists.read
  -- The children are written behind the attributes, so they must not be at the same address.
  have apart : c ≠ a := by
    rintro rfl
    cases list.symm.trans dict
  have older := holds.size_le
  have later := lists.size_le
  rw [Store.size_write] at later
  have made := Store.read?_alloc_self (st'.write c (.list (C.map Value.written)))
    (.node ⟨tag, a, c⟩)
  have owned (x : Addr) (fresh : s.store.size ≤ x) (anchored : s.store.Anchored) :=
    Store.ownedBy_alloc (n := ⟨tag, a, c⟩) (sameNodes_listed holds lists (C.map Value.written))
      anchored fresh
  rw [Store.alloc, Store.size_write] at made
  rw [Store.size_write] at owned
  constructor
  · exact Store.node?_eq_some.mpr made
  · exact Store.grows_alloc _ _ a _ ((Store.read?_write_of_ne st' _ apart).trans dict)
  · exact Store.grows_alloc _ _ c _ (Store.read?_write_self st' _ (Store.lt_of_read? list))
  · omega
  · intro b given
    rw [given] at holds
    exact holds.eq_of_ref
  · intro none
    have fresh : s.store.size ≤ a := by
      rw [none] at holds
      exact Nat.le_of_eq holds.eq_of_null.symm
    exact ⟨fresh, owned a fresh⟩
  · intro b vs given read
    rw [given] at lists
    exact lists.eq_of_list ((holds.read?_iff _ (by simp)).mpr read)
  · intro other
    have fresh : s.store.size ≤ c := by
      rcases lists.given_or_new with ⟨same, vs, read⟩ | ⟨_, fresh⟩
      · rw [same] at other
        exact absurd ((holds.read?_iff _ (by simp)).mp read) (other vs)
      · rw [Store.size_write] at fresh
        exact Nat.le_trans older fresh
    exact ⟨fresh, owned c fresh⟩

/-- A call whose class differs is refused with the attributes entered as they are. -/
theorem make_stopsWith_class {cl : Option String} (tagged : parts.tag = .text tag)
    (nonempty : tag ≠ "") (given : parts.className = cl.elim .null .text)
    (holds : Holds s.store parts.attrs a es st) (differ : parts.ClassDiffers cl es) :
    ∃ c present, cl = some c ∧ Store.under? (parts.enterAll es) "class" = some present ∧
      StopsWith .value (fun shown => .classConflict shown (Text.quote c)) present
        { s with store := st.write a (.dict (parts.enterAll es)) } (make parts) s := by
  obtain ⟨c, rfl, differ⟩ := differ
  obtain ⟨present, there, stops⟩ :=
    Parts.stopsWith_class (s := { s with store := st }) given holds.read differ
  exact ⟨c, present, rfl, there,
    (stops.bind _).congr (exec_make_enters tagged nonempty holds)⟩

/-- Without such a class, the first attribute value that is neither text nor number is refused. -/
theorem make_stopsWith_attr {before later : Entries} {name : String} {v : Value}
    (tagged : parts.tag = .text tag) (nonempty : tag ≠ "")
    (holds : Holds s.store parts.attrs a es st) (agrees : parts.conflicts st a es = false)
    (split : parts.enterAll es = before ++ (.text name, v) :: later)
    (all : ∀ e ∈ before, e.2.isTextOrNumber) (bad : ¬ v.isTextOrNumber) {t : Session}
    (left : t = { s with
      store := st.write a (.dict (before.map (fun e => (e.1, e.2.written)) ++
        (.text name, v) :: later)) }) :
    StopsWith .type (attrFault t.store name v) v t (make parts) s :=
  ((stopsWith_enterAttrs (s := { s with store := st }) holds.read agrees split all bad left).bind
    _).congr (exec_make_enters tagged nonempty holds)

section Accepted

variable (tagged : parts.tag = .text tag) (nonempty : tag ≠ "")
  (holds : Holds s.store parts.attrs a es st) (agrees : parts.conflicts st a es = false)
  (texts : ∀ e ∈ parts.enterAll es, e.2.isTextOrNumber)
  (lists : Lists (st.write a (.dict ((parts.enterAll es).map fun e => (e.1, e.2.written))))
    parts.content xs c st')

include tagged nonempty holds agrees texts lists

/-- With the attributes accepted, it is for the children to be. -/
theorem exec_make_settles :
    (make parts).exec s = (settleChildren c >>= fun _ => alloc (.node ⟨tag, a, c⟩)).exec
      { s with store := st'.write c (.list (xs ++ parts.more)) } := by
  have entered := exec_enterAttrs_written (s := { s with store := st }) holds.read agrees texts
  rw [exec_make_enters tagged nonempty holds, exec_bind_ok entered]
  exact exec_finish_enters (s := { s with store := st.write a _ }) lists

/-- The first child that is neither text, number nor node is refused. -/
theorem make_stopsWith_child {first rest : List Value} {v : Value}
    (split : xs ++ parts.more = first ++ v :: rest)
    (all : ∀ w ∈ first, s.store.isNode w || w.isTextOrNumber)
    (bad : ¬ (s.store.isNode v || v.isTextOrNumber)) {t : Session}
    (left : t = { s with
      store := st'.write c (.list (first.map Value.written ++ v :: rest)) }) :
    StopsWith .type (childFault t.store v) v t (make parts) s := by
  have nodes := sameNodes_listed holds lists (xs ++ parts.more)
  have here := Store.read?_write_self st' (.list (xs ++ parts.more))
    (Store.lt_of_read? lists.read)
  rw [split] at here nodes
  rw [← nodes.isNode] at bad
  simp only [← nodes.isNode] at all
  have stops := stopsWith_settleChildren (s := { s with
    store := st'.write c (.list (first ++ v :: rest)) }) (t := t) here all bad
    (by rw [left, Store.write_write])
  exact (stops.bind _).congr
    (split ▸ exec_make_settles tagged nonempty holds agrees texts lists)

/-- With the children accepted too, the node is made. -/
theorem exec_make_made (good : ∀ v ∈ xs ++ parts.more, s.store.isNode v || v.isTextOrNumber) :
    (make parts).exec s = (.ok (.ref st'.size), { s with
      store := ((st'.write c (.list ((xs ++ parts.more).map Value.written))).alloc
        (.node ⟨tag, a, c⟩)).2 }) := by
  have nodes := sameNodes_listed holds lists (xs ++ parts.more)
  have here := Store.read?_write_self st' (.list (xs ++ parts.more))
    (Store.lt_of_read? lists.read)
  simp only [← nodes.isNode] at good
  have settled := exec_settleChildren_written (s := { s with
    store := st'.write c (.list (xs ++ parts.more)) }) here good
  simp only [Store.write_write] at settled
  rw [exec_make_settles tagged nonempty holds agrees texts lists, exec_bind_ok settled, exec_alloc,
    Store.size_write]

end Accepted

/-- What a call comes to, which is one of four things. `a` is the dictionary with the attributes
`es` that are given, in the store `st`, and `xs` are the children that are given. -/
structure Outcome (s : Session) (parts : Parts) (tag : String) (cl : Option String) (a : Addr)
    (es : Entries) (st : Store) (xs : List Value) : Prop where
  /-- The class that is given differs from the one among all attributes, which are then entered as
  they are. -/
  conflict : parts.ClassDiffers cl es → ∃ c present, cl = some c ∧
    Store.under? (parts.enterAll es) "class" = some present ∧
    StopsWith .value (fun shown => .classConflict shown (Text.quote c)) present
      { s with store := st.write a (.dict (parts.enterAll es)) } (make parts) s
  /-- Or some attribute is neither text nor number. Those before the first are then texts. -/
  badAttr : ¬ parts.ClassDiffers cl es → (∃ e ∈ parts.enterAll es, ¬ e.2.isTextOrNumber) →
    ∃ before name v later t, parts.enterAll es = before ++ (.text name, v) :: later ∧
      (∀ e ∈ before, e.2.isTextOrNumber) ∧ ¬ v.isTextOrNumber ∧
      t = { s with store := st.write a (.dict (before.map (fun e => (e.1, e.2.written)) ++
        (.text name, v) :: later)) } ∧
      StopsWith .type (attrFault t.store name v) v t (make parts) s
  /-- Or all are, and some child is neither that nor a node. Those before the first are then
  texts and nodes, and all attributes are texts. -/
  badChild : ¬ parts.ClassDiffers cl es → (∀ e ∈ parts.enterAll es, e.2.isTextOrNumber) →
    (∃ v ∈ xs ++ parts.more, ¬ (s.store.isNode v || v.isTextOrNumber)) →
    ∃ c st' first v rest t,
      Lists (st.write a (.dict ((parts.enterAll es).map fun e => (e.1, e.2.written))))
        parts.content xs c st' ∧
      xs ++ parts.more = first ++ v :: rest ∧
      (∀ w ∈ first, s.store.isNode w || w.isTextOrNumber) ∧
      ¬ (s.store.isNode v || v.isTextOrNumber) ∧
      t = { s with store := st'.write c (.list (first.map Value.written ++ v :: rest)) } ∧
      StopsWith .type (childFault t.store v) v t (make parts) s
  /-- Or a node is made with all attributes and children in order, the numbers among them as
  texts. -/
  made : ¬ parts.ClassDiffers cl es → (∀ e ∈ parts.enterAll es, e.2.isTextOrNumber) →
    (∀ v ∈ xs ++ parts.more, s.store.isNode v || v.isTextOrNumber) →
    ∃ r c st', (make parts).exec s = (.ok (.ref r), { s with store := st' }) ∧
      Made s parts tag (parts.enterAll es) (xs ++ parts.more) st' r a c

/-- A call with a tag looks at the class first, then at the values of all attributes, and then at
all children. What stops it is an error of its class, or else showing what the error tells. -/
theorem class_then_attrs_then_children {cl : Option String} (tagged : parts.tag = .text tag)
    (nonempty : tag ≠ "") (given : parts.className = cl.elim .null .text)
    (holds : Holds s.store parts.attrs a es st) (keys : ∀ e ∈ es, e.1.isText)
    (gives : Gives s.store parts.content xs) : Outcome s parts tag cl a es st xs := by
  have agrees : ¬ parts.ClassDiffers cl es → parts.conflicts st a es = false := by
    intro same
    rw [← Bool.not_eq_true, Parts.conflicts_iff given]
    exact same
  obtain ⟨c, st', lists⟩ := (holds.gives ((parts.enterAll es).map fun e =>
    (e.1, e.2.written)) gives).exists_lists
  constructor
  · exact make_stopsWith_class tagged nonempty given holds
  · intro same spoilt
    obtain ⟨before, ⟨key, v⟩, later, split, all, bad⟩ := exists_first_bad spoilt
    have isText := Parts.isText_key_enterAll parts keys (key, v) (by simp [split])
    obtain ⟨name, rfl⟩ := Value.eq_text_of_isText isText
    exact ⟨before, name, v, later, _, split, all, bad, rfl,
      make_stopsWith_attr tagged nonempty holds (agrees same) split all bad rfl⟩
  · intro same texts spoilt
    obtain ⟨first, v, rest, split, all, bad⟩ := exists_first_bad spoilt
    exact ⟨c, st', first, v, rest, _, lists, split, all, bad, rfl,
      make_stopsWith_child tagged nonempty holds (agrees same) texts lists split all bad rfl⟩
  · intro same texts good
    exact ⟨_, c, _, exec_make_made tagged nonempty holds (agrees same) texts lists good,
      made_of_stages holds lists⟩

def iteratorGiven : Session where
  store := ⟨#[.dict [(.text "x", .int 1)], .iterator [.text "t", .int 2]], 0⟩

def iteratorCall : Parts :=
  ⟨.text "a", .ref 0, [("data_y", .text "z")], .text "c", .ref 1, [.int 3]⟩

theorem iteratorCall_makes_node :
    (iteratorCall.tag = .text "a" ∧ "a" ≠ "" ∧
        iteratorCall.className = (some "c").elim .null .text ∧
        Holds iteratorGiven.store iteratorCall.attrs 0 [(.text "x", .int 1)]
          iteratorGiven.store ∧
        (∀ e ∈ ([(.text "x", .int 1)] : Entries), e.1.isText) ∧
        Gives iteratorGiven.store iteratorCall.content [.text "t", .int 2]) ∧
      ∃ r c st', (make iteratorCall).exec iteratorGiven =
          (.ok (.ref r), { iteratorGiven with store := st' }) ∧
        Made iteratorGiven iteratorCall "a"
          [(.text "x", .int 1), (.text "data-y", .text "z"), (.text "class", .text "c")]
          [.text "t", .int 2, .int 3] st' r 0 c := by
  have holds : Holds iteratorGiven.store iteratorCall.attrs 0 [(.text "x", .int 1)]
      iteratorGiven.store := .given rfl
  have gives : Gives iteratorGiven.store iteratorCall.content [.text "t", .int 2] := .iterator rfl
  have all : iteratorCall.enterAll [(.text "x", .int 1)] =
      [(.text "x", .int 1), (.text "data-y", .text "z"), (.text "class", .text "c")] := by
    decide +kernel
  have outcome : Outcome iteratorGiven iteratorCall "a" (some "c") 0 [(.text "x", .int 1)]
      iteratorGiven.store [.text "t", .int 2] :=
    class_then_attrs_then_children rfl (by decide) rfl holds (by decide) gives
  refine ⟨⟨rfl, by decide, rfl, holds, by decide, gives⟩, ?_⟩
  have made := outcome.made
  rw [all] at made
  refine made ?_ (by decide) (by decide)
  rintro ⟨c, same, differ⟩
  cases same
  rw [all] at differ
  exact differ (by decide)

end Call

end Node

end TreeQuery
