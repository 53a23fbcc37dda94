import TreeQuery.Proofs.Display.Node
import TreeQuery.Proofs.Query.Trace
import TreeQuery.Proofs.Search.Children

/-! Queries of scalar steps as paths. At each level the first child node that meets the step is
taken and none is tried after it, so that a query finds the end of the least path of all that meet
the steps, or nothing. -/

namespace TreeQuery

open Eval

structure Ask where
  selector : String
  value : String
  deriving DecidableEq, Repr

namespace Ask

def step (k : Ask) : Step := .scalar (.text k.selector) (.text k.value)

def MetBy (k : Ask) (st : Store) (a : Addr) : Prop :=
  if k.selector = "tag" then st.HasTag k.value a else st.HasAttr k.selector k.value a

def test (k : Ask) (st : Store) : Criterion :=
  if k.selector = "tag" then .tagged k.value else .attrIs st (.text k.selector) (.text k.value)

theorem tells (k : Ask) {st : Store} {a : Addr} (formed : st.Formed a) :
    st.Tells a (k.test st) (k.MetBy st) := by
  unfold test MetBy
  split
  · exact st.tells_tagged a k.value
  · exact Store.tells_attrIs formed k.selector k.value

theorem selectChild_node (k : Ask) {st : Store} {a : Addr} (isNode : st.isNode (.ref a)) :
    st.selectChild (.text k.selector) (.text k.value) (.ref a) =
      foundValue <$> firstWhere (k.test st) (st.childNodes (.ref a)) := by
  by_cases tag : k.selector = "tag"
  · have selector : Value.text k.selector = Step.tagSelector := by rw [tag]; rfl
    rw [Store.selectChild, if_pos selector, test, if_pos tag, Store.childTagged_eq isNode]
    rfl
  · have selector : Value.text k.selector ≠ Step.tagSelector :=
      fun same => tag (Value.text.inj same)
    rw [Store.selectChild, if_neg selector, test, if_neg tag, Store.childWithAttr]
    rfl

theorem selectChild_other (k : Ask) {st : Store} {v : Value} (other : st.node? v = none) :
    st.selectChild (.text k.selector) (.text k.value) v = .ok .null := by
  have none : st.childNodes v = [] := by simp [Store.childNodes, other]
  have plain : ¬ st.isNode v := by simp [Store.isNode, other]
  unfold Store.selectChild
  split
  · rw [Store.childTagged, if_neg plain]
    rfl
  · rw [Store.childWithAttr, none]
    rfl

end Ask

/-- A way down from a node: an index for each step, by which a child is chosen. -/
inductive Along (chosen : Ask → Addr → Nat → Addr → Prop) :
    List Ask → Addr → List Nat → Addr → Prop
  | here (a : Addr) : Along chosen [] a [] a
  | down {k : Ask} {ks : List Ask} {a b c : Addr} {i : Nat} {path : List Nat}
      (first : chosen k a i b) (rest : Along chosen ks b path c) :
      Along chosen (k :: ks) a (i :: path) c

theorem Along.length_eq {chosen : Ask → Addr → Nat → Addr → Prop} {ks : List Ask} {a b : Addr}
    {path : List Nat} (along : Along chosen ks a path b) : path.length = ks.length := by
  induction along with
  | here a => rfl
  | down first rest ih => simp [ih]

namespace Store

def Leads (st : Store) : List Ask → Addr → List Nat → Addr → Prop :=
  Along fun k a i b => st.ChildAt a i b ∧ k.MetBy st b

/-- An index path along which every index is the least of a child node that meets its step. -/
def LeadsFirst (st : Store) : List Ask → Addr → List Nat → Addr → Prop :=
  Along fun k a i b => st.FirstChild (k.MetBy st) a i b

/-- The nodes whose children a query looks at: the root, and what it finds before its last step. -/
inductive Visits (st : Store) : List Ask → Addr → Addr → Prop
  | top (k : Ask) (ks : List Ask) (a : Addr) : Visits st (k :: ks) a a
  | under {k : Ask} {ks : List Ask} {a b c : Addr} {i : Nat}
      (first : st.FirstChild (k.MetBy st) a i b) (rest : Visits st ks b c) :
      Visits st (k :: ks) a c

/-- The child nodes of a node are the same in two stores, with the same tags and attributes. What
stands below them may differ, and so may its texts. -/
structure SameChildren (st st' : Store) (a : Addr) : Prop where
  childAt (i : Nat) (b : Addr) : st'.ChildAt a i b ↔ st.ChildAt a i b
  view (b : Addr) : st.Parent a b → st'.view? (.ref b) = st.view? (.ref b)

variable {st st' : Store} {k : Ask} {ks : List Ask} {a b c : Addr} {path path' : List Nat}

theorem LeadsFirst.unique (first : st.LeadsFirst ks a path b)
    (second : st.LeadsFirst ks a path' c) : path = path' ∧ b = c := by
  induction first generalizing path' with
  | here a =>
    cases second
    exact ⟨rfl, rfl⟩
  | down child rest ih =>
    cases second with
    | down child' rest' =>
      obtain ⟨rfl, rfl⟩ := child.unique child'
      obtain ⟨rfl, rfl⟩ := ih rest'
      exact ⟨rfl, rfl⟩

/-- Where the paths part, the one along the first children has the smaller index. -/
theorem LeadsFirst.least (first : st.LeadsFirst ks a path b) (other : st.Leads ks a path' c) :
    path = path' ∨ List.Lex (· < ·) path path' := by
  induction first generalizing path' with
  | here a =>
    cases other
    exact .inl rfl
  | @down k ks a b c i path child rest ih =>
    cases other with
    | @down _ _ _ d _ j path' child' rest' =>
      obtain ⟨at_, met, least⟩ := child
      obtain ⟨at', met'⟩ := child'
      have notBefore : ¬ j < i := fun lt => least j d lt at' met'
      rcases Nat.lt_or_ge i j with before | notBehind
      · exact .inr (.rel before)
      · have same : i = j := by omega
        subst same
        obtain rfl := at_.unique at'
        rcases ih rest' with rfl | before
        · exact .inl rfl
        · exact .inr (.cons before)

theorem metBy_congr (view : st'.view? (.ref b) = st.view? (.ref b)) :
    k.MetBy st' b ↔ k.MetBy st b := by
  have tag_iff : ∀ st : Store, ∀ tag,
      st.HasTag tag b ↔ ∃ m ∈ st.view? (.ref b), m.tag = tag := by
    intro st tag
    simp [HasTag, view?, viewOf]
  have attr_iff : ∀ st : Store, ∀ name wanted, st.HasAttr name wanted b ↔
      ∃ m ∈ st.view? (.ref b), ∃ text, under? m.attrs name = some (.text text) ∧
        Text.trim text = wanted := by
    intro st name wanted
    simp [HasAttr, view?, viewOf]
  unfold Ask.MetBy
  split
  · rw [tag_iff, tag_iff, view]
  · rw [attr_iff, attr_iff, view]

theorem SameChildren.firstChild_iff (same : st.SameChildren st' a) (i : Nat) (b : Addr) :
    st'.FirstChild (k.MetBy st') a i b ↔ st.FirstChild (k.MetBy st) a i b := by
  have met : ∀ j c, st.ChildAt a j c → (k.MetBy st' c ↔ k.MetBy st c) := fun j c child =>
    metBy_congr (same.view c (parent_iff_childAt.mpr ⟨j, child⟩))
  unfold FirstChild
  rw [same.childAt]
  refine and_congr_right fun child => and_congr (met i b child) ?_
  constructor
  · intro least j c lt child' met'
    exact least j c lt ((same.childAt j c).mpr child') ((met j c child').mpr met')
  · intro least j c lt child' met'
    have child'' := (same.childAt j c).mp child'
    exact least j c lt child'' ((met j c child'').mp met')

/-- The path along the first children depends on the children of the nodes on it, and on nothing
else in the tree. -/
theorem leadsFirst_congr (same : ∀ c, st.Visits ks a c → st.SameChildren st' c) :
    st'.LeadsFirst ks a path b ↔ st.LeadsFirst ks a path b := by
  induction ks generalizing a path with
  | nil => constructor <;> intro along <;> cases along <;> exact .here _
  | cons k ks ih =>
    have top := same a (.top k ks a)
    constructor
    · intro along
      cases along with
      | down first rest =>
        have first := (top.firstChild_iff _ _).mp first
        exact .down first ((ih fun c visits => same c (.under first visits)).mp rest)
    · intro along
      cases along with
      | down first rest =>
        have later := (ih fun c visits => same c (.under first visits)).mpr rest
        exact .down ((top.firstChild_iff _ _).mpr first) later

def ComesTo (st : Store) (ks : List Ask) (a : Addr) (v : Value) : Prop :=
  (∃ path b, st.LeadsFirst ks a path b ∧ v = .ref b) ∨
    (¬ ∃ path b, st.LeadsFirst ks a path b) ∧ v = .null

namespace ComesTo

variable {v w : Value}

theorem unique (first : st.ComesTo ks a v) (second : st.ComesTo ks a w) : v = w := by
  rcases first with ⟨path, b, along, rfl⟩ | ⟨stuck, rfl⟩
  · rcases second with ⟨path', c, along', rfl⟩ | ⟨stuck', _⟩
    · rw [(along.unique along').2]
    · exact absurd ⟨path, b, along⟩ stuck'
  · rcases second with ⟨path', c, along', _⟩ | ⟨_, rfl⟩
    · exact absurd ⟨path', c, along'⟩ stuck
    · rfl

theorem eq_ref_iff (comes : st.ComesTo ks a v) :
    v = .ref b ↔ ∃ path, st.LeadsFirst ks a path b := by
  constructor
  · rintro rfl
    rcases comes with ⟨path, c, along, same⟩ | ⟨_, none⟩
    · cases same
      exact ⟨path, along⟩
    · cases none
  · rintro ⟨path, along⟩
    exact comes.unique (.inl ⟨path, b, along, rfl⟩)

theorem eq_null_iff (comes : st.ComesTo ks a v) :
    v = .null ↔ ¬ ∃ path b, st.LeadsFirst ks a path b := by
  constructor
  · rintro rfl
    rcases comes with ⟨path, c, _, none⟩ | ⟨stuck, _⟩
    · cases none
    · exact stuck
  · intro stuck
    exact comes.unique (.inr ⟨stuck, rfl⟩)

theorem cons {i : Nat} (first : st.FirstChild (k.MetBy st) a i b) (comes : st.ComesTo ks b v) :
    st.ComesTo (k :: ks) a v := by
  rcases comes with ⟨path, c, rest, is⟩ | ⟨stuck, is⟩
  · exact .inl ⟨i :: path, c, .down first rest, is⟩
  · refine .inr ⟨?_, is⟩
    rintro ⟨path, c, along⟩
    cases along with
    | down first' rest =>
      obtain ⟨rfl, rfl⟩ := first.unique first'
      exact stuck ⟨_, c, rest⟩

theorem of_none (none : ∀ b, st.Parent a b → ¬ k.MetBy st b) :
    st.ComesTo (k :: ks) a .null := by
  refine .inr ⟨?_, rfl⟩
  rintro ⟨path, c, along⟩
  cases along with
  | down first _ => exact none _ (parent_iff_childAt.mpr ⟨_, first.1⟩) first.2.1

end ComesTo

end Store

namespace Ask

variable {k : Ask} {s : Session} {a : Addr}

theorem carryOut_node (call : Caller) (k : Ask) (formed : s.store.Formed a) :
    (∃ i b, s.store.FirstChild (k.MetBy s.store) a i b ∧
      (k.step.carryOut call (.ref a)).exec s = (.ok (.ref b), s)) ∨
    ((∀ b, s.store.Parent a b → ¬ k.MetBy s.store b) ∧
      (k.step.carryOut call (.ref a)).exec s = (.ok .null, s)) := by
  have runs : (k.step.carryOut call (.ref a)).exec s =
      (foundValue <$> firstWhere (k.test s.store) (s.store.childNodes (.ref a)), s) := by
    rw [← k.selectChild_node formed.isNode, step, Step.exec_carryOut_scalar]
  rcases (k.tells formed).among_children with ⟨i, b, n, first, _, found⟩ | ⟨none, nothing⟩
  · exact .inl ⟨i, b, first, by rw [runs, found]; rfl⟩
  · exact .inr ⟨none, by rw [runs, nothing]; rfl⟩

theorem carryOut_other (call : Caller) (k : Ask) {v : Value} (other : s.store.node? v = none) :
    (k.step.carryOut call v).exec s = (.ok .null, s) := by
  rw [step, Step.exec_carryOut_scalar, selectChild_other k other]

end Ask

theorem shows_formed {s : Session} {a : Addr} (formed : s.store.Formed a) : Shows (.ref a) s :=
  exec_display_formed formed

theorem shows_null (s : Session) : Shows .null s := ⟨_, rfl⟩

namespace Query

variable {s : Session} {ks : List Ask} {a : Addr}

theorem exec_tell_ask (traced : Bool) (k : Ask) {v : Value} (shows : Shows v s) :
    ∃ log, (tell traced k.step v).exec s = (.ok (), { s with log := log }) := by
  cases traced with
  | false => exact ⟨s.log, rfl⟩
  | true =>
    have texts : (Value.text k.selector).isText ∧ (Value.text k.value).isText := ⟨rfl, rfl⟩
    obtain ⟨text, told⟩ := Display.exec_scalarText texts.1 texts.2 s
    obtain ⟨result, shown⟩ := shows.abbreviated
    have line : (Moment.mk k.step v s).Line ("descend: " ++ text ++ " -> " ++ result ++ "\n") :=
      ⟨text, result, told, shown, rfl⟩
    exact ⟨_, exec_record line s.log⟩

theorem exec_compose_null (call : Caller) (traced : Bool) (ks : List Ask) (s : Session) :
    ∃ log, (compose call traced (ks.map Ask.step) .null).exec s =
      (.ok .null, { s with log := log }) := by
  induction ks generalizing s with
  | nil => exact ⟨s.log, rfl⟩
  | cons k ks ih =>
    obtain ⟨log, told⟩ := exec_tell_ask traced k (shows_null s)
    obtain ⟨log', later⟩ := ih { s with log := log }
    refine ⟨log', ?_⟩
    rw [List.map_cons, compose_cons, exec_bind_ok (k.carryOut_other call rfl), exec_bind_ok told,
      later]

/-- Scalar steps lead along the first children, or come to nothing where there is none. -/
theorem exec_compose_asks (call : Caller) (traced : Bool) (ks : List Ask)
    (formed : s.store.Formed a) :
    ∃ v log, (compose call traced (ks.map Ask.step) (.ref a)).exec s =
        (.ok v, { s with log := log }) ∧ s.store.ComesTo ks a v := by
  induction ks generalizing a s with
  | nil => exact ⟨.ref a, s.log, rfl, .inl ⟨[], a, .here a, rfl⟩⟩
  | cons k ks ih =>
    rw [List.map_cons, compose_cons]
    rcases k.carryOut_node call formed with ⟨i, b, first, found⟩ | ⟨none, nothing⟩
    · have edge := Store.parent_iff_childAt.mpr ⟨i, first.1⟩
      have below := formed.below (.single edge)
      obtain ⟨log, told⟩ := exec_tell_ask traced k (shows_formed below)
      obtain ⟨v, log', later, comes⟩ := ih (s := { s with log := log }) below
      exact ⟨v, log', by rw [exec_bind_ok found, exec_bind_ok told, later], comes.cons first⟩
    · obtain ⟨log, told⟩ := exec_tell_ask traced k (shows_null s)
      obtain ⟨log', later⟩ := exec_compose_null call traced ks { s with log := log }
      exact ⟨.null, log', by rw [exec_bind_ok nothing, exec_bind_ok told, later], .of_none none⟩

/-- What a query of scalar steps gives on a root: the node at the end of the path along the first
children that meet the steps, or nothing if there is no such path. -/
structure FollowsFirst (call : Caller) (q : Query) (ks : List Ask) (root : Addr) (s : Session)
    (v : Value) : Prop where
  node (b : Addr) : v = .ref b ↔ ∃ path, s.store.LeadsFirst ks root path b
  nothing : v = .null ↔ ¬ ∃ path b, s.store.LeadsFirst ks root path b
  unique (path path' : List Nat) (b b' : Addr) : s.store.LeadsFirst ks root path b →
    s.store.LeadsFirst ks root path' b' → path = path' ∧ b = b'
  level (path : List Nat) (b : Addr) :
    s.store.LeadsFirst ks root path b → path.length = ks.length
  least (path path' : List Nat) (b b' : Addr) : s.store.LeadsFirst ks root path b →
    s.store.Leads ks root path' b' → path = path' ∨ List.Lex (· < ·) path path'
  /-- No other branch of the tree is tried: one that differs elsewhere makes no difference. -/
  confined (s' : Session) : s'.store.Formed root →
    (∀ a, s.store.Visits ks root a → s.store.SameChildren s'.store a) →
      ((q.run call (.ref root)).exec s').1 = .ok v

/-- On the root of a well-formed tree, a query of scalar steps follows the first children. -/
theorem scalar_query_follows_first (call : Caller) (q : Query) (ks : List Ask)
    (asks : q.steps = ks.map Ask.step) (root : Addr) (s : Session)
    (formed : s.store.Formed root) :
    ∃ v log, (q.run call (.ref root)).exec s = (.ok v, { s with log := log }) ∧
      FollowsFirst call q ks root s v := by
  have runs : ∀ t, (q.run call (.ref root)).exec t =
      (compose call q.traced (ks.map Ask.step) (.ref root)).exec t := by
    intro t
    rw [run, asks]
  obtain ⟨v, log, done, comes⟩ := exec_compose_asks call q.traced ks formed
  refine ⟨v, log, (runs s).trans done, ?_⟩
  constructor
  · exact fun _ => comes.eq_ref_iff
  · exact comes.eq_null_iff
  · exact fun _ _ _ _ => Store.LeadsFirst.unique
  · exact fun _ _ along => along.length_eq
  · exact fun _ _ _ _ => Store.LeadsFirst.least
  · intro s' formed' same
    obtain ⟨v', log', done', comes'⟩ := exec_compose_asks call q.traced ks formed'
    have comes'' : s.store.ComesTo ks root v' := by
      simpa only [Store.ComesTo, Store.leadsFirst_congr same] using comes'
    rw [runs, done', comes.unique comes'']

def secondBranch : List Ask := [⟨"tag", "b"⟩, ⟨"tag", "d"⟩]

def onBranching : Session where
  store := .branching

theorem secondBranch_is_not_tried :
    onBranching.store.Formed 14 ∧ onBranching.store.Leads secondBranch 14 [2, 0] 8 ∧
      ((run (Function.caller Eval.call) ⟨secondBranch.map Ask.step, 0, .bool true, true⟩
        (.ref 14)).exec onBranching).1 = .ok .null ∧
      ∃ v log, (run (Function.caller Eval.call)
          ⟨secondBranch.map Ask.step, 0, .bool true, true⟩ (.ref 14)).exec onBranching =
          (.ok v, { onBranching with log := log }) ∧
        FollowsFirst (Function.caller Eval.call)
          ⟨secondBranch.map Ask.step, 0, .bool true, true⟩ secondBranch 14 onBranching v := by
  refine ⟨Store.formed_branching, ?_, ?_, ?_⟩
  · refine .down ⟨⟨_, rfl, rfl, rfl⟩, ⟨_, rfl, rfl⟩⟩ (.down ⟨⟨_, rfl, rfl, rfl⟩, ⟨_, rfl, rfl⟩⟩ ?_)
    exact .here 8
  · decide +kernel
  · exact scalar_query_follows_first _ _ secondBranch rfl 14 onBranching Store.formed_branching

end Query

end TreeQuery
