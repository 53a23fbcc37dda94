import TreeQuery.Proofs.Search.Children

/-! Searches among the children of any node, whatever has been put among its children. They go over
the child nodes in order, and what they find depends on these alone, up to the one that decides. -/

namespace TreeQuery

section Scanning

variable {test other : Criterion} {ns ms : List NodeView}

theorem allWhere_ok {p : NodeView → Bool} (answers : ∀ n, test n = .ok (p n)) :
    allWhere test ns = .ok (ns.filter p) := by
  induction ns with
  | nil => rfl
  | cons n ns ih =>
    rw [allWhere, answers, ih]
    by_cases met : p n = true <;> simp [met, bind, Except.bind, pure, Except.pure]

theorem firstWhere_ok {p : NodeView → Bool} (answers : ∀ n, test n = .ok (p n)) :
    firstWhere test ns = .ok (ns.filter p).head? := by
  induction ns with
  | nil => rfl
  | cons n ns ih =>
    rw [firstWhere, answers, ih]
    by_cases met : p n = true <;> simp [met, bind, Except.bind, pure, Except.pure]

theorem foundValue_firstWhere {rest rest' : List NodeView}
    (alike : List.Forall₂ (fun n m => m.id = n.id ∧ other m = test n) ns ms)
    (settled : (∃ n ∈ ns, test n ≠ .ok false) ∨ rest = [] ∧ rest' = []) :
    (firstWhere other (ms ++ rest')).map foundValue =
      (firstWhere test (ns ++ rest)).map foundValue := by
  induction alike with
  | nil =>
    rcases settled with ⟨_, member, _⟩ | ⟨rfl, rfl⟩
    · cases member
    · rfl
  | @cons n m ns ms same _ ih =>
    obtain ⟨id, answer⟩ := same
    rw [List.cons_append, List.cons_append, firstWhere, firstWhere, answer]
    rcases told : test n with fault | met
    · rfl
    · cases met with
      | true => simp [bind, Except.bind, pure, Except.pure, Except.map, foundValue, id]
      | false =>
        refine ih (settled.imp_left ?_)
        rintro ⟨k, member, decides⟩
        rcases List.mem_cons.mp member with rfl | later
        · exact absurd told decides
        · exact ⟨k, later, decides⟩

theorem map_id_filter (alike : List.Forall₂ (fun n m => m.id = n.id ∧ m.tag = n.tag) ns ms)
    (tag : String) :
    (ms.filter (·.tag == tag)).map (·.id) = (ns.filter (·.tag == tag)).map (·.id) := by
  induction alike with
  | nil => rfl
  | @cons n m ns ms same _ ih =>
    obtain ⟨id, tags⟩ := same
    by_cases met : n.tag = tag <;> simp [tags, met, ih, id]

end Scanning

namespace Store

variable {st st' : Store} {v v' name wanted : Value} {n : Node} {m : NodeView}

def Carries (st : Store) (name : Value) (m : NodeView) (w : Value) : Prop :=
  st.find? m.attrs name = some w ∧ w ≠ .null

def Meets (st : Store) (name wanted : Value) (m : NodeView) : Prop :=
  ∃ w, st.Carries name m w ∧ w.trimmed = .ok wanted

def Resists (st : Store) (name : Value) (m : NodeView) (fault : Fault) : Prop :=
  ∃ w, st.Carries name m w ∧ w.trimmed = .error fault

def Stops (st : Store) (name wanted : Value) (m : NodeView) : Prop :=
  st.Meets name wanted m ∨ ∃ fault, st.Resists name m fault

theorem attrIs_eq_iff (key : st.hashable name = true) {r : Except Fault Bool}
    (decided : r ≠ .ok false) : Criterion.attrIs st name wanted m = r ↔
      ∃ w, st.Carries name m w ∧ w.trimmed.map (· == wanted) = r := by
  have asked : st.lookUp m.attrs name = .ok (st.find? m.attrs name) := by
    rw [lookUp, checkKey, if_pos key]
    rfl
  unfold Criterion.attrIs Criterion.attrPasses
  rw [asked]
  rcases value : st.find? m.attrs name with _ | w
  · have refused : .ok false ≠ r := decided.symm
    simpa [Carries, value, bind, Except.bind, pure, Except.pure] using refused
  · by_cases null : w = .null
    · subst null
      have refused : .ok false ≠ r := decided.symm
      simpa [Carries, value, bind, Except.bind, pure, Except.pure] using refused
    · have carries : ∀ w', st.Carries name m w' ↔ w' = w := by
        intro w'
        constructor
        · rintro ⟨found, _⟩
          exact (Option.some.inj (value.symm.trans found)).symm
        · rintro rfl
          exact ⟨value, null⟩
      simp only [carries, exists_eq_left]
      cases w with
      | null => exact absurd rfl null
      | _ => exact Iff.rfl

theorem attrIs_true_iff (key : st.hashable name = true) :
    Criterion.attrIs st name wanted m = .ok true ↔ st.Meets name wanted m := by
  rw [attrIs_eq_iff key (by simp)]
  have same : ∀ x : Except Fault Value, x.map (· == wanted) = .ok true ↔ x = .ok wanted := by
    intro x
    cases x <;> simp [Except.map]
  simp only [same, Meets]

theorem attrIs_error_iff (key : st.hashable name = true) {fault : Fault} :
    Criterion.attrIs st name wanted m = .error fault ↔ st.Resists name m fault := by
  rw [attrIs_eq_iff key (by simp)]
  have same : ∀ x : Except Fault Value, x.map (· == wanted) = .error fault ↔ x = .error fault := by
    intro x
    cases x <;> simp [Except.map]
  simp only [same, Resists]

theorem attrIs_false_iff (key : st.hashable name = true) :
    Criterion.attrIs st name wanted m = .ok false ↔ ¬ st.Stops name wanted m := by
  have raises : ∀ fault, st.Resists name m fault ↔
      Criterion.attrIs st name wanted m = .error fault := fun _ => (attrIs_error_iff key).symm
  simp only [Stops, raises, ← attrIs_true_iff key]
  rcases Criterion.attrIs st name wanted m with fault | met
  · simp
  · cases met <;> simp

/-- What the searches among the children of a node come to. A name is whatever can be a key. -/
structure Searches (st : Store) (v : Value) (n : Node) : Prop where
  nodes : (st.childNodes v).map (fun m => Value.ref m.id) = (st.childrenOf n).filter st.isNode
  views : ∀ m ∈ st.childNodes v, st.view? (.ref m.id) = some m
  tagged (tag : String) :
    st.childrenTagged (.text tag) v = .ok ((st.childNodes v).filter (·.tag == tag))
  first (tag : String) :
    st.childTagged (.text tag) v = .ok ((st.childNodes v).filter (·.tag == tag)).head?
  absent {name : Value} (wanted : Value) : st.hashable name →
    (st.childWithAttr name wanted v = .ok none ↔
      ∀ m ∈ st.childNodes v, ¬ st.Stops name wanted m)
  found {name : Value} (wanted : Value) (m : NodeView) : st.hashable name →
    (st.childWithAttr name wanted v = .ok (some m) ↔
      ∃ before later, st.childNodes v = before ++ m :: later ∧
        (∀ k ∈ before, ¬ st.Stops name wanted k) ∧ st.Meets name wanted m)
  raised {name : Value} (wanted : Value) (fault : Fault) : st.hashable name →
    (st.childWithAttr name wanted v = .error fault ↔
      ∃ before m later, st.childNodes v = before ++ m :: later ∧
        (∀ k ∈ before, ¬ st.Stops name wanted k) ∧ st.Resists name m fault)

/-- The children of two nodes begin with the same values. -/
structure Front (front : List Value) (st : Store) (n : Node) (st' : Store) (n' : Node) : Prop where
  here : front <+: st.childrenOf n
  there : front <+: st'.childrenOf n'

/-- The same of some values are nodes in two stores, and what is looked at of those is the same. -/
def LookAlike {β : Type} (look : Store → NodeView → β) (front : List Value) (st st' : Store) :
    Prop :=
  ∀ c ∈ front, (st'.view? c).map (look st') = (st.view? c).map (look st)

def Settles (decides : NodeView → Prop) (front : List Value) (st : Store) (n : Node) (st' : Store)
    (n' : Node) : Prop :=
  (∃ c ∈ front, ∃ m, st.view? c = some m ∧ decides m) ∨
    front = st.childrenOf n ∧ front = st'.childrenOf n'

/-- Searches among the children of two nodes find the same if the children in front look alike and
settle the search. The tags and the attributes of both nodes, the children behind those in front
and whatever is below any child make no difference. -/
structure FindAlike (front : List Value) (st : Store) (v : Value) (n : Node) (st' : Store)
    (v' : Value) (n' : Node) : Prop where
  tagged (tag : String) : LookAlike (fun _ m => m.tag) front st st' →
    front = st.childrenOf n → front = st'.childrenOf n' →
    (st'.childrenTagged (.text tag) v').map (·.map (·.id)) =
      (st.childrenTagged (.text tag) v).map (·.map (·.id))
  first (tag : String) : LookAlike (fun _ m => m.tag) front st st' →
    Settles (·.tag = tag) front st n st' n' →
    (st'.childTagged (.text tag) v').map foundValue = (st.childTagged (.text tag) v).map foundValue
  attr (name wanted : Value) : LookAlike (fun st m => st.find? m.attrs name) front st st' →
    st.hashable name → st'.hashable name →
    Settles (st.Stops name wanted) front st n st' n' →
    (st'.childWithAttr name wanted v').map foundValue =
      (st.childWithAttr name wanted v).map foundValue

theorem id_of_view? {c : Value} (view : st.view? c = some m) : c = .ref m.id := by
  cases c with
  | ref a =>
    obtain ⟨n, _, rfl⟩ := Option.map_eq_some_iff.mp view
    rfl
  | _ => cases view

theorem isNode_eq_isSome_view? (c : Value) : st.isNode c = (st.view? c).isSome := by
  cases c with
  | ref a => rw [view?, Option.isSome_map, isNode]
  | _ => rfl

theorem childrenTagged_eq (isNode : st.isNode v = true) (tag : String) :
    st.childrenTagged (.text tag) v = .ok ((st.childNodes v).filter (·.tag == tag)) := by
  rw [childrenTagged, if_pos isNode]
  exact allWhere_ok fun _ => rfl

theorem map_views (vs : List Value) :
    (vs.filterMap st.view?).map (fun m => Value.ref m.id) = vs.filter st.isNode := by
  induction vs with
  | nil => rfl
  | cons c vs ih =>
    rcases view : st.view? c with _ | m
    · have other : st.isNode c = false := by rw [isNode_eq_isSome_view?, view]; rfl
      simp [view, other, ih]
    · have isNode : st.isNode c = true := by rw [isNode_eq_isSome_view?, view]; rfl
      rw [List.filterMap_cons_some view, List.filter_cons_of_pos isNode, List.map_cons, ih,
        id_of_view? view]

theorem searches (node : st.node? v = some n) : st.Searches v n := by
  have isNode : st.isNode v = true := by simp [Store.isNode, node]
  have scans := scans_firstWhere (st.childNodes v)
  constructor
  · rw [childNodes_eq node]
    exact map_views _
  · intro m member
    rw [childNodes_eq node] at member
    obtain ⟨c, _, view⟩ := List.mem_filterMap.mp member
    rw [← id_of_view? view]
    exact view
  · exact childrenTagged_eq isNode
  · intro tag
    rw [childTagged_eq isNode]
    exact firstWhere_ok fun _ => rfl
  · intro name wanted key
    rw [childWithAttr, scans.absent]
    simp only [attrIs_false_iff key]
  · intro name wanted m key
    rw [childWithAttr, scans.found]
    simp only [attrIs_false_iff key, attrIs_true_iff key]
  · intro name wanted fault key
    rw [childWithAttr, scans.raised]
    simp only [attrIs_false_iff key, attrIs_error_iff key]

section Alike

variable {front : List Value} {n' : Node} {test other : Criterion}

theorem forall₂_views {β : Type} {look : Store → NodeView → β}
    (alike : LookAlike look front st st') :
    List.Forall₂ (fun m k => k.id = m.id ∧ look st' k = look st m) (front.filterMap st.view?)
      (front.filterMap st'.view?) := by
  induction front with
  | nil => exact .nil
  | cons c front ih =>
    obtain ⟨first, others⟩ := List.forall_mem_cons.mp alike
    rcases view : st.view? c with _ | m
    · have none : st'.view? c = none := by simpa [view] using first
      rw [List.filterMap_cons_none view, List.filterMap_cons_none none]
      exact ih others
    · obtain ⟨k, view', same⟩ := Option.map_eq_some_iff.mp (first.trans (by rw [view]; rfl))
      have id : c = .ref m.id := id_of_view? view
      have id' : c = .ref k.id := id_of_view? view'
      rw [List.filterMap_cons_some view, List.filterMap_cons_some view']
      exact .cons ⟨by simpa [id] using id'.symm, same⟩ (ih others)

theorem foundValue_children (alike : List.Forall₂ (fun m k => k.id = m.id ∧ other k = test m)
      (front.filterMap st.view?) (front.filterMap st'.view?))
    (begins : Front front st n st' n') (node : st.node? v = some n) (node' : st'.node? v' = some n')
    (settles : Settles (test · ≠ .ok false) front st n st' n') :
    (firstWhere other (st'.childNodes v')).map foundValue =
      (firstWhere test (st.childNodes v)).map foundValue := by
  obtain ⟨rest, here⟩ := begins.here
  obtain ⟨rest', there⟩ := begins.there
  rw [childNodes_eq node, childNodes_eq node', ← here, ← there, List.filterMap_append,
    List.filterMap_append]
  refine foundValue_firstWhere alike ?_
  rcases settles with ⟨c, member, m, view, decides⟩ | ⟨whole, whole'⟩
  · exact .inl ⟨m, List.mem_filterMap.mpr ⟨c, member, view⟩, decides⟩
  · have none : rest = [] := by simpa [whole] using here
    have none' : rest' = [] := by simpa [whole'] using there
    exact .inr (by simp [none, none'])

theorem answers_alike {β : Type} {look : Store → NodeView → β}
    (alike : LookAlike look front st st')
    (asked : ∀ m k, look st' k = look st m → other k = test m) :
    List.Forall₂ (fun m k => k.id = m.id ∧ other k = test m) (front.filterMap st.view?)
      (front.filterMap st'.view?) :=
  (forall₂_views alike).imp fun m k same => ⟨same.1, asked m k same.2⟩

theorem findAlike (begins : Front front st n st' n') (node : st.node? v = some n)
    (node' : st'.node? v' = some n') : FindAlike front st v n st' v' n' := by
  have isNode : st.isNode v = true := by simp [Store.isNode, node]
  have isNode' : st'.isNode v' = true := by simp [Store.isNode, node']
  constructor
  · intro tag alike whole whole'
    rw [childrenTagged_eq isNode, childrenTagged_eq isNode', childNodes_eq node,
      childNodes_eq node', ← whole, ← whole']
    exact congrArg Except.ok (map_id_filter (forall₂_views alike) tag)
  · intro tag alike settles
    rw [childTagged_eq isNode, childTagged_eq isNode']
    refine foundValue_children (answers_alike alike ?_) begins node node' ?_
    · rintro m k same
      rw [Criterion.tagged, Criterion.tagged, same]
    · refine settles.imp_left ?_
      rintro ⟨c, member, m, view, rfl⟩
      exact ⟨c, member, m, view, by simp [Criterion.tagged]⟩
  · intro name wanted alike key key' settles
    refine foundValue_children (answers_alike alike ?_) begins node node' ?_
    · intro m k same
      unfold Criterion.attrIs Criterion.attrPasses
      rw [lookUp, lookUp, checkKey, checkKey, if_pos key, if_pos key', same]
    · refine settles.imp_left ?_
      rintro ⟨c, member, m, view, decides⟩
      exact ⟨c, member, m, view, fun passed => (attrIs_false_iff key).mp passed decides⟩

end Alike

theorem childless (other : st.isNode v = false) :
    (∀ tag, st.childrenTagged tag v = .ok []) ∧ (∀ tag, st.childTagged tag v = .ok none) ∧
      ∀ name wanted, st.childWithAttr name wanted v = .ok none := by
  refine ⟨?_, ?_, ?_⟩
  · intro tag
    rw [childrenTagged, if_neg (by simp [other])]
    rfl
  · intro tag
    rw [childTagged, if_neg (by simp [other])]
    rfl
  · intro name wanted
    have none : st.node? v = none := by simpa [isNode] using other
    rw [childWithAttr, childNodes, none]
    rfl

end Store

open Store in
/-- The searches among the children of a node go over its child nodes in order, whatever else is
among its children. They find all child nodes with a tag, the first of these, and the first child
node with an attribute, unless a child before it stops the search. What they find depends on
nothing but the tags or the attribute of the child nodes up to the one that decides. In what is
not a node they find nothing. -/
theorem searches_among_children (st : Store) (v : Value) (n : Node) (node : st.node? v = some n) :
    st.Searches v n ∧
    (∀ front st' v' n', st'.node? v' = some n' → Front front st n st' n' →
      FindAlike front st v n st' v' n') ∧
    ∀ w, st.isNode w = false →
      (∀ tag, st.childrenTagged tag w = .ok []) ∧ (∀ tag, st.childTagged tag w = .ok none) ∧
        ∀ name wanted, st.childWithAttr name wanted w = .ok none :=
  ⟨searches node, fun _ _ _ _ node' begins => findAlike begins node node', fun _ => childless⟩

def siblings : Store where
  objects := #[.dict [], .list [], .node ⟨"a", 0, 1⟩, .dict [(.text "id", .text " x ")],
    .node ⟨"a", 3, 1⟩, .dict [(.text "id", .ref 1)], .node ⟨"b", 5, 1⟩,
    .list [.text "t", .ref 2, .int 3, .ref 4, .ref 6], .node ⟨"p", 0, 7⟩]

def fewerSiblings : Store where
  objects := #[.dict [], .list [.text "u"], .node ⟨"a", 0, 1⟩, .dict [(.text "id", .text " x ")],
    .node ⟨"a", 3, 1⟩, .dict [(.text "id", .ref 1)], .node ⟨"b", 5, 1⟩,
    .list [.text "t", .ref 2, .int 3, .ref 4], .node ⟨"q", 5, 7⟩]

theorem later_sibling_is_unasked :
    siblings.node? (.ref 8) = some ⟨"p", 0, 7⟩ ∧
    siblings.childrenTagged (.text "a") (.ref 8) =
      .ok [⟨2, "a", []⟩, ⟨4, "a", [(.text "id", .text " x ")]⟩] ∧
    (siblings.childWithAttr (.text "id") (.text "x") (.ref 8)).map foundValue = .ok (.ref 4) ∧
    siblings.childWithAttr (.text "id") (.text "y") (.ref 8) = .error (.noAttribute "strip") ∧
    (fewerSiblings.childWithAttr (.text "id") (.text "x") (.ref 8)).map foundValue =
      (siblings.childWithAttr (.text "id") (.text "x") (.ref 8)).map foundValue ∧
    siblings.childTagged .null (.int 3) = .ok none := by
  obtain ⟨searches, alike, childless⟩ :=
    searches_among_children siblings (.ref 8) ⟨"p", 0, 7⟩ rfl
  have front : Store.Front [.text "t", .ref 2, .int 3, .ref 4] siblings ⟨"p", 0, 7⟩ fewerSiblings
      ⟨"q", 5, 7⟩ := ⟨⟨[.ref 6], rfl⟩, ⟨[], rfl⟩⟩
  have found : siblings.Meets (.text "id") (.text "x")
      ⟨4, "a", [(.text "id", .text " x ")]⟩ := ⟨.text " x ", ⟨by decide, by decide⟩, by decide⟩
  refine ⟨rfl, searches.tagged "a", by decide, by decide,
    (alike _ fewerSiblings (.ref 8) ⟨"q", 5, 7⟩ rfl front).attr (.text "id") (.text "x") ?_ rfl rfl
      (.inl ⟨.ref 4, by simp, _, rfl, .inl found⟩), (childless (.int 3) rfl).2.1 .null⟩
  unfold Store.LookAlike
  decide

end TreeQuery
