import TreeQuery.Node.Make
import TreeQuery.Proofs.Quiet

namespace TreeQuery

def Object.isNode : Object → Bool
  | .node _ => true
  | _ => false

def Object.isTextDict : Object → Bool
  | .dict es => es.all fun e => e.2.isText
  | _ => false

namespace Store

def isChild (st : Store) (v : Value) : Bool := v.isText || st.isNode v

def isChildList (st : Store) : Object → Bool
  | .list vs => vs.all st.isChild
  | _ => false

/-- The attributes of every node are texts, and its children texts and nodes. -/
structure Sound (st : Store) : Prop where
  attrs (b : Addr) (n : Node) : st.read? b = some (.node n) →
    ∃ o, st.read? n.attrs = some o ∧ o.isTextDict
  children (b : Addr) (n : Node) : st.read? b = some (.node n) →
    ∃ o, st.read? n.children = some o ∧ st.isChildList o

def OwnsAttrs (st : Store) (a : Addr) : Prop := ∃ b n, st.read? b = some (.node n) ∧ n.attrs = a

def OwnsChildren (st : Store) (a : Addr) : Prop :=
  ∃ b n, st.read? b = some (.node n) ∧ n.children = a

variable {st st' : Store} {a : Addr} {o o' : Object}

theorem node?_eq_some {v : Value} {n : Node} :
    st.node? v = some n ↔ st.object? v = some (.node n) := by
  unfold node?
  split
  · next m object => simp [object]
  · next other =>
    constructor
    · intro none
      cases none
    · intro object
      exact absurd object (other n)

def SameNodes (st st' : Store) : Prop :=
  ∀ b n, st'.read? b = some (.node n) ↔ st.read? b = some (.node n)

namespace SameNodes

variable (same : st.SameNodes st')
include same

theorem node? (v : Value) : st'.node? v = st.node? v := by
  cases v with
  | ref b =>
    apply Option.ext
    intro n
    rw [node?_eq_some, node?_eq_some]
    exact same b n
  | _ => rfl

theorem isNode (v : Value) : st'.isNode v = st.isNode v := by
  simp only [Store.isNode, same.node?]

theorem isChild (v : Value) : st'.isChild v = st.isChild v := by
  simp only [Store.isChild, same.isNode]

theorem isChildList (o : Object) : st'.isChildList o = st.isChildList o := by
  cases o <;> simp only [Store.isChildList, funext same.isChild]

theorem child? (v : Value) : Node.child? st' v = Node.child? st v := by
  rw [Node.child?, Node.child?, same.isNode]

theorem ownsAttrs (a : Addr) : st'.OwnsAttrs a ↔ st.OwnsAttrs a := by
  simp only [OwnsAttrs, same _ _]

theorem ownsChildren (a : Addr) : st'.OwnsChildren a ↔ st.OwnsChildren a := by
  simp only [OwnsChildren, same _ _]

end SameNodes

theorem sameNodes_write (read : st.read? a = some o) (plain : o.isNode = false)
    (plain' : o'.isNode = false) : st.SameNodes (st.write a o') := by
  intro b n
  by_cases same : a = b
  · subst same
    rw [read?_write_self st o' (lt_of_read? read), read]
    constructor
    · intro node
      cases node
      cases plain'
    · intro node
      cases node
      cases plain
  · rw [read?_write_of_ne st o' same]

theorem sameNodes_alloc (plain : o.isNode = false) : st.SameNodes (st.alloc o).2 := by
  intro b n
  constructor
  · intro node
    rcases read?_of_alloc node with old | rfl
    · exact old
    · cases plain
  · exact grows_alloc st o b (.node n)

theorem Sound.lt_of_ownsAttrs (sound : st.Sound) (owned : st.OwnsAttrs a) : a < st.size := by
  obtain ⟨b, n, node, rfl⟩ := owned
  obtain ⟨o, found, _⟩ := sound.attrs b n node
  exact lt_of_read? found

theorem Sound.exists_children (sound : st.Sound) (owned : st.OwnsChildren a) :
    ∃ vs, st.read? a = some (.list vs) ∧ ∀ v ∈ vs, st.isChild v := by
  obtain ⟨b, n, node, rfl⟩ := owned
  obtain ⟨o, found, fine⟩ := sound.children b n node
  cases o with
  | list vs => exact ⟨vs, found, List.all_eq_true.mp fine⟩
  | _ => cases fine

/-- Writing to what is no node keeps a store sound exactly if nodes that keep something there can
have it. -/
theorem Sound.write_iff (sound : st.Sound) (read : st.read? a = some o)
    (plain : o.isNode = false) (plain' : o'.isNode = false) :
    (st.write a o').Sound ↔
      (st.OwnsAttrs a → o'.isTextDict) ∧ (st.OwnsChildren a → st.isChildList o') := by
  have nodes := sameNodes_write read plain plain'
  have here := read?_write_self st o' (lt_of_read? read)
  constructor
  · intro after
    refine ⟨?_, ?_⟩
    · rintro ⟨b, n, node, rfl⟩
      obtain ⟨p, found, texts⟩ := after.attrs b n ((nodes b n).mpr node)
      cases here.symm.trans found
      exact texts
    · rintro ⟨b, n, node, rfl⟩
      obtain ⟨p, found, fine⟩ := after.children b n ((nodes b n).mpr node)
      cases here.symm.trans found
      rwa [nodes.isChildList] at fine
  · rintro ⟨texts, fine⟩
    constructor
    · intro b n node
      have node := (nodes b n).mp node
      by_cases same : a = n.attrs
      · exact ⟨o', same ▸ here, texts ⟨b, n, node, same.symm⟩⟩
      · rw [read?_write_of_ne st o' same]
        exact sound.attrs b n node
    · intro b n node
      have node := (nodes b n).mp node
      by_cases same : a = n.children
      · exact ⟨o', same ▸ here, nodes.isChildList o' ▸ fine ⟨b, n, node, same.symm⟩⟩
      · obtain ⟨p, found, list⟩ := sound.children b n node
        exact ⟨p, by rwa [read?_write_of_ne st o' same], by rwa [nodes.isChildList]⟩

theorem Sound.write_dict_iff {es : Entries} (sound : st.Sound)
    (read : st.read? a = some (.dict es)) (es' : Entries) :
    (st.write a (.dict es')).Sound ↔ (st.OwnsAttrs a → ∀ e ∈ es', e.2.isText) := by
  rw [sound.write_iff read rfl rfl]
  have other : ¬ st.OwnsChildren a := by
    intro owned
    obtain ⟨vs, list, _⟩ := sound.exists_children owned
    cases read.symm.trans list
  simp [other, Object.isTextDict]

theorem Sound.write_list_iff {vs : List Value} (sound : st.Sound)
    (read : st.read? a = some (.list vs)) (vs' : List Value) :
    (st.write a (.list vs')).Sound ↔ (st.OwnsChildren a → ∀ v ∈ vs', st.isChild v) := by
  rw [sound.write_iff read rfl rfl]
  have other : ¬ st.OwnsAttrs a := by
    rintro ⟨b, n, node, rfl⟩
    obtain ⟨p, found, texts⟩ := sound.attrs b n node
    cases read.symm.trans found
    cases texts
  simp [other, isChildList]

theorem Sound.alloc (sound : st.Sound) (plain : o.isNode = false) : (st.alloc o).2.Sound := by
  have nodes : st.SameNodes (st.alloc o).2 := sameNodes_alloc plain
  constructor
  · intro b n node
    obtain ⟨p, found, texts⟩ := sound.attrs b n ((nodes b n).mp node)
    exact ⟨p, grows_alloc st o _ p found, texts⟩
  · intro b n node
    obtain ⟨p, found, list⟩ := sound.children b n ((nodes b n).mp node)
    exact ⟨p, grows_alloc st o _ p found, by rwa [nodes.isChildList]⟩

theorem Sound.alloc_node (sound : st.Sound) {n : Node} {attrs children : Object}
    (dict : st.read? n.attrs = some attrs) (texts : attrs.isTextDict)
    (list : st.read? n.children = some children) (fine : st.isChildList children) :
    (st.alloc (.node n)).2.Sound := by
  have more : ∀ o, st.isChildList o → (st.alloc (.node n)).2.isChildList o := by
    intro o fine
    cases o with
    | list vs =>
      simp only [isChildList, List.all_eq_true] at fine ⊢
      intro v member
      rcases Bool.or_eq_true_iff.mp (fine v member) with text | node
      · simp [isChild, text]
      · obtain ⟨m, found⟩ := Option.isSome_iff_exists.mp node
        have kept := (grows_alloc st (.node n)).object? (node?_eq_some.mp found)
        simp [isChild, isNode, node?_eq_some.mpr kept]
    | _ => cases fine
  -- A node that is read is the new one, or was there before.
  have old : ∀ b m, (st.alloc (.node n)).2.read? b = some (.node m) →
      st.read? b = some (.node m) ∨ m = n := by
    intro b m node
    rcases read?_of_alloc node with before | new
    · exact .inl before
    · exact .inr (Object.node.inj new)
  constructor
  · intro b m node
    rcases old b m node with node | rfl
    · obtain ⟨p, found, texts⟩ := sound.attrs b m node
      exact ⟨p, grows_alloc st _ _ p found, texts⟩
    · exact ⟨attrs, grows_alloc st _ _ _ dict, texts⟩
  · intro b m node
    rcases old b m node with node | rfl
    · obtain ⟨p, found, list⟩ := sound.children b m node
      exact ⟨p, grows_alloc st _ _ p found, more p list⟩
    · exact ⟨children, grows_alloc st _ _ _ list, more children fine⟩

theorem Drains.read?_iff (drains : st.Drains st') (other : ∀ xs, o ≠ .iterator xs) (a : Addr) :
    st'.read? a = some o ↔ st.read? a = some o := by
  rcases drains.2.2 a with same | ⟨xs, ys, before, after, _⟩
  · rw [same]
  · constructor
    · intro read
      exact absurd (Option.some.inj (read.symm.trans after)) (other ys)
    · intro read
      exact absurd (Option.some.inj (read.symm.trans before)) (other xs)

theorem Drains.sameNodes (drains : st.Drains st') : st.SameNodes st' :=
  fun b _ => drains.read?_iff (by simp) b

theorem Drains.sound_iff (drains : st.Drains st') : st'.Sound ↔ st.Sound := by
  have nodes := drains.sameNodes
  have dict : ∀ a, (∃ o, st'.read? a = some o ∧ o.isTextDict) ↔
      ∃ o, st.read? a = some o ∧ o.isTextDict := by
    intro a
    refine exists_congr fun o => and_congr_left fun texts => drains.read?_iff ?_ a
    rintro xs rfl
    cases texts
  have list : ∀ a, (∃ o, st'.read? a = some o ∧ st'.isChildList o) ↔
      ∃ o, st.read? a = some o ∧ st.isChildList o := by
    intro a
    refine exists_congr ?_
    intro o
    rw [nodes.isChildList]
    refine and_congr_left fun fine => drains.read?_iff ?_ a
    rintro xs rfl
    cases fine
  constructor
  · intro sound
    constructor
    · intro b n node
      have before := sound.attrs b n ((nodes b n).mpr node)
      exact (dict n.attrs).mp before
    · intro b n node
      have before := sound.children b n ((nodes b n).mpr node)
      exact (list n.children).mp before
  · intro sound
    constructor
    · intro b n node
      have before := sound.attrs b n ((nodes b n).mp node)
      exact (dict n.attrs).mpr before
    · intro b n node
      have before := sound.children b n ((nodes b n).mp node)
      exact (list n.children).mpr before

end Store

end TreeQuery
