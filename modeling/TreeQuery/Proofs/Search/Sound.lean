import TreeQuery.Proofs.Node.Sound
import TreeQuery.Proofs.Search.Scan

namespace TreeQuery

namespace Store

structure AnswersAmong (st : Store) (a : Addr) : Prop where
  childrenTagged (tag : String) : ∃ ns, st.childrenTagged (.text tag) (.ref a) = .ok ns
  childTagged (tag : String) : ∃ r, st.childTagged (.text tag) (.ref a) = .ok r
  childWithAttr (name wanted : String) :
    ∃ r, st.childWithAttr (.text name) (.text wanted) (.ref a) = .ok r
  childWithClass (wanted : String) : ∃ r, st.childWithClass (.text wanted) (.ref a) = .ok r

structure AnswersBelow (st : Store) (a : Addr) : Prop where
  firstTagged (tag : String) : ∃ r, st.firstTagged (.text tag) (.ref a) = .ok r
  firstWithAttr (name wanted : String) :
    ∃ r, st.firstWithAttr (.text name) (.text wanted) (.ref a) = .ok r
  firstWithClass (wanted : String) : ∃ r, st.firstWithClass (.text wanted) (.ref a) = .ok r
  firstWithId (wanted : String) : ∃ r, st.firstWithId (.text wanted) (.ref a) = .ok r
  text : ∃ text, (st.tree (.ref a) >>= Tree.text) = .ok text

def Views (st : Store) (ns : List NodeView) : Prop :=
  ∀ m ∈ ns, ∃ b n, st.node? (.ref b) = some n ∧ m = st.viewOf b n

/-- Asked of any node of the store, the criterion comes to an answer. -/
def Decides (st : Store) (test : Criterion) : Prop :=
  ∀ b n, st.node? (.ref b) = some n → ∃ met, test (st.viewOf b n) = .ok met

variable {st : Store} {a : Addr} {n : Node} {ns : List NodeView} {test : Criterion}

theorem views_childNodes (st : Store) (v : Value) : st.Views (st.childNodes v) := by
  intro m member
  unfold childNodes at member
  split at member
  · obtain ⟨w, _, view⟩ := List.mem_filterMap.mp member
    cases w with
    | ref b =>
      obtain ⟨n, node, rfl⟩ := Option.map_eq_some_iff.mp view
      exact ⟨b, n, node, rfl⟩
    | _ => cases view
  · cases member

theorem Preorder.views {vs : List Value} (order : st.Preorder vs ns) : st.Views ns := by
  induction order with
  | nil => exact fun _ member => nomatch member
  | skip _ _ ih => exact ih
  | node node _ _ ihKids ihRest =>
    intro m member
    rcases List.mem_append.mp member with inner | later
    · rcases List.mem_cons.mp inner with rfl | below
      · exact ⟨_, _, node, rfl⟩
      · exact ihKids m below
    · exact ihRest m later

theorem Decides.firstWhere (decides : st.Decides test) (views : st.Views ns) :
    ∃ r, firstWhere test ns = .ok r := by
  induction ns with
  | nil => exact ⟨none, rfl⟩
  | cons m ns ih =>
    obtain ⟨b, n, node, rfl⟩ := views m (.head _)
    obtain ⟨met, answer⟩ := decides b n node
    obtain ⟨r, rest⟩ := ih fun k member => views k (.tail _ member)
    rw [TreeQuery.firstWhere, answer]
    cases met with
    | true => exact ⟨_, rfl⟩
    | false => exact ⟨r, rest⟩

theorem Decides.allWhere (decides : st.Decides test) (views : st.Views ns) :
    ∃ found, allWhere test ns = .ok found := by
  induction ns with
  | nil => exact ⟨[], rfl⟩
  | cons m ns ih =>
    obtain ⟨b, n, node, rfl⟩ := views m (.head _)
    obtain ⟨met, answer⟩ := decides b n node
    obtain ⟨found, rest⟩ := ih fun k member => views k (.tail _ member)
    rw [TreeQuery.allWhere, answer, rest]
    exact ⟨_, rfl⟩

theorem decides_tagged (st : Store) (tag : String) : st.Decides (.tagged tag) :=
  fun _ n _ => ⟨n.tag == tag, rfl⟩

theorem Sound.isText_attr (sound : st.Sound) (node : st.node? (.ref a) = some n) {name : String}
    {v : Value} (present : under? (st.viewOf a n).attrs name = some v) : v.isText := by
  obtain ⟨o, found, texts⟩ := sound.attrs a n (node?_eq_some.mp node)
  cases o with
  | dict es =>
    have same : (st.viewOf a n).attrs = es := by simp [viewOf, attrEntries, entries, found]
    exact List.all_eq_true.mp texts _ (mem_of_under? (same ▸ present))
  | _ => cases texts

theorem Sound.decides_attrIs (sound : st.Sound) (name : String) (wanted : Value) :
    st.Decides (.attrIs st (.text name) wanted) := by
  intro b n node
  rw [Criterion.attrIs, Criterion.attrPasses_text, find?_text]
  split
  · exact ⟨false, rfl⟩
  · exact ⟨false, rfl⟩
  · next v _ present =>
    obtain ⟨text, rfl⟩ := Value.eq_text_of_isText (sound.isText_attr node present)
    exact ⟨_, rfl⟩

theorem Sound.answersAmong (sound : st.Sound) (node : st.node? (.ref a) = some n) :
    st.AnswersAmong a := by
  have isNode : st.isNode (.ref a) := by simp [Store.isNode, node]
  have views := views_childNodes st (.ref a)
  have withAttr : ∀ name wanted, ∃ r, st.childWithAttr (.text name) wanted (.ref a) = .ok r :=
    fun name wanted => (sound.decides_attrIs name wanted).firstWhere views
  refine ⟨?_, ?_, fun name wanted => withAttr name _, fun wanted => withAttr "class" _⟩
  · intro tag
    rw [childrenTagged, if_pos isNode]
    exact (decides_tagged st tag).allWhere views
  · intro tag
    rw [childTagged, if_pos isNode]
    exact (decides_tagged st tag).firstWhere views

theorem Sound.isChild_of_mem (sound : st.Sound) (node : st.node? (.ref a) = some n) :
    ∀ v ∈ st.childrenOf n, st.isChild v := by
  obtain ⟨vs, list, fine⟩ := sound.exists_children ⟨a, n, node?_eq_some.mp node, rfl⟩
  simpa [childrenOf, members, list] using fine

theorem Unfolds.texts {vs : List Value} {f : Forest} (unfolds : st.Unfolds vs f)
    (sound : st.Sound) (fine : ∀ v ∈ vs, st.isChild v) : ∃ texts, f.texts = .ok texts := by
  induction unfolds with
  | nil => exact ⟨[], rfl⟩
  | @leaf v vs rest other _ ih =>
    obtain ⟨child, fine'⟩ := List.forall_mem_cons.mp fine
    obtain ⟨texts, later⟩ := ih fine'
    have isText : v.isText := by simpa [isChild, isNode, other] using child
    obtain ⟨text, rfl⟩ := Value.eq_text_of_isText isText
    exact ⟨text :: texts, by rw [Forest.texts, later]; rfl⟩
  | node node _ _ ihBelow ihLater =>
    obtain ⟨_, fine'⟩ := List.forall_mem_cons.mp fine
    obtain ⟨inside, inner⟩ := ihBelow (sound.isChild_of_mem node)
    obtain ⟨texts, later⟩ := ihLater fine'
    exact ⟨inside ++ texts, by rw [Forest.texts, inner, later]; rfl⟩

theorem Sound.answersBelow (sound : st.Sound) (node : st.node? (.ref a) = some n)
    (acyclic : st.Acyclic a) : st.AnswersBelow a := by
  obtain ⟨t, tree⟩ := exists_tree acyclic node
  have views := (preorder_of_tree tree).views
  have withAttr : ∀ name wanted, ∃ r, st.firstWithAttr (.text name) wanted (.ref a) = .ok r := by
    intro name wanted
    rw [firstWithAttr_eq tree]
    exact (sound.decides_attrIs name wanted).firstWhere views
  refine ⟨?_, fun name wanted => withAttr name _, fun wanted => withAttr "class" _,
    fun wanted => withAttr "id" _, ?_⟩
  · intro tag
    rw [firstTagged_eq tree]
    exact (decides_tagged st tag).firstWhere views
  · obtain ⟨n', node', _, unfolds⟩ := tree_eq_ok tree
    obtain ⟨texts, read⟩ := unfolds.texts sound (sound.isChild_of_mem node')
    refine ⟨String.join texts, ?_⟩
    rw [tree]
    change t.text = _
    rw [Tree.text, Tree.texts, read]
    rfl

end Store

end TreeQuery
