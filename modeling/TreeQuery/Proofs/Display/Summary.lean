import TreeQuery.Function.Apply
import TreeQuery.Proofs.Text.Quoted
import TreeQuery.Proofs.Tree.Copy

/-! Full summaries: all nodes of a tree are opened, down to the last. They can be read back, so
that two trees have the same full summary exactly if one is a copy of the other. -/

namespace TreeQuery

open Eval

def Display.quoted : Value → String
  | .text s => Text.quote s
  | _ => ""

def Entries.AreShort (es : Entries) : Prop := ∀ e ∈ es, (Display.quoted e.2).length ≤ 32

instance (es : Entries) : Decidable es.AreShort :=
  inferInstanceAs (Decidable (∀ e ∈ es, (Display.quoted e.2).length ≤ 32))

namespace Display

theorem cut_of_length_le {limit : Int} {s : String} (short : s.length ≤ limit) :
    Text.cut limit s = s := by
  have whole : ¬ (2 < limit ∧ limit < (s.toList.length : Int)) := by
    rw [String.length_toList]
    omega
  unfold Text.cut Text.cutChars
  rw [if_neg whole, String.ofList_toList]

theorem eq_sign_not_mem_plainName {cs : List Char} (plain : Text.isPlainName cs) : '=' ∉ cs := by
  intro member
  simp only [Text.isPlainName, Bool.and_eq_true, List.all_eq_true] at plain
  have letter := plain.2 '=' member
  revert letter
  decide

theorem head_ne_mark_of_plainName {c : Char} {cs : List Char} (plain : Text.isPlainName (c :: cs))
    {mark : Char} (isMark : Text.IsMark mark) : c ≠ mark := by
  rintro rfl
  simp only [Text.isPlainName, Bool.and_eq_true, List.all_eq_true] at plain
  have letter := plain.2 c (.head _)
  rcases isMark with rfl | rfl <;> revert letter <;> decide

theorem plainName_append_ne_quote {name other : String} (plain : Text.isPlainName name.toList)
    (x y : List Char) : name.toList ++ x ≠ (Text.quote other).toList ++ y := by
  intro same
  rcases start : name.toList with _ | ⟨c, cs⟩
  · rw [start] at plain
    cases plain
  · rw [start] at same plain
    simp only [Text.quote, String.toList_ofList, Text.quoteChars, List.cons_append,
      List.cons.injEq] at same
    exact head_ne_mark_of_plainName plain (Text.isMark_quoteMark _) same.1

/-- The name of an attribute is told from the sign behind it. -/
theorem nameText_append_inj {name name' : String} {x y : List Char}
    (same : (nameText name).toList ++ '=' :: x = (nameText name').toList ++ '=' :: y) :
    name = name' ∧ x = y := by
  unfold nameText at same
  by_cases plain : Text.isPlainName name.toList <;> by_cases plain' : Text.isPlainName name'.toList
  · rw [if_pos plain, if_pos plain'] at same
    obtain ⟨names, rest⟩ := Text.append_cons_inj '=' (eq_sign_not_mem_plainName plain)
      (eq_sign_not_mem_plainName plain') same
    exact ⟨String.toList_inj.mp names, rest⟩
  · rw [if_pos plain, if_neg plain'] at same
    exact absurd same (plainName_append_ne_quote plain _ _)
  · rw [if_neg plain, if_pos plain'] at same
    exact absurd same.symm (plainName_append_ne_quote plain' _ _)
  · rw [if_neg plain, if_neg plain'] at same
    obtain ⟨names, rest⟩ := Text.quote_append_inj same
    exact ⟨names, (List.cons.inj rest).2⟩

theorem entryWord_of_short (name text : String) (short : (Text.quote text).length ≤ 32) :
    (entryWord (.text name, .text text)).toList =
      ' ' :: ((nameText name).toList ++ '=' :: (Text.quote text).toList) := by
  have whole : Text.cut 32 (Text.quote text) = Text.quote text := cut_of_length_le (by omega)
  rw [entryWord, whole]
  simp

theorem entryWords_cons {e : Value × Value} {es : Entries} (texts : Entries.AreTexts (e :: es))
    (short : Entries.AreShort (e :: es)) :
    ∃ name text, e = (.text name, .text text) ∧
      (String.join ((e :: es).map entryWord)).toList = ' ' :: ((nameText name).toList ++
        '=' :: ((Text.quote text).toList ++ (String.join (es.map entryWord)).toList)) := by
  obtain ⟨key, value⟩ := e
  obtain ⟨isName, isText⟩ := texts _ (.head _)
  obtain ⟨name, rfl⟩ := Value.eq_text_of_isText isName
  obtain ⟨text, rfl⟩ := Value.eq_text_of_isText isText
  have fits : (quoted (.text text)).length ≤ 32 := short (.text name, .text text) (.head _)
  rw [quoted] at fits
  refine ⟨name, text, rfl, ?_⟩
  rw [List.map_cons, String.join_cons, String.toList_append, entryWord_of_short name text fits]
  simp

/-- The attributes are told from what stands behind them if that does not start with a space. -/
theorem entryWords_append_inj {es es' : Entries} {x y : List Char} (texts : Entries.AreTexts es)
    (texts' : Entries.AreTexts es') (short : Entries.AreShort es) (short' : Entries.AreShort es')
    (ends : ∀ z, x ≠ ' ' :: z) (ends' : ∀ z, y ≠ ' ' :: z)
    (same : (String.join (es.map entryWord)).toList ++ x =
      (String.join (es'.map entryWord)).toList ++ y) : es = es' ∧ x = y := by
  induction es generalizing es' with
  | nil =>
    cases es' with
    | nil => exact ⟨rfl, by simpa using same⟩
    | cons e' es' =>
      obtain ⟨name, text, rfl, start⟩ := entryWords_cons texts' short'
      rw [start] at same
      exact absurd same (ends _)
  | cons e es ih =>
    obtain ⟨name, text, rfl, start⟩ := entryWords_cons texts short
    cases es' with
    | nil =>
      rw [start] at same
      exact absurd same.symm (ends' _)
    | cons e' es' =>
      obtain ⟨name', text', rfl, start'⟩ := entryWords_cons texts' short'
      rw [start, start'] at same
      simp only [List.cons_append, List.cons.injEq, true_and, List.append_assoc] at same
      obtain ⟨rfl, value⟩ := nameText_append_inj same
      obtain ⟨rfl, rest⟩ := Text.quote_append_inj value
      obtain ⟨_, texts⟩ := List.forall_mem_cons.mp texts
      obtain ⟨_, texts'⟩ := List.forall_mem_cons.mp texts'
      obtain ⟨_, short⟩ := List.forall_mem_cons.mp short
      obtain ⟨_, short'⟩ := List.forall_mem_cons.mp short'
      obtain ⟨rfl, behind⟩ := ih texts texts' short short' rest
      exact ⟨rfl, behind⟩

end Display

namespace NodeView

def openText (view : NodeView) (below : String) : String :=
  "<" ++ view.tag ++ ":" ++ String.join (view.attrs.map Display.entryWord) ++ below ++ ">"

/-- A summary can be read back at the node: the tag is told from what stands behind it, and no
value of an attribute is cut. -/
structure Readable (view : NodeView) : Prop where
  tag : ':' ∉ view.tag.toList
  attrs : Entries.AreShort view.attrs

instance (view : NodeView) : Decidable view.Readable :=
  decidable_of_iff (':' ∉ view.tag.toList ∧ Entries.AreShort view.attrs)
    ⟨fun both => ⟨both.1, both.2⟩, fun readable => ⟨readable.tag, readable.attrs⟩⟩

theorem openText_append_inj {view view' : NodeView} {below below' : String} {x y : List Char}
    (readable : view.Readable) (readable' : view'.Readable) (texts : Entries.AreTexts view.attrs)
    (texts' : Entries.AreTexts view'.attrs) (ends : ∀ z, below.toList ++ '>' :: x ≠ ' ' :: z)
    (ends' : ∀ z, below'.toList ++ '>' :: y ≠ ' ' :: z)
    (same : (view.openText below).toList ++ x = (view'.openText below').toList ++ y) :
    view.tag = view'.tag ∧ view.attrs = view'.attrs ∧
      below.toList ++ '>' :: x = below'.toList ++ '>' :: y := by
  simp only [openText, String.toList_append, List.append_assoc, List.append_cancel_left_eq] at same
  obtain ⟨tags, rest⟩ := Text.append_cons_inj ':' readable.tag readable'.tag same
  obtain ⟨attrs, behind⟩ := Display.entryWords_append_inj texts texts' readable.attrs
    readable'.attrs ends ends' rest
  exact ⟨String.toList_inj.mp tags, attrs, behind⟩

/-- A node is told from a text by how it starts. -/
theorem openText_append_ne_quote (view : NodeView) (below text : String) (x y : List Char) :
    (view.openText below).toList ++ x ≠ (Text.quote text).toList ++ y := by
  intro same
  simp only [openText, Text.quote, Text.quoteChars, String.toList_append, String.toList_ofList,
    List.cons_append, List.append_assoc] at same
  have start : '<' = Text.quoteMark text.toList := (List.cons.inj same).1
  rcases Text.isMark_quoteMark text.toList with mark | mark <;> rw [mark] at start <;>
    revert start <;> decide

end NodeView

namespace Forest

/-- What a full summary writes of some children, each behind the same line break. -/
def full (indent : String) : Forest → String
  | nil => ""
  | leaf v rest => indent ++ Display.quoted v ++ rest.full indent
  | node view kids rest =>
    indent ++ view.openText (kids.full (indent ++ "  ")) ++ rest.full indent

def OpenedBy (f : Forest) (levels : Int) : Prop := levels < 0 ∨ (f.height : Int) < levels

end Forest

theorem Tree.exec_opened {render : Renderer} (quotes : render.Quotes) {t : Tree} {levels : Int}
    (texts : Entries.AreTexts t.view.attrs) (opened : t.kids.OpenedBy levels) {below : Eval String}
    {told : String} {s : Session} (run : below.exec s = (.ok told, s)) :
    (t.opened render (.some levels) below).exec s = (.ok (t.view.openText told), s) := by
  have left : levels ≠ 0 := by
    rcases opened with negative | enough <;> omega
  have notZero : ¬ (Levels.some levels).isZero = true := by simpa [Levels.isZero] using left
  rw [Tree.opened, if_neg notZero, exec_bind_ok (Display.exec_attrWords quotes texts s),
    exec_bind_ok run]
  rfl

namespace Forest

variable {f f' : Forest} {indent : String}

theorem exec_summary {render : Renderer} (quotes : render.Quotes) (formed : f.Formed)
    {levels : Int} (opened : f.OpenedBy levels) (indent : String) (s : Session) :
    (f.summary render indent (.some levels)).exec s = (.ok (f.full indent), s) := by
  induction f generalizing levels indent with
  | nil => rfl
  | leaf v rest ih =>
    obtain ⟨isText, later⟩ := formed
    obtain ⟨text, rfl⟩ := Value.eq_text_of_isText isText
    rw [summary, exec_bind_ok (quotes text s), exec_bind_ok (ih later opened indent)]
    rfl
  | node view kids rest ihKids ihRest =>
    obtain ⟨texts, below, later⟩ := formed
    have inside : kids.OpenedBy (levels - 1) := by
      simp only [OpenedBy, height] at opened ⊢
      omega
    have behind : rest.OpenedBy levels := by
      simp only [OpenedBy, height] at opened ⊢
      omega
    have next : (liftM (Levels.some levels).next : Eval Levels).exec s =
        (.ok (.some (levels - 1)), s) := rfl
    have node := Tree.exec_opened quotes (t := ⟨view, kids⟩) texts inside
      (ihKids below inside (indent ++ "  "))
    rw [summary, exec_bind_ok next, exec_bind_ok node, exec_bind_ok (ihRest later behind indent)]
    rfl

theorem full_ne_space {cs : List Char} (break_ : indent.toList = '\n' :: cs) (f : Forest)
    (x z : List Char) : (f.full indent).toList ++ '>' :: x ≠ ' ' :: z := by
  cases f <;> simp [full, break_]

/-- A text child is told from a node by how it starts. -/
theorem full_leaf_ne_full_node (text : String) (rest rest' kids : Forest) (view : NodeView)
    (x y : List Char) : ((leaf (.text text) rest).full indent).toList ++ x ≠
      ((node view kids rest').full indent).toList ++ y := by
  intro same
  simp only [full, Display.quoted, String.toList_append, List.append_assoc,
    List.append_cancel_left_eq] at same
  exact view.openText_append_ne_quote _ text _ _ same.symm

/-- What a full summary writes of some children is told from the end of their node. -/
theorem full_append_inj {cs x y : List Char} (break_ : indent.toList = '\n' :: cs)
    (formed : f.Formed) (formed' : f'.Formed) (readable : ∀ m ∈ f.preorder, m.Readable)
    (readable' : ∀ m ∈ f'.preorder, m.Readable)
    (same : (f.full indent).toList ++ '>' :: x = (f'.full indent).toList ++ '>' :: y) :
    f.Copies f' ∧ x = y := by
  -- Each child starts with a line break and the end does not, so the children end together.
  induction f generalizing f' indent cs x y with
  | nil =>
    cases f' with
    | nil => exact ⟨.nil, by simpa [full] using same⟩
    | leaf v rest => simp [full, break_] at same
    | node view kids rest => simp [full, break_] at same
  | leaf v rest ih =>
    obtain ⟨isText, later⟩ := formed
    obtain ⟨text, rfl⟩ := Value.eq_text_of_isText isText
    cases f' with
    | nil => simp [full, break_] at same
    | leaf v' rest' =>
      obtain ⟨isText', later'⟩ := formed'
      obtain ⟨text', rfl⟩ := Value.eq_text_of_isText isText'
      simp only [full, Display.quoted, String.toList_append, List.append_assoc,
        List.append_cancel_left_eq] at same
      obtain ⟨rfl, behind⟩ := Text.quote_append_inj same
      obtain ⟨copies, ends⟩ := ih break_ later later' readable readable' behind
      exact ⟨.leaf _ copies, ends⟩
    | node view' kids' rest' =>
      exact absurd same (full_leaf_ne_full_node text rest rest' kids' view' _ _)
  | node view kids rest ihKids ihRest =>
    obtain ⟨texts, below, later⟩ := formed
    obtain ⟨here, others⟩ := List.forall_mem_cons.mp readable
    obtain ⟨inside, behind⟩ := List.forall_mem_append.mp others
    cases f' with
    | nil => simp [full, break_] at same
    | leaf v' rest' =>
      obtain ⟨isText', later'⟩ := formed'
      obtain ⟨text', rfl⟩ := Value.eq_text_of_isText isText'
      exact absurd same.symm (full_leaf_ne_full_node text' rest' rest kids view _ _)
    | node view' kids' rest' =>
      obtain ⟨texts', below', later'⟩ := formed'
      obtain ⟨here', others'⟩ := List.forall_mem_cons.mp readable'
      obtain ⟨inside', behind'⟩ := List.forall_mem_append.mp others'
      have deeper : (indent ++ "  ").toList = '\n' :: (cs ++ [' ', ' ']) := by simp [break_]
      simp only [full, String.toList_append, List.append_assoc, List.append_cancel_left_eq]
        at same
      obtain ⟨tag, attrs, same⟩ := NodeView.openText_append_inj here here' texts texts'
        (full_ne_space deeper kids _) (full_ne_space deeper kids' _) same
      obtain ⟨copiesKids, same⟩ := ihKids deeper below below' inside inside' same
      obtain ⟨copiesRest, ends⟩ := ihRest break_ later later' behind behind' same
      exact ⟨.node tag attrs copiesKids copiesRest, ends⟩

theorem Copies.full_eq (copies : f.Copies f') (indent : String) :
    f.full indent = f'.full indent := by
  induction copies generalizing indent with
  | nil => rfl
  | leaf v _ ih => rw [full, full, ih]
  | node tag attrs _ _ ihBelow ihLater =>
    rw [full, full, NodeView.openText, NodeView.openText, tag, attrs, ihBelow, ihLater]

end Forest

namespace Store

open Relation

def Readable (st : Store) (root : Addr) : Prop :=
  ∀ a n, ReflTransGen st.Parent root a → st.node? (.ref a) = some n → (st.viewOf a n).Readable

/-- So many levels do not run out before all nodes of a tree are opened: they are negative, or
more than there are nodes inside each other below the root. -/
def OpenedBy (st : Store) (root : Addr) (levels : Int) : Prop :=
  ∃ t, st.tree (.ref root) = .ok t ∧ t.kids.OpenedBy levels

theorem readable_of_all {st : Store} {root : Addr}
    (all : ∀ a < st.size, ∀ n ∈ st.node? (.ref a), (st.viewOf a n).Readable) :
    st.Readable root :=
  fun a n _ node => all a (lt_of_node? node) n node

end Store

/-- The summary of a well-formed tree whose nodes are all opened. -/
theorem exec_summarize_full {s : Session} {a : Addr} {levels indent : Int}
    (formed : s.store.Formed a)
    (usable : Display.checkIndent s.surroundings.room indent = .ok ())
    (opened : s.store.OpenedBy a levels) :
    ∃ t, s.store.tree (.ref a) = .ok t ∧ Entries.AreTexts t.view.attrs ∧ t.kids.Formed ∧
      (summarize (.ref a) (.int levels) (.int indent)).exec s =
        (.ok (.text (t.view.openText (t.kids.full (lineBreak indent ++ "  ")))), s) := by
  obtain ⟨t, tree, texts, kids⟩ := formed.tree
  obtain ⟨t', tree', enough⟩ := opened
  cases tree.symm.trans tree'
  have quotes : display.Quotes := fun _ _ => rfl
  have below := Forest.exec_summary quotes kids enough (lineBreak indent ++ "  ") s
  have opened := Tree.exec_opened quotes texts enough below
  have found : (liftM (s.store.tree (.ref a)) : Eval Tree).exec s = (.ok t, s) := by
    rw [tree]
    rfl
  have checked : (liftM (Display.checkIndent s.surroundings.room indent) : Eval Unit).exec s =
      (.ok (), s) := by
    rw [usable]
    rfl
  refine ⟨t, tree, texts, kids, ?_⟩
  rw [summarize, exec_bind_ok (exec_getStore s), exec_bind_ok found]
  simp only [Store.index?]
  rw [exec_bind_ok (exec_get s), exec_bind_ok checked]
  exact exec_bind_ok opened _

theorem toList_lineBreak (indent : Int) :
    ∃ cs, (lineBreak indent ++ "  ").toList = '\n' :: cs := by
  simp [lineBreak]

/-- A full summary tells a well-formed tree up to the identity of its nodes, if its tags and values
can be read back: two trees have the same full summary exactly if they are copies. -/
theorem full_summaries_equal_iff_copies (s s' : Session) (a a' : Addr)
    (formed : s.store.Formed a) (formed' : s'.store.Formed a') (readable : s.store.Readable a)
    (readable' : s'.store.Readable a') (levels levels' indent : Int)
    (opened : s.store.OpenedBy a levels) (opened' : s'.store.OpenedBy a' levels')
    (usable : Display.checkIndent s.surroundings.room indent = .ok ())
    (usable' : Display.checkIndent s'.surroundings.room indent = .ok ()) :
    ∃ text text',
      (summarize (.ref a) (.int levels) (.int indent)).exec s = (.ok (.text text), s) ∧
      (summarize (.ref a') (.int levels') (.int indent)).exec s' = (.ok (.text text'), s') ∧
      (text = text' ↔ s.store.Copies s'.store [.ref a] [.ref a']) := by
  obtain ⟨t, tree, texts, kids, run⟩ := exec_summarize_full formed usable opened
  obtain ⟨t', tree', texts', kids', run'⟩ := exec_summarize_full formed' usable' opened'
  refine ⟨_, _, run, run', ?_⟩
  obtain ⟨n, node, view, unfolds⟩ := Store.tree_eq_ok tree
  obtain ⟨n', node', view', unfolds'⟩ := Store.tree_eq_ok tree'
  constructor
  · intro same
    have order := Store.preorder_of_tree tree
    have order' := Store.preorder_of_tree tree'
    have all : ∀ m ∈ t.preorder, m.Readable := by
      intro m member
      obtain ⟨b, k, path, inner, rfl⟩ := (order.mem_iff m).mp member
      exact readable b k path inner
    have all' : ∀ m ∈ t'.preorder, m.Readable := by
      intro m member
      obtain ⟨b, k, path, inner, rfl⟩ := (order'.mem_iff m).mp member
      exact readable' b k path inner
    obtain ⟨here, inside⟩ := List.forall_mem_cons.mp all
    obtain ⟨here', inside'⟩ := List.forall_mem_cons.mp all'
    obtain ⟨cs, break_⟩ := toList_lineBreak indent
    have chars := congrArg (fun text => text.toList ++ []) same
    obtain ⟨tag, attrs, rest⟩ := NodeView.openText_append_inj here here' texts texts'
      (Forest.full_ne_space break_ t.kids []) (Forest.full_ne_space break_ t'.kids []) chars
    obtain ⟨below, _⟩ := Forest.full_append_inj break_ kids kids' inside inside' rest
    rw [view, view'] at tag attrs
    exact .node node node' tag attrs (Store.copies_of_forests below unfolds unfolds' kids) .nil
  · intro copies
    have whole := copies.forests (.node node unfolds .nil) (.node node' unfolds' .nil)
    rw [← view, ← view'] at whole
    cases whole with
    | node tag attrs below _ =>
      rw [NodeView.openText, NodeView.openText, tag, attrs, below.full_eq]

theorem branching_full_summaries_equal :
    Store.branching.Formed 14 ∧ Store.branching.Readable 14 ∧
      Store.branching.OpenedBy 14 (-1) ∧ Store.branching.OpenedBy 14 3 ∧
      Display.checkIndent ({} : Session).surroundings.room 0 = .ok () ∧
      ∃ text text',
        (summarize (.ref 14) (.int (-1)) (.int 0)).exec { store := .branching } =
          (.ok (.text text), { store := .branching }) ∧
        (summarize (.ref 14) (.int 3) (.int 0)).exec { store := .branching } =
          (.ok (.text text'), { store := .branching }) ∧
        (text = text' ↔ Store.branching.Copies .branching [.ref 14] [.ref 14]) := by
  have readable : Store.branching.Readable 14 := Store.readable_of_all (by decide +kernel)
  have endless : Store.branching.OpenedBy 14 (-1) := ⟨_, rfl, .inl (by decide)⟩
  have enough : Store.branching.OpenedBy 14 3 := ⟨_, rfl, .inr (by decide)⟩
  exact ⟨Store.formed_branching, readable, endless, enough, rfl,
    full_summaries_equal_iff_copies { store := .branching } { store := .branching } 14 14
      Store.formed_branching Store.formed_branching readable readable (-1) 3 0 endless enough
      rfl rfl⟩

end TreeQuery
