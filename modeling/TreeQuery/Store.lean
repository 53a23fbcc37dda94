import TreeQuery.Value

/-! The store of objects. Objects are made and changed, and never removed. -/

namespace TreeQuery

structure Store where
  objects : Array Object := #[]
  marks : Nat := 0

namespace Store

def size (st : Store) : Nat := st.objects.size

def read? (st : Store) (a : Addr) : Option Object := st.objects[a]?

def alloc (st : Store) (o : Object) : Addr × Store :=
  (st.size, { st with objects := st.objects.push o })

def write (st : Store) (a : Addr) (o : Object) : Store :=
  { st with objects := st.objects.setIfInBounds a o }

def object? (st : Store) : Value → Option Object
  | .ref a => st.read? a
  | _ => none

def node? (st : Store) (v : Value) : Option Node :=
  match st.object? v with
  | some (.node n) => some n
  | _ => none

def isNode (st : Store) (v : Value) : Bool := (st.node? v).isSome

def entries (st : Store) (a : Addr) : Entries :=
  match st.read? a with
  | some (.dict es) => es
  | _ => []

def attrEntries (st : Store) (a : Addr) : Entries :=
  match st.read? a with
  | some (.element e) => st.entries e.attrs
  | _ => st.entries a

def members (st : Store) (a : Addr) : List Value :=
  match st.read? a with
  | some (.list vs) => vs
  | _ => []

def tupleItems? (st : Store) (v : Value) : Option (List Value) :=
  match st.object? v with
  | some (.tuple vs) => some vs
  | some (.step s) => some s.toList
  | _ => none

/-- No chain of references without repetition is longer than this. -/
def depth (st : Store) : Nat := st.size + 1

theorem read?_alloc_self (st : Store) (o : Object) :
    (st.alloc o).2.read? (st.alloc o).1 = some o := by
  simp [alloc, read?, size]

theorem read?_alloc_of_lt (st : Store) (o : Object) {a : Addr} (h : a < st.size) :
    (st.alloc o).2.read? a = st.read? a := by
  simp only [alloc, read?]
  rw [Array.getElem?_push_lt (by simpa [size] using h)]
  simp [size] at h
  simp [h]

theorem read?_write_self (st : Store) (o : Object) {a : Addr} (h : a < st.size) :
    (st.write a o).read? a = some o := by
  simp [write, read?, size] at *
  simp [h]

theorem read?_write_of_ne (st : Store) (o : Object) {a b : Addr} (h : a ≠ b) :
    (st.write a o).read? b = st.read? b := by
  simp [write, read?, Array.getElem?_setIfInBounds_ne h]

theorem members_write_self (st : Store) (vs : List Value) {a : Addr} (h : a < st.size) :
    (st.write a (.list vs)).members a = vs := by
  simp [members, read?_write_self st _ h]

end Store

end TreeQuery
