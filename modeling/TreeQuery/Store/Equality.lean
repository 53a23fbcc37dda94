import TreeQuery.Fault
import TreeQuery.Store

namespace TreeQuery.Store

def pairwise (related : Value → Value → Bool) : List Value → List Value → Bool
  | [], [] => true
  | x :: xs, y :: ys => related x y && pairwise related xs ys
  | _, _ => false

def findBy (related : Value → Value → Bool) (es : Entries) (k : Value) : Option Value :=
  (es.find? fun e => related e.1 k).map (·.2)

/-- Lists equal lists, tuples and steps equal each other, and dictionaries are equal whatever
their order; their parts are equal if they are the same or equal. All other objects equal only
themselves. -/
def equalWithin (st : Store) : Nat → Value → Value → Bool
  | 0, v, w => v.plainEqual w
  | fuel + 1, v, w =>
    let part := fun x y => x == y || st.equalWithin fuel x y
    match v, w with
    | .ref a, .ref b =>
      a == b || match st.read? a, st.read? b with
        | some (.list xs), some (.list ys) => pairwise part xs ys
        | some (.dict es), some (.dict fs) =>
          es.length == fs.length && es.all fun e => ((findBy part fs e.1).map (part e.2)).getD false
        | some (.pattern p), some (.pattern q) => p.source == q.source && p.flags == q.flags
        | _, _ =>
          match st.tupleItems? v, st.tupleItems? w with
          | some xs, some ys => pairwise part xs ys
          | _, _ => false
    | _, _ => v.plainEqual w

def equal (st : Store) (v w : Value) : Bool := st.equalWithin st.depth v w

def alike (st : Store) (v w : Value) : Bool := v == w || st.equal v w

/-- Lists and dictionaries cannot be keys, and no tuple that holds one can. -/
def hashableWithin (st : Store) : Nat → Value → Bool
  | 0, _ => true
  | fuel + 1, v =>
    match st.object? v with
    | some (.list _) | some (.dict _) => false
    | _ => ((st.tupleItems? v).getD []).all (st.hashableWithin fuel)

def hashable (st : Store) (v : Value) : Bool := st.hashableWithin st.depth v

def checkKey (st : Store) (k : Value) : Except Fault Unit :=
  if st.hashable k then .ok () else .error .unhashable

def find? (st : Store) (es : Entries) (k : Value) : Option Value := findBy st.alike es k

def putBy (related : Value → Value → Bool) (k v : Value) : Entries → Entries
  | [] => [(k, v)]
  | e :: es => if related e.1 k then (e.1, v) :: es else e :: putBy related k v es

def put (st : Store) (es : Entries) (k v : Value) : Entries := putBy st.alike k v es

def truthy (st : Store) : Value → Bool
  | .null => false
  | .bool b => b
  | .int n => n != 0
  | .float x => !x.isZero
  | .text s => !s.isEmpty
  | .bytes b => !b.isEmpty
  | .function _ | .errorClass _ => true
  | .ref a =>
    match st.read? a with
    | some (.tuple vs) | some (.list vs) => !vs.isEmpty
    | some (.dict es) => !es.isEmpty
    | some (.element e) => !e.children.isEmpty
    | _ => true

end TreeQuery.Store
