import TreeQuery.Store.Equality

namespace TreeQuery.Combine

def isPresent (v : Value) : Bool := v ≠ .null

/-- `first_present`. -/
def firstPresent (results : List Value) : Value := (results.find? isPresent).getD .null

/-- `all_present`. -/
def allPresent (results : List Value) : List Value := results.filter isPresent

/-- `random_present`: lets `choose` take one of the present results. It is not asked if there are
none. -/
def choosePresent (choose : List Value → Except Fault Value) (results : List Value) :
    Except Fault Value :=
  match allPresent results with
  | [] => .ok .null
  | present => choose present

def chooseAt (number : Int) (vs : List Value) : Except Fault Value :=
  match vs[(number.emod vs.length).toNat]? with
  | some v => .ok v
  | none => .error .outOfRange

def chooserOf (st : Store) (v : Value) : List Value → Except Fault Value :=
  match st.object? v with
  | some (.chooser number) => chooseAt number
  | _ => fun _ => .error (.noAttribute "choice")

end TreeQuery.Combine
