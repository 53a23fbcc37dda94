import TreeQuery.Sequence

namespace TreeQuery

theorem Value.eq_text_of_isText {v : Value} (isText : v.isText) : ∃ text, v = .text text := by
  cases v with
  | text text => exact ⟨text, rfl⟩
  | _ => cases isText

namespace Store

variable (st : Store)

theorem plainEqual_text (v : Value) (s : String) : v.plainEqual (.text s) = (v == .text s) := by
  cases v <;> rfl

@[simp]
theorem equal_text (v : Value) (s : String) : st.equal v (.text s) = (v == .text s) := by
  rw [← plainEqual_text]
  cases v <;> rfl

theorem equal_text_left (s : String) (v : Value) : st.equal (.text s) v = (v == .text s) := by
  have plain : Value.plainEqual (.text s) v = (v == .text s) := by
    cases v with
    | text t => exact BEq.comm
    | _ => rfl
  rw [← plain]
  rfl

@[simp]
theorem alike_text (v : Value) (s : String) : st.alike v (.text s) = (v == .text s) := by
  simp [alike]

theorem lookUp_text (es : Entries) (s : String) :
    st.lookUp es (.text s) = .ok (st.find? es (.text s)) := rfl

def under? (es : Entries) (name : String) : Option Value := findBy (· == ·) es (.text name)

def putUnder (es : Entries) (name : String) (v : Value) : Entries :=
  putBy (· == ·) (.text name) v es

theorem find?_text (es : Entries) (name : String) : st.find? es (.text name) = under? es name := by
  simp [find?, under?, findBy]

theorem put_text (es : Entries) (name : String) (v : Value) :
    st.put es (.text name) v = putUnder es name v := by
  unfold put putUnder
  induction es with
  | nil => rfl
  | cons e es ih => simp [putBy, ih]

theorem mem_of_under? {es : Entries} {name : String} {v : Value}
    (present : under? es name = some v) : (.text name, v) ∈ es := by
  unfold under? findBy at present
  obtain ⟨e, found, rfl⟩ := Option.map_eq_some_iff.mp present
  have key : e.1 = .text name := by simpa using List.find?_some found
  exact key ▸ List.mem_of_find?_eq_some found

theorem under?_putUnder (es : Entries) (name : String) (v : Value) :
    under? (putUnder es name v) name = some v := by
  unfold under? putUnder
  induction es with
  | nil => simp [putBy, findBy]
  | cons e es ih =>
    by_cases same : (e.1 == Value.text name) = true
    · simp [putBy, findBy, same]
    · simpa [putBy, findBy, same] using ih

end Store

end TreeQuery
