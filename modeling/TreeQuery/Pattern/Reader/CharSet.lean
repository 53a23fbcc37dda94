import TreeQuery.Pattern.Reader.Escape

namespace TreeQuery.Pattern.Reader

def setItem (flags : Flags) : Reader CharItem := do
  let c ← next "unterminated character set"
  if c == '\\' then setEscape flags else return .code c.toNat

def setItems (flags : Flags) : Nat → List CharItem → Reader (List CharItem)
  | 0, _ => refuse "unterminated character set"
  | fuel + 1, items => do
    let closed ← if items.isEmpty then pure false else accept ']'
    if closed then return items.reverse
    let item ← setItem flags
    if ← accept '-' then
      if ← accept ']' then return (.code 0x2d :: item :: items).reverse
      let last ← setItem flags
      match item, last with
      | .code low, .code high =>
        if high < low then refuse "bad character range"
        else setItems flags fuel (.range low high :: items)
      | _, _ => refuse "bad character range"
    else setItems flags fuel (item :: items)

def charSet (flags : Flags) : Reader Program := do
  let negated ← accept '^'
  setOf flags negated (← setItems flags ((← get).rest.length + 1) [])

end TreeQuery.Pattern.Reader
