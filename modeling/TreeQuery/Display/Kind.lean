import TreeQuery.Store

namespace TreeQuery

namespace Object

def kindName : Object → String
  | tuple _ => "tuple"
  | list _ => "list"
  | dict _ => "dict"
  | node _ => "descend.node.Node"
  | step (.scalar _ _) => "descend.compose.ScalarStep"
  | step (.branch _ _) => "descend.compose.BranchStep"
  | query _ => "descend.compose.Descent"
  | iterator _ => "list_iterator"
  | element _ => "xml.etree.ElementTree.Element"
  | chooser _ => "Chooser"
  | error kind _ => kind.fullName
  | pattern _ => "re.Pattern"
  | closure _ => "function"

end Object

namespace Function

def kindName : Function → String
  | node | query => "type"
  | nodeOfRecord | nodeOfElement => "method"
  | _ => "function"

end Function

namespace Store

def kindName (st : Store) : Value → String
  | .null => "NoneType"
  | .bool _ => "bool"
  | .int _ => "int"
  | .float _ => "float"
  | .text _ => "str"
  | .bytes _ => "bytes"
  | .function f => f.kindName
  | .errorClass _ => "type"
  | .ref a => ((st.read? a).map Object.kindName).getD "object"

def shownKind (st : Store) (v : Value) : String := "<class '" ++ st.kindName v ++ "'>"

end Store

end TreeQuery
