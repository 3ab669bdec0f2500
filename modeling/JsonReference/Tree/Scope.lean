import JsonReference.Reference

namespace JsonReference

def Json.nodeId? (node : Json) : Option Reference :=
  ((node.member? "id".toList).bind Json.string?).bind fun t => (Reference.parse t).toOption

def Json.refText? (node : Json) : Option Text :=
  (node.member? "$ref".toList).bind Json.string?

namespace Scope

/-- The scope at a node inside a given one. -/
def enter (scope : Reference) (node : Json) : Reference :=
  match node.nodeId? with
  | some id => scope.resolve id
  | none => scope

def enter? (scope : Reference) (node : Option Json) : Reference :=
  match node with
  | some node => enter scope node
  | none => scope

/-- The scope after going down from a node, which is missing once a step has led nowhere. -/
def along (scope : Reference) (node : Option Json) : List Text → Reference
  | [] => scope
  | token :: rest =>
      let child := node.bind (Pointer.child? · token)
      along (enter? scope child) child rest

end Scope
end JsonReference
