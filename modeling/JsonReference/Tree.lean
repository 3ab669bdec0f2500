import JsonReference.Tree.Index

namespace JsonReference

structure Frame where
  pointer : Pointer
  scope : Reference
deriving Repr

/-- A document with a cursor on it, which carries the scope at its position. Every move saves the
position before it. -/
structure Tree where
  document : Json
  loadingRef : Reference
  pointer : Pointer
  scope : Reference
  stack : List Frame
  index : Index

namespace Tree

def rootScope (t : Tree) : Reference := Scope.enter t.loadingRef t.document

def make (loadingRef : Reference) (document : Json) (dereferencing : Dereferencing) : Tree where
  document
  loadingRef
  pointer := .root
  scope := Scope.enter loadingRef document
  stack := []
  index := .build dereferencing loadingRef document

def dereferencing (t : Tree) : Dereferencing := t.index.dereferencing

def indexedIds (t : Tree) : Nat := t.index.entries.length

def depth (t : Tree) : Nat := t.stack.length

def nodeAt? (t : Tree) (p : Pointer) : Option Json := p.get? t.document

def node? (t : Tree) : Option Json := t.nodeAt? t.pointer

def location (t : Tree) : Reference := t.loadingRef.withPointer t.pointer

def save (t : Tree) : Tree := { t with stack := ⟨t.pointer, t.scope⟩ :: t.stack }

def step (t : Tree) (token : Text) : Tree :=
  let pointer := t.pointer.append token
  { t with pointer, scope := Scope.enter? t.scope (t.nodeAt? pointer) }

def descend (t : Tree) (relative : Pointer) : Tree := relative.tokens.foldl step t

def toRoot (t : Tree) : Tree := { t with pointer := .root, scope := t.rootScope }

def push (t : Tree) (relative : Pointer) : Tree := t.save.descend relative

def pushToken (t : Tree) (token : Text) : Tree := t.push ⟨[token]⟩

def pushIndex (t : Tree) (index : Nat) : Tree := t.push (Pointer.root.appendIndex index)

def jumpTo (t : Tree) (absolute : Pointer) : Tree := t.save.toRoot.descend absolute

def pop? (t : Tree) : Option Tree :=
  match t.stack with
  | [] => none
  | frame :: rest => some { t with pointer := frame.pointer, scope := frame.scope, stack := rest }

def popMessage : String := "cannot pop past the root: navigation stack is empty"

def fork (t : Tree) : Tree := { t with stack := [] }

def resolve (t : Tree) (r : Reference) : Reference := t.scope.resolve r

def containsRef (t : Tree) (r : Reference) : Bool := t.index.contains t.loadingRef r

def locate? (t : Tree) (r : Reference) : Option Pointer := t.index.locate? t.loadingRef t.document r

end Tree
end JsonReference
