import OrmMapping.Document.TagName

/-!
# Elements

The tree of a mapping document. An element has its attributes in order and either child elements or
a text; comments and mixed content do not occur below the root.

* `Element`: the tree;
* `Element.fault?`: the first thing in it, in document order, that XML does not allow.
-/

namespace OrmMapping

/-- An element of a document. -/
inductive Element where
  | branch (tag : String) (attributes : List (String × String)) (children : List Element)
  | leaf (tag : String) (attributes : List (String × String)) (text : String)

namespace Element

/-- The tag. -/
def tag : Element → String
  | .branch tag _ _ => tag
  | .leaf tag _ _ => tag

/-- The attributes in order. -/
def attributes : Element → List (String × String)
  | .branch _ attributes _ => attributes
  | .leaf _ attributes _ => attributes

/-- The child elements in order. -/
def children : Element → List Element
  | .branch _ _ children => children
  | .leaf _ _ _ => []

/-- The value of an attribute. -/
def attribute? (e : Element) (name : String) : Option String :=
  e.attributes.lookup name

/-! ## Equality -/

mutual

/-- Whether two elements are equal. -/
def same : Element → Element → Bool
  | .branch t as xs, .branch u bs ys => t == u && as == bs && sameAll xs ys
  | .leaf t as x, .leaf u bs y => t == u && as == bs && x == y
  | _, _ => false

/-- Whether two lists hold equal elements in the same order. -/
def sameAll : List Element → List Element → Bool
  | [], [] => true
  | x :: xs, y :: ys => x.same y && sameAll xs ys
  | _, _ => false

end

mutual

/-- `same` decides equality, together with `sameAll` on the children. -/
theorem same_iff : (a b : Element) → (a.same b = true ↔ a = b)
  | .branch t as xs, b => by cases b <;> simp [same, sameAll_iff xs, and_assoc]
  | .leaf t as x, b => by cases b <;> simp [same, and_assoc]

theorem sameAll_iff : (xs ys : List Element) → (sameAll xs ys = true ↔ xs = ys)
  | [], ys => by cases ys <;> simp [sameAll]
  | x :: xs, ys => by cases ys <;> simp [sameAll, same_iff x, sameAll_iff xs]

end

instance : DecidableEq Element := fun a b => decidable_of_iff _ (same_iff a b)

/-! ## What XML allows -/

/-- What is wrong with a text. -/
def textFault? (text : String) : Option DocumentFault :=
  if isXmlText text then none else some .forbiddenText

/-- What is wrong with the start of an element. -/
def startFault? (tag : String) (attributes : List (String × String)) : Option DocumentFault :=
  (TagName.fault? tag).or (attributes.findSome? fun (_, value) => textFault? value)

mutual

/-- The first fault of an element in document order. -/
def fault? : Element → Option DocumentFault
  | .branch tag attributes children => (startFault? tag attributes).or (firstFault? children)
  | .leaf tag attributes text => (startFault? tag attributes).or (textFault? text)

/-- The first fault of several elements in document order. -/
def firstFault? : List Element → Option DocumentFault
  | [] => none
  | e :: rest => e.fault?.or (firstFault? rest)

end

end Element

end OrmMapping
