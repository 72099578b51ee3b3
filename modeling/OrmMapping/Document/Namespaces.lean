import OrmMapping.Document.Element

/-!
# Namespace prefixes

In a written document a name stands in its namespace by a prefix, which the element itself or one
around it declares. Prefixes are customary for some namespaces and made up for all others, counted
through the document in its order.

* `Element.prefixed`: a tree with prefixes in place of namespaces;
* `prefixedTag`: a tag as it is written, with the declarations that it needs.
-/

namespace OrmMapping

/-- The namespace that goes by a resource of a host on the web. -/
def webNamespace (host path : String) : String :=
  "http:" ++ "//" ++ host ++ "/" ++ path

/-- A namespace that comes with the formats of documents themselves. -/
def formatNamespace (path : String) : String :=
  webNamespace "www.w3.org" path

/-- The namespace that every document knows by the prefix `xml`, without a declaration. -/
def xmlNamespace : String :=
  formatNamespace "XML/1998/namespace"

/-- Namespaces with a customary prefix. -/
def customaryPrefixes : List (String × String) := [
  (formatNamespace "1999/xhtml", "html"),
  (formatNamespace "1999/XSL/Transform", "xsl"),
  (formatNamespace "1999/02/22-rdf-syntax-ns#", "rdf"),
  (webNamespace "schemas.xmlsoap.org" "wsdl/", "wsdl"),
  (formatNamespace "2001/XMLSchema", "xs"),
  (formatNamespace "2001/XMLSchema-instance", "xsi"),
  (webNamespace "purl.org" "dc/elements/1.1/", "dc")]

/-- A tag as it is written, the declarations that it needs, the namespaces that are declared inside
its element, and the number of prefixes made up so far. -/
structure PrefixedTag where
  tag : String
  declarations : List (String × String) := []
  declared : List (String × String)
  made : Nat

/-- The prefix of a namespace that is not declared yet, and the number of prefixes made up. -/
def newPrefix (made : Nat) (space : String) : String × Nat :=
  match customaryPrefixes.lookup space with
  | some known => (known, made)
  | none => ("ns" ++ toString made, made + 1)

/-- A name in a namespace as it is written. -/
def prefixedName (declared : List (String × String)) (made : Nat) (space name : String) :
    PrefixedTag :=
  match declared.lookup space with
  | some known => { tag := known ++ ":" ++ name, declared, made }
  | none =>
    let (chosen, made) := newPrefix made space
    { tag := chosen ++ ":" ++ name, declarations := [("xmlns:" ++ chosen, space)]
      declared := (space, chosen) :: declared, made }

/-- A tag as it is written. -/
def prefixedTag (declared : List (String × String)) (made : Nat) (tag : String) : PrefixedTag :=
  match TagName.ofString tag with
  | .ok ⟨some space, name⟩ => prefixedName declared made space name
  | .ok ⟨none, name⟩ => { tag := name, declared, made }
  | .error _ => { tag, declared, made }

namespace Element

mutual

/-- An element with prefixes in place of namespaces, and the number of prefixes made up. -/
def prefixedFrom (declared : List (String × String)) (made : Nat) : Element → Element × Nat
  | .branch tag attributes children =>
    let written := prefixedTag declared made tag
    let inner := prefixedAll written.declared written.made children
    (.branch written.tag (written.declarations ++ attributes) inner.1, inner.2)
  | .leaf tag attributes text =>
    let written := prefixedTag declared made tag
    (.leaf written.tag (written.declarations ++ attributes) text, written.made)

/-- Elements one after the other with prefixes in place of namespaces. -/
def prefixedAll (declared : List (String × String)) (made : Nat) :
    List Element → List Element × Nat
  | [] => ([], made)
  | e :: rest =>
    let first := prefixedFrom declared made e
    let others := prefixedAll declared first.2 rest
    (first.1 :: others.1, others.2)

end

/-- The tree with prefixes in place of namespaces. -/
def prefixed (e : Element) : Element :=
  (prefixedFrom [(xmlNamespace, "xml")] 0 e).1

end Element

end OrmMapping
