import OrmMapping.Document.Namespaces

/-!
# Printing documents

A mapping document is an XML declaration, a document type and the tree, indented by two spaces. An
element without children is closed at once; one that holds a text stands on a line of its own. What
would be taken for markup, or changed by a reader, is written as a reference.

* `Document`: the entity element under its root;
* `Document.text`: the whole document.
-/

namespace OrmMapping

/-- A mapping document: one entity under the root. -/
structure Document where
  entity : Element
deriving DecidableEq

namespace Printer

/-- A character inside an attribute value. -/
def attributeChar (c : Char) : List Char :=
  if c == '&' then "&amp;".toList
  else if c == '<' then "&lt;".toList
  else if c == '>' then "&gt;".toList
  else if c == '"' then "&quot;".toList
  else if c == '\t' then "&#9;".toList
  else if c == '\n' then "&#10;".toList
  else if c == '\r' then "&#13;".toList
  else [c]

/-- A character inside a text. -/
def textChar (c : Char) : List Char :=
  if c == '&' then "&amp;".toList
  else if c == '<' then "&lt;".toList
  else if c == '>' then "&gt;".toList
  else if c == '\r' then "&#13;".toList
  else [c]

/-- A text with references for the characters that need one. -/
def escape (one : Char → List Char) (s : String) : String :=
  String.ofList (s.toList.flatMap one)

/-- The attributes of a start tag, each after a space. -/
def attributesText (attributes : List (String × String)) : String :=
  String.join (attributes.map fun (name, value) =>
    " " ++ name ++ "=\"" ++ escape attributeChar value ++ "\"")

/-- The space in front of an element. -/
def indent (depth : Nat) : String :=
  String.ofList (List.replicate (2 * depth) ' ')

mutual

/-- An element on lines of its own. -/
def elementText (depth : Nat) : Element → String
  | .branch tag attributes children =>
    let start := indent depth ++ "<" ++ tag ++ attributesText attributes
    match children with
    | [] => start ++ "/>\n"
    | first :: rest =>
      start ++ ">\n" ++ (elementText (depth + 1) first ++ elementsText (depth + 1) rest) ++
        indent depth ++ "</" ++ tag ++ ">\n"
  | .leaf tag attributes text =>
    indent depth ++ "<" ++ tag ++ attributesText attributes ++ ">" ++ escape textChar text ++
      "</" ++ tag ++ ">\n"

/-- Elements one after the other. -/
def elementsText (depth : Nat) : List Element → String
  | [] => ""
  | e :: rest => elementText depth e ++ elementsText depth rest

end

/-- What stands before the tree. -/
def prologue : String :=
  "<?xml version='1.0' encoding='UTF-8'?>\n" ++
    "<!DOCTYPE hibernate-mapping PUBLIC \"-//Hibernate/Hibernate Mapping DTD 3.0//EN\" " ++
    "\"http://www.hibernate.org/dtd/hibernate-mapping-3.0.dtd\">\n"

/-- The tag of the root. -/
def rootTag : String := "hibernate-mapping"

/-- The comment that tells readers not to edit the document. -/
def generatedComment : String :=
  "<!-- Generated by entity_mapper; changes are overwritten on regeneration. -->"

end Printer

/-- The whole document. -/
def Document.text (d : Document) : String :=
  Printer.prologue ++ "<" ++ Printer.rootTag ++ ">\n" ++ Printer.indent 1 ++
    Printer.generatedComment ++ "\n" ++ Printer.elementText 1 d.entity.prefixed ++
    "</" ++ Printer.rootTag ++ ">\n"

/-- The document as it is stored, in UTF-8. -/
def Document.bytes (d : Document) : List UInt8 :=
  d.text.toUTF8.data.toList

end OrmMapping
