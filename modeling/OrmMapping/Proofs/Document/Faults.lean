import OrmMapping.Document.Layout
import OrmMapping.Proofs.Entity.Faults

/-!
# What keeps an entity from having a document

An entity that has an identifier or a parent fails to have a document only for what XML forbids in
tags and texts. Where there is a document, XML allows all of its texts, the entity name among them.

* `Element.fault?_ne_missingIdentifier`: what XML forbids in an element, by recursion on it;
* `document_ne_missingIdentifier`: the first identifier is never missing;
* `isXmlText_of_document`: the name of an entity that has a document.
-/

namespace OrmMapping

/-! ## Elements -/

/-- A tag is never faulty for the want of an identifier. -/
theorem TagName.fault?_ne_missingIdentifier (tag : String) :
    TagName.fault? tag ≠ some .missingIdentifier := by
  unfold TagName.fault?
  split
  · simp
  · split
    · -- a tag falls into a prefix and a name, or is malformed
      next fault hparts =>
      unfold TagName.ofString at hparts
      split at hparts
      · cases hparts
        simp
      · split at hparts
        · cases hparts
          simp
        · cases hparts
          simp
        · cases hparts
      · cases hparts
    · unfold TagName.partsFault?
      split
      · simp
      · split
        · simp
        · split <;> simp

namespace Element

variable {tag : String} {attributes : List (String × String)}

/-- A text is never faulty for the want of an identifier. -/
theorem textFault?_ne_missingIdentifier (text : String) :
    textFault? text ≠ some .missingIdentifier := by
  unfold textFault?
  split <;> simp

/-- A start tag with its attributes is never faulty for the want of an identifier. -/
theorem startFault?_ne_missingIdentifier (tag : String) (attributes : List (String × String)) :
    startFault? tag attributes ≠ some .missingIdentifier := by
  intro h
  rcases Option.or_eq_some_iff.mp h with htag | ⟨-, hattribute⟩
  · exact TagName.fault?_ne_missingIdentifier tag htag
  · obtain ⟨a, -, hfault⟩ := List.exists_of_findSome?_eq_some hattribute
    exact textFault?_ne_missingIdentifier a.2 hfault

mutual

/-- An element is never faulty for the want of an identifier, at any depth. -/
theorem fault?_ne_missingIdentifier : (e : Element) → e.fault? ≠ some .missingIdentifier
  | .branch tag attributes children => by
    intro h
    rcases Option.or_eq_some_iff.mp h with hstart | ⟨-, hchildren⟩
    · exact startFault?_ne_missingIdentifier tag attributes hstart
    · exact firstFault?_ne_missingIdentifier children hchildren
  | .leaf tag attributes text => by
    intro h
    rcases Option.or_eq_some_iff.mp h with hstart | ⟨-, htext⟩
    · exact startFault?_ne_missingIdentifier tag attributes hstart
    · exact textFault?_ne_missingIdentifier text htext

/-- Several elements are never faulty for the want of an identifier. -/
theorem firstFault?_ne_missingIdentifier :
    (es : List Element) → firstFault? es ≠ some .missingIdentifier
  | [] => by simp [firstFault?]
  | e :: rest => by
    intro h
    rcases Option.or_eq_some_iff.mp h with hfirst | ⟨-, hrest⟩
    · exact fault?_ne_missingIdentifier e hfirst
    · exact firstFault?_ne_missingIdentifier rest hrest

end

/-- XML allows the value of every attribute of an element without faults. -/
theorem isXmlText_of_fault? {e : Element} (h : e.fault? = none) {a : String × String}
    (ha : a ∈ e.attributes) : isXmlText a.2 = true := by
  have hstart : startFault? e.tag e.attributes = none := by
    cases e with
    | branch tag attributes children => exact (Option.or_eq_none_iff.mp h).1
    | leaf tag attributes text => exact (Option.or_eq_none_iff.mp h).1
  have hnone : textFault? a.2 = none :=
    List.findSome?_eq_none_iff.mp (Option.or_eq_none_iff.mp hstart).2 a ha
  unfold textFault? at hnone
  split at hnone
  · next hallowed => exact hallowed
  · cases hnone

end Element

/-- A text that XML allows has no null character. -/
theorem not_mem_of_isXmlText {s : String} (h : isXmlText s = true) : '\x00' ∉ s.toList := by
  intro hnull
  have hallowed := List.all_eq_true.mp h _ hnull
  revert hallowed
  decide

/-! ## Entities -/

namespace MappedEntity

variable {e : MappedEntity} {quoteAll : Bool} {d : Document}

/-- An entity that is identified never lacks the identifier that the writer looks for. -/
theorem document_ne_missingIdentifier (h : e.isIdentified = true) :
    e.document quoteAll ≠ .error .missingIdentifier := by
  have hfound : (e.placement.isNone && e.ids.isEmpty) = false := by
    unfold isIdentified at h
    revert h
    cases e.placement <;> simp
  unfold document
  split
  · -- the writer asks for an identifier first, and then for faults of the tree
    next fault hfault =>
    unfold documentFault? at hfault
    rw [hfound, if_neg Bool.false_ne_true] at hfault
    intro heq
    cases heq
    exact Element.fault?_ne_missingIdentifier _ hfault
  · simp

/-- The element of an entity, class or subclass, has the entity name among its attributes. -/
theorem entityName_mem_attributes (e : MappedEntity) (quoteAll : Bool) :
    ("entity-name", e.entityName) ∈ (e.element quoteAll).attributes := by
  unfold element
  split
  · unfold Layout.subclassElement
    split <;>
      simp [Layout.discriminatedElement, Layout.joinedElement, Element.attributes, Layout.text]
  · simp [Layout.classElement, Layout.classAttributes, Element.attributes, Layout.text]

/-- The name of an entity that has a document is a text that XML allows. -/
theorem isXmlText_of_document (h : e.document quoteAll = .ok d) :
    isXmlText e.entityName = true := by
  unfold document at h
  split at h
  · cases h
  · next hfree =>
    unfold documentFault? at hfree
    split at hfree
    · -- without an identifier there is no document
      rw [Option.or_eq_none_iff] at hfree
      cases hfree.2
    · exact Element.isXmlText_of_fault? hfree (entityName_mem_attributes e quoteAll)

end MappedEntity

end OrmMapping
