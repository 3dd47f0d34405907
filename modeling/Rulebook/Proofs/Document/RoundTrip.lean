import Mathlib.Data.List.Forall2
import Rulebook.Proofs.Document.Built
import Rulebook.Proofs.Document.XmlSigns

/-!
# Written documents read back

A written document gives back its elements with their attributes, their order and their text.
-/

namespace Rulebook
namespace Xml

/-! ### Signs put together -/

/-- The contents of an element that contains a text only. -/
def textContents (text : List Char) : List Markup :=
  if text = [] then [] else [.text (String.ofList text)]

mutual

/-- What is read of a tree. -/
def readTree : Tree → Markup
  | .element _ name attributes children =>
      .element name attributes <|
        if children.any Tree.isElement then readTrees children
        else textContents (Tree.textContentAll children).toList
  | .text value => .text value
  | .cdata value => .text value

/-- What is read of a row of trees. -/
def readTrees : List Tree → List Markup
  | [] => []
  | tree :: later => readTree tree :: readTrees later

end

theorem assemble_characters (outer : List OpenElement) (inner : List Markup) (text : List Char)
    (later : List Sign) :
    assemble outer inner (characters text ++ later) =
      assemble outer (text.foldl addCharacter inner) later := by
  induction text generalizing inner with
  | nil => rfl
  | cons character text induction => exact induction (addCharacter inner character)

theorem foldl_addCharacter_text (value : String) (text : List Char) :
    text.foldl addCharacter [.text value] = [.text (value ++ String.ofList text)] := by
  induction text generalizing value with
  | nil => simp
  | cons character text induction =>
      rw [List.foldl_cons, addCharacter, induction]
      congr 2
      apply String.toList_injective
      simp

/-- The characters of a text run together. -/
theorem foldl_addCharacter_nil (text : List Char) :
    text.foldl addCharacter [] = textContents text := by
  cases text with
  | nil => rfl
  | cons character text =>
      rw [List.foldl_cons, addCharacter, foldl_addCharacter_text, textContents, if_neg (by simp)]
      · congr 2
        apply String.toList_injective
        simp
      · nofun

/-- Contents without a text that counts. -/
def IsSpaced (contents : List Markup) : Prop :=
  ∀ content ∈ contents, content.isElement = true ∨ content.isBlank = true

/-- White space between elements does not count. -/
theorem IsSpaced.foldl_addCharacter {inner : List Markup} (spaced : IsSpaced inner)
    {text : List Char} (blank : ∀ character ∈ text, isBlank character = true) :
    IsSpaced (text.foldl addCharacter inner) ∧
      (text.foldl addCharacter inner).filter (fun content => !content.isBlank) =
        inner.filter fun content => !content.isBlank := by
  induction text generalizing inner with
  | nil => exact ⟨spaced, rfl⟩
  | cons character text induction =>
      rw [List.forall_mem_cons] at blank
      have step : IsSpaced (addCharacter inner character) ∧
          (addCharacter inner character).filter (fun content => !content.isBlank) =
            inner.filter fun content => !content.isBlank := by
        unfold addCharacter
        split
        · rename_i value earlier
          have value_blank : (Markup.text value).isBlank = true :=
            (spaced _ List.mem_cons_self).resolve_left (by simp [Markup.isElement])
          have pushed_blank : (Markup.text (value.push character)).isBlank = true := by
            simp only [Markup.isBlank, String.toList_push, List.all_append] at value_blank ⊢
            simp [value_blank, blank.1]
          refine ⟨List.forall_mem_cons.mpr ⟨.inr pushed_blank, fun content member =>
            spaced content (List.mem_cons_of_mem _ member)⟩, ?_⟩
          rw [List.filter_cons_of_neg (by simp [pushed_blank]),
            List.filter_cons_of_neg (by simp [value_blank])]
        · have fresh_blank : (Markup.text (String.singleton character)).isBlank = true := by
            simp [Markup.isBlank, blank.1]
          refine ⟨List.forall_mem_cons.mpr ⟨.inr fresh_blank, spaced⟩, ?_⟩
          rw [List.filter_cons_of_neg (by simp [fresh_blank])]
      obtain ⟨still, same⟩ := induction step.1 blank.2
      exact ⟨still, same.trans step.2⟩

theorem isBlank_of_mem_lineStart (depth : Nat) (breaks : Bool) :
    ∀ character ∈ lineStart depth breaks, isBlank character = true := by
  intro character member
  rcases eq_of_mem_lineStart member with rfl | rfl <;> rfl

theorem isElement_readTree (tree : Tree) : (readTree tree).isElement = tree.isElement := by
  cases tree <;> rfl

theorem isBlank_readTree {tree : Tree} (element : tree.isElement = true) :
    (readTree tree).isBlank = false := by
  cases tree with
  | element => rfl
  | text | cdata => simp [Tree.isElement] at element

/-- Do the signs of a tree put the tree behind the start of its line? -/
def IsAssembled (tree : Tree) : Prop :=
  ∀ depth breaks outer inner later,
    assemble outer inner (treeSigns depth breaks tree ++ later) =
      assemble outer (readTree tree :: (lineStart depth breaks).foldl addCharacter inner) later

/-- A row of elements is put together to its elements, with white space between them. -/
theorem exists_assemble_rowSigns {children : List Tree}
    (elements : ∀ child ∈ children, child.isElement = true)
    (each : ∀ child ∈ children, IsAssembled child) (depth : Nat) (breaks : Bool)
    (outer : List OpenElement) {inner : List Markup} (spaced : IsSpaced inner) :
    ∃ contents, IsSpaced contents ∧
      contents.filter (fun content => !content.isBlank) =
        (readTrees children).reverse ++ inner.filter (fun content => !content.isBlank) ∧
      ∀ later, assemble outer inner (rowSigns depth breaks children ++ later) =
        assemble outer contents later := by
  induction children generalizing breaks inner with
  | nil => exact ⟨inner, spaced, by simp [readTrees], fun _ => rfl⟩
  | cons child children induction =>
      rw [List.forall_mem_cons] at elements each
      obtain ⟨spaced_line, same⟩ :=
        spaced.foldl_addCharacter (isBlank_of_mem_lineStart depth breaks)
      have spaced_child :
          IsSpaced (readTree child :: (lineStart depth breaks).foldl addCharacter inner) :=
        List.forall_mem_cons.mpr ⟨.inl ((isElement_readTree child).trans elements.1), spaced_line⟩
      obtain ⟨contents, spaced_contents, solid, assembled⟩ :=
        induction elements.2 each.2 child.isElement spaced_child
      refine ⟨contents, spaced_contents, ?_, fun later => ?_⟩
      · rw [solid, readTrees, List.reverse_cons, List.append_assoc,
          List.filter_cons_of_pos (by simp [isBlank_readTree elements.1]), same]
        rfl
      · rw [rowSigns, List.append_assoc, each.1, assembled]

theorem rowSigns_of_text {children : List Tree} (texts : ∀ child ∈ children, child.isElement = false)
    (depth : Nat) (breaks : Bool) :
    rowSigns depth breaks children = characters (Tree.textContentAll children).toList := by
  induction children generalizing breaks with
  | nil => rfl
  | cons child children induction =>
      rw [List.forall_mem_cons] at texts
      rw [rowSigns, induction texts.2, Tree.textContentAll, String.toList_append, characters,
        characters, List.map_append]
      cases child with
      | element => simp [Tree.isElement] at texts
      | text | cdata => rfl

/-- Elements with white space between them are settled as the elements. -/
theorem settled_eq_readTrees {children : List Tree} {contents : List Markup}
    (some_child : children ≠ []) (elements : ∀ child ∈ children, child.isElement = true)
    (solid : contents.filter (fun content => !content.isBlank) = (readTrees children).reverse) :
    settled contents.reverse = readTrees children := by
  obtain ⟨child, later, rfl⟩ := List.exists_cons_of_ne_nil some_child
  have kept : readTree child ∈ contents.filter fun content => !content.isBlank := by
    rw [solid, List.mem_reverse]
    exact List.mem_cons_self
  have has_element : contents.reverse.any Markup.isElement = true := by
    refine List.any_eq_true.mpr ⟨readTree child, ?_, ?_⟩
    · exact List.mem_reverse.mpr (List.mem_filter.mp kept).1
    · exact (isElement_readTree child).trans (elements child List.mem_cons_self)
  rw [settled, if_pos has_element, List.filter_reverse, solid, List.reverse_reverse]

theorem breaksAfter_of_text {children : List Tree} (some_child : children ≠ [])
    (texts : ∀ child ∈ children, child.isElement = false) : breaksAfter children = false := by
  rw [breaksAfter, List.getLast?_eq_some_getLast some_child]
  exact texts _ (List.getLast_mem some_child)

theorem settled_textContents (text : List Char) :
    settled (textContents text).reverse = textContents text := by
  unfold textContents
  split <;> rfl

/-- The signs of an element are put together to what is read of it. -/
theorem isAssembled_of_isLegible {tree : Tree} (legible : IsLegible tree)
    (element : tree.isElement = true) : IsAssembled tree := by
  induction legible with
  | text | cdata => simp [Tree.isElement] at element
  | @element id name attributes children _ _ unmixed below induction =>
      intro depth breaks outer inner later
      let opened : OpenElement := ⟨name, attributes, (lineStart depth breaks).foldl addCharacter inner⟩
      rw [treeSigns, List.append_assoc, assemble_characters, List.cons_append, assemble]
      by_cases childless : children = []
      · subst childless
        simp [assemble, readTree, Tree.textContentAll, textContents, settled]
      have some_child : children.isEmpty = false := by simpa using childless
      rw [some_child, if_neg Bool.false_ne_true, List.append_assoc, List.append_assoc, readTree]
      rcases unmixed with elements | texts
      · have each : ∀ child ∈ children, IsAssembled child :=
          fun child member => induction child member (elements child member)
        have has_element : children.any Tree.isElement = true :=
          List.any_eq_true.mpr ⟨_, List.head_mem childless, elements _ (List.head_mem childless)⟩
        have none_yet : IsSpaced [] := List.forall_mem_nil _
        obtain ⟨contents, spaced, solid, assembled⟩ :=
          exists_assemble_rowSigns elements each (depth + 1) true (opened :: outer) none_yet
        obtain ⟨-, same⟩ := spaced.foldl_addCharacter
          (isBlank_of_mem_lineStart depth (breaksAfter children))
        rw [List.filter_nil, List.append_nil] at solid
        rw [assembled, assemble_characters, List.singleton_append, assemble, if_pos rfl,
          settled_eq_readTrees childless elements (same.trans solid), if_pos has_element]
      · have no_element : ¬ children.any Tree.isElement = true := by
          rw [List.any_eq_true]
          rintro ⟨child, member, is_element⟩
          simp [texts child member] at is_element
        rw [rowSigns_of_text texts, assemble_characters, foldl_addCharacter_nil,
          breaksAfter_of_text childless texts]
        change assemble _ _ (.closing name :: later) = _
        rw [assemble, if_pos rfl, settled_textContents, if_neg no_element]

theorem body?_declaration (rest : List Char) : body? (declaration ++ rest) = some rest := by
  rfl

/-- A written document is read as what is read of its tree. -/
theorem read?_toXml {document : Document} {tree : Tree}
    (read : document.treeAt? Document.root = some tree) (legible : IsLegible tree)
    (element : tree.isElement = true) : read? document.toXml.toList = some (readTree tree) := by
  have line : signs? ['\n'] = some [.character '\n'] := by
    decide +kernel
  have ending : (readTree tree).isElement = true := (isElement_readTree tree).trans element
  have text : document.toXml.toList = declaration ++ (write 0 true tree ++ ['\n']) := by
    simp [Document.toXml, read]
  rw [text, read?, body?_declaration, Option.bind_some, signs?_write legible, line, Option.map_some,
    Option.bind_some, isAssembled_of_isLegible legible element]
  cases tree with
  | text | cdata => simp [Tree.isElement] at element
  | element => rfl

end Xml

/-! ### Documents -/

mutual

/-- What is read of a tree has its text. -/
theorem Tree.textContent_readTree : ∀ tree : Tree, (Xml.readTree tree).textContent = tree.textContent
  | .element _ name attributes children => by
      rw [Xml.readTree, Markup.textContent, Tree.textContent]
      split
      · exact Tree.textContentAll_readTrees children
      · rw [Xml.textContents]
        split
        · rename_i nothing
          rw [String.toList_eq_nil_iff] at nothing
          rw [nothing, Markup.textContentAll]
        · rw [Markup.textContentAll, Markup.textContentAll, Markup.textContent, String.ofList_toList,
            String.append_empty]
  | .text _ => rfl
  | .cdata _ => rfl

/-- What is read of a row of trees has their text. -/
theorem Tree.textContentAll_readTrees : ∀ trees : List Tree,
    Markup.textContentAll (Xml.readTrees trees) = Tree.textContentAll trees
  | [] => rfl
  | tree :: later => by
      rw [Xml.readTrees, Markup.textContentAll, Tree.textContentAll, Tree.textContent_readTree tree,
        Tree.textContentAll_readTrees later]

end

/-- Is it an element? -/
def Content.isElement : Content → Bool
  | element _ => true
  | _ => false

namespace Document

/-- Are the names of elements and of attributes names that XML allows? -/
def HasXmlNames (document : Document) : Prop :=
  ∀ element ∈ document.elements, Xml.isName element.name.toList = true ∧
    ∀ entry ∈ element.attributes, Xml.isName entry.1.toList = true

/-- Does no element contain both elements and text? -/
def IsUnmixed (document : Document) : Prop :=
  ∀ element ∈ document.elements, (∀ content ∈ element.children, content.isElement = true) ∨
    ∀ content ∈ element.children, content.isElement = false

instance (document : Document) : Decidable document.HasXmlNames :=
  inferInstanceAs (Decidable (∀ element ∈ document.elements,
    Xml.isName element.name.toList = true ∧
      ∀ entry ∈ element.attributes, Xml.isName entry.1.toList = true))

instance (document : Document) : Decidable document.IsUnmixed :=
  inferInstanceAs (Decidable (∀ element ∈ document.elements,
    (∀ content ∈ element.children, content.isElement = true) ∨
      ∀ content ∈ element.children, content.isElement = false))

/-- Does some markup show an element of a document: its name, its attributes in order, its text, and
its child elements in order? -/
inductive Mirrors (document : Document) : ElementId → Markup → Prop where
  /-- An element that is shown with what is below it. -/
  | element {id : ElementId} {element : Element} {contents : List Markup}
      (found : document.get? id = some element)
      (text : Markup.textContentAll contents = document.textContent id)
      (below : List.Forall₂ (Mirrors document) element.childElements
        (contents.filter Markup.isElement)) :
      Mirrors document id (.element element.name element.attributes.toList contents)

variable {document : Document}

/-- The child elements of an element are shown in order if the tree of each of them shows it. -/
theorem forall₂_mirrors {id : ElementId} {element : Element}
    (each : ∀ content ∈ element.children.toList, ∃ tree, document.contentTree? id content = some tree ∧
      tree.isElement = content.isElement ∧
        ∀ child, content = .element child → document.Mirrors child (Xml.readTree tree)) :
    List.Forall₂ document.Mirrors element.childElements
      ((Xml.readTrees (element.children.toList.filterMap (document.contentTree? id))).filter
        Markup.isElement) := by
  unfold Element.childElements
  generalize element.children.toList = contents at each ⊢
  induction contents with
  | nil => exact .nil
  | cons content contents induction =>
      rw [List.forall_mem_cons] at each
      obtain ⟨⟨tree, read, same, shown⟩, later⟩ := each
      rw [List.filterMap_cons_some read, Xml.readTrees]
      have kind := (Xml.isElement_readTree tree).trans same
      cases content with
      | element child =>
          rw [List.filter_cons_of_pos kind]
          exact .cons (shown child rfl) (induction later)
      | text | cdata =>
          rw [List.filter_cons_of_neg (by simp [kind, Content.isElement])]
          exact induction later

theorem filter_isElement_readTree (children : List Tree) :
    (if children.any Tree.isElement then Xml.readTrees children
      else Xml.textContents (Tree.textContentAll children).toList).filter Markup.isElement =
      (Xml.readTrees children).filter Markup.isElement := by
  split
  · rfl
  · rename_i none_element
    have no_element : (Xml.readTrees children).filter Markup.isElement = [] := by
      induction children with
      | nil => rfl
      | cons child children induction =>
          simp only [List.any_cons, Bool.or_eq_true, not_or] at none_element
          rw [Xml.readTrees, List.filter_cons_of_neg, induction none_element.2]
          rw [Xml.isElement_readTree]
          exact none_element.1
    rw [no_element, Xml.textContents]
    split <;> rfl

/-- A tree of a content: it can be read back, and what is read of a child element shows it. -/
structure Shows (document : Document) (content : Content) (tree : Tree) : Prop where
  /-- It is an element if the content is one. -/
  isElement_eq : tree.isElement = content.isElement
  /-- It can be read back. -/
  legible : Xml.IsLegible tree
  /-- What is read of it shows the child element. -/
  mirrors : ∀ child, content = .element child → document.Mirrors child (Xml.readTree tree)

/-- An element has a tree that can be read back and shows it, if each of its contents has one. -/
theorem exists_tree_of_contents (named : document.HasXmlNames) (unmixed : document.IsUnmixed)
    {id : ElementId} {element : Element} (found : document.get? id = some element)
    (each : ∀ content ∈ element.children.toList, ∃ tree,
      document.contentTree? id content = some tree ∧ document.Shows content tree) :
    ∃ tree, document.treeAt? id = some tree ∧ tree.isElement = true ∧ Xml.IsLegible tree ∧
      document.Mirrors id (Xml.readTree tree) := by
  have listed : element ∈ document.elements := Array.mem_of_getElem? found
  have read := treeAt?_eq found
  have kinds : ∀ child ∈ element.children.toList.filterMap (document.contentTree? id),
      ∃ content ∈ element.children, document.Shows content child := by
    intro child member
    obtain ⟨content, present, shown⟩ := List.mem_filterMap.mp member
    obtain ⟨tree, read_content, shows⟩ := each content present
    cases Option.some.inj (shown.symm.trans read_content)
    exact ⟨content, by simpa using present, shows⟩
  refine ⟨_, read, rfl, ?_, ?_⟩
  · refine .element (named element listed).1 ?_ ?_ fun child member => (kinds child member).elim
      fun _ shown => shown.2.legible
    · intro entry member
      exact (named element listed).2 entry (by simpa using member)
    · refine (unmixed element listed).imp (fun elements child member => ?_)
        fun texts child member => ?_
      · obtain ⟨content, present, shows⟩ := kinds child member
        rw [shows.isElement_eq, elements content present]
      · obtain ⟨content, present, shows⟩ := kinds child member
        rw [shows.isElement_eq, texts content present]
  · have text := Tree.textContent_readTree (.element id element.name element.attributes.toList
      (element.children.toList.filterMap (document.contentTree? id)))
    refine .element found ?_ ?_
    · rw [textContent, read]
      exact text
    · rw [filter_isElement_readTree]
      refine forall₂_mirrors fun content member => ?_
      obtain ⟨tree, read_content, shows⟩ := each content member
      exact ⟨tree, read_content, shows.isElement_eq, shows.mirrors⟩

/-- Every element of a document that has been built has a tree, and what is read of the tree shows the
element. -/
theorem Built.exists_tree (built : document.Built) (named : document.HasXmlNames)
    (unmixed : document.IsUnmixed) {id : ElementId} (inside : id < document.size) :
    ∃ tree, document.treeAt? id = some tree ∧ tree.isElement = true ∧ Xml.IsLegible tree ∧
      document.Mirrors id (Xml.readTree tree) := by
  -- The child elements of an element were made after it, so the induction goes from the last element
  -- to the first.
  induction rank : document.size - id using Nat.strongRecOn generalizing id with
  | ind _ induction =>
      subst rank
      obtain ⟨element, found⟩ := exists_get? inside
      refine exists_tree_of_contents named unmixed found fun content member => ?_
      cases content with
      | text value => exact ⟨.text value, rfl, rfl, .text value, nofun⟩
      | cdata value => exact ⟨.cdata value, rfl, rfl, .cdata value, nofun⟩
      | element child =>
          obtain ⟨above, below⟩ := built.isOrdered id element found child (by simpa using member)
          obtain ⟨tree, read, is_element, legible, shown⟩ :=
            induction _ (Nat.sub_lt_sub_left inside above) below rfl
          refine ⟨tree, (if_pos above).trans read, is_element, legible, ?_⟩
          rintro _ ⟨⟩
          exact shown

/-- A document that has been built, with names that XML allows and without mixed contents, is
recovered from what is written: the names, the attributes in order, the child elements in order, and
the text of every element. -/
theorem exists_read?_toXml (built : document.Built) (named : document.HasXmlNames)
    (unmixed : document.IsUnmixed) :
    ∃ markup, Xml.read? document.toXml.toList = some markup ∧
      document.Mirrors Document.root markup := by
  obtain ⟨tree, read, element, legible, shown⟩ := built.exists_tree named unmixed built.size_pos
  exact ⟨Xml.readTree tree, Xml.read?_toXml read legible element, shown⟩

/-- A document with an attribute to be escaped and a text full of terminators. -/
def terminators : Document :=
  let item := (Document.new "set").appendElement Document.root "item"
  ((item.2.setAttribute item.1 "key" "a<\"b\"").appendCData item.1 "[]]>]]>").appendText item.1 "]]&"

/-- Terminators in a text come back, those at its end too. -/
theorem exists_read?_toXml_terminators :
    ∃ markup, Xml.read? terminators.toXml.toList = some markup ∧
      terminators.Mirrors Document.root markup := by
  have item : 1 < ((Document.new "set").appendElement Document.root "item").2.size := by decide
  have built : terminators.Built :=
    .appendText (.appendCData (.setAttribute (.appendElement (.new "set") (by decide) "item") item
      "key" "a<\"b\"") (by decide) "[]]>]]>") (by decide) "]]&"
  exact exists_read?_toXml built (by decide +kernel) (by decide +kernel)

end Document
end Rulebook
