import Mathlib.Tactic.TFAE
import Colloquy.Proofs.Markup.DocType
import Colloquy.Proofs.Markup.Written

/-! Trees that are written and read again. Every tree that was read comes back as it was, but for two things: a carriage
return in a text is read as a line end, and a name in a namespace is not read at all. -/
namespace Colloquy.Markup

/-- What holds of an element and of all that are in it. -/
inductive Throughout (p : Element → Prop) : Element → Prop where
  | intro {e : Element} (here : p e) (inside : ∀ child ∈ e.elements, Throughout p child) : Throughout p e

mutual

/-- A node with every line end in its texts a single line feed. -/
def Node.unifyLines : Node → Node
  | .text value => .text (String.ofList (normalizeLines value.toList))
  | .comment body => .comment body
  | .element e => .element e.unifyLines

/-- A tree with such line ends. -/
def Element.unifyLines : Element → Element
  | ⟨tag, attributes, children⟩ => ⟨tag, attributes, unifyNodes children⟩

/-- Several nodes with such line ends. -/
def unifyNodes : List Node → List Node
  | [] => []
  | node :: rest => node.unifyLines :: unifyNodes rest

end

/-! ## What is written -/

/-- The children of an element and its end tag, up to what follows it. -/
def bodyChars (tag : String) (children : List Node) (rest : List Char) : List Char :=
  (writeNodes children).toList ++ '<' :: '/' :: (tag.toList ++ '>' :: rest)

/-- What stands behind the start tag of an element, which is its own end tag when there are no children. -/
def Element.behindTag (e : Element) (rest : List Char) : List Char :=
  if e.children.isEmpty then rest else bodyChars e.tag e.children rest

theorem write_chars (e : Element) (rest : List Char) :
    e.write.toList ++ rest = '<' :: tagChars e.tag e.attributes e.children.isEmpty (e.behindTag rest) := by
  obtain ⟨tag, attributes, children⟩ := e
  cases children with
  | nil => simp [Element.write, Element.behindTag, tagChars, tagMark]
  | cons first more => simp [Element.write, Element.behindTag, writeNodes, tagChars, tagMark, bodyChars]

theorem write_begins {node : Node} (other : node.isText = false) : ∃ more, node.write.toList = '<' :: more := by
  cases node with
  | text value => cases other
  | comment body => exact ⟨'!' :: '-' :: '-' :: (body ++ "-->").toList, by simp [Node.write]⟩
  | element e =>
    have written := write_chars e []
    rw [List.append_nil] at written
    exact ⟨_, written⟩

/-! ## Reading nodes -/

/-- What an open element becomes when a node is read in it. -/
def Frame.receive (frame : Frame) : Node → Frame
  | .text value => frame.extend (normalizeLines value.toList)
  | node => frame.add node.unifyLines

namespace Frame
variable {frame : Frame}

@[simp] theorem receive_written (node : Node) : (frame.receive node).written = frame.written := by cases node <;> rfl

@[simp] theorem receive_tag (node : Node) : (frame.receive node).tag = frame.tag := by cases node <;> rfl

@[simp] theorem receive_attributes (node : Node) : (frame.receive node).attributes = frame.attributes := by
  cases node <;> rfl

@[simp] theorem receive_spaces (node : Node) : (frame.receive node).spaces = frame.spaces := by cases node <;> rfl

/-- A node that is received is the last child, once the run of character data has ended. -/
theorem flush_receive {node : Node} (formed : node.Formed) (ended : frame.run = [] ∨ node.isText = false) :
    (frame.receive node).flush = node.unifyLines :: frame.flush := by
  cases node with
  | text value =>
    have idle := ended.resolve_right (by simp [Node.isText])
    have nonempty : value.toList ≠ [] := by simpa using formed.1
    have filled : normalizeLines value.toList ≠ [] := by
      intro empty
      rcases head_normalizeLines nonempty with feed | same
      · simp [empty] at feed
      · rw [empty] at same
        exact nonempty (List.head?_eq_none_iff.mp same.symm)
    simp [receive, extend, flush, idle, filled, Node.unifyLines]
  | comment body => rfl
  | element e => rfl

theorem receive_ends {node : Node} (other : node.isText = false) : (frame.receive node).run = [] := by
  cases node with
  | text value => cases other
  | comment body => rfl
  | element e => rfl

/-- Nodes that are received become the last children, in their order. -/
theorem flush_receiveAll {nodes : List Node} (formed : ∀ node ∈ nodes, node.Formed) (apart : nodes.IsChain Apart)
    (ended : frame.run = [] ∨ ∀ node, nodes.head? = some node → node.isText = false) :
    (nodes.foldl receive frame).flush = (unifyNodes nodes).reverse ++ frame.flush := by
  induction nodes generalizing frame with
  | nil => rfl
  | cons node rest ih =>
    obtain ⟨here, others⟩ := List.forall_mem_cons.mp formed
    obtain ⟨next, later⟩ := List.isChain_cons.mp apart
    have first := flush_receive here (ended.imp_right fun front => front node rfl)
    have ready : (frame.receive node).run = [] ∨ ∀ other, rest.head? = some other → other.isText = false := by
      by_cases text : node.isText = false
      · exact .inl (receive_ends text)
      · exact .inr fun other head => (next other head).resolve_left text
    rw [List.foldl_cons, ih others later ready, first, unifyNodes, List.reverse_cons, List.append_assoc,
      List.singleton_append]

theorem receiveAll_opening (nodes : List Node) : (nodes.foldl receive frame).written = frame.written ∧
    (nodes.foldl receive frame).tag = frame.tag ∧ (nodes.foldl receive frame).attributes = frame.attributes := by
  induction nodes generalizing frame with
  | nil => exact ⟨rfl, rfl, rfl⟩
  | cons node rest ih => simpa using @ih (frame.receive node)

end Frame

/-- An element that is open, before its content is read. -/
def Element.opened (e : Element) : Frame := ⟨e.tag, e.tag, e.attributes, .initial, [], []⟩

/-- An element that received its children is that element, its line ends unified. -/
theorem element_receiveAll {e : Element} (legible : Legible e) :
    (e.children.foldl Frame.receive e.opened).element = e.unifyLines := by
  obtain ⟨-, leaves, apart, -⟩ := legible
  obtain ⟨-, tag, attributes⟩ := @Frame.receiveAll_opening e.opened e.children
  have flushed := @Frame.flush_receiveAll e.opened _ leaves apart (.inl rfl)
  have empty : e.opened.flush = [] := rfl
  obtain ⟨name, given, children⟩ := e
  rw [empty, List.append_nil] at flushed
  rw [Frame.element, tag, attributes, flushed, List.reverse_reverse, Element.unifyLines]
  rfl

/-- A node whose markup is read as that node wherever it stands in the content of an element; what follows a text has to
be a tag or a comment. -/
def ReadsOn (node : Node) : Prop := ∀ (frame : Frame) outer after, frame.spaces = .initial →
  (node.isText = true → after.head? = some '<') →
  content .bare frame outer (node.write.toList ++ after) = content .bare (frame.receive node) outer after

/-- A node at whose markup reading stops. -/
def Refused (node : Node) : Prop := ∀ (frame : Frame) outer after, frame.spaces = .initial →
  ∃ halt, content .bare frame outer (node.write.toList ++ after) = .error halt

theorem text_readsOn {value : String} (allowed : Allowed value.toList) : ReadsOn (.text value) := by
  intro frame outer after _ tag
  obtain ⟨tail, rfl⟩ := List.head?_eq_some_iff.mp (tag rfl)
  rw [Node.write, String.toList_ofList, content_escaped allowed, Frame.receive]

theorem comment_readsOn {body : String} (formed : CommentBody body.toList) (feed : '\r' ∉ body.toList) :
    ReadsOn (.comment body) := by
  intro frame outer after _ _
  have written : (Node.comment body).write.toList ++ after =
      '<' :: '!' :: '-' :: '-' :: (body.toList ++ '-' :: '-' :: '>' :: after) := by simp [Node.write]
  rw [written, content_comment (piece_comment formed feed after), String.ofList_toList]
  rfl

/-- What follows a text among other nodes is the markup of one that is not a text, or the tag behind them. -/
theorem behind_text {node : Node} {rest : List Node} (next : ∀ other, rest.head? = some other → Apart node other)
    (tail : List Char) (text : node.isText = true) : ((writeNodes rest).toList ++ '<' :: tail).head? = some '<' := by
  cases rest with
  | nil => rfl
  | cons other later =>
    have follows : other.isText = false := (next other rfl).resolve_left (by simp [text])
    obtain ⟨more, begins⟩ := write_begins follows
    simp [writeNodes, begins]

section Nodes
variable {nodes : List Node} (apart : nodes.IsChain Apart) {frame : Frame} (initial : frame.spaces = .initial)
  (outer : List Frame) (tail : List Char)
include apart initial

/-- Nodes that are followed by a tag are read one after the other. -/
theorem content_nodes (each : ∀ node ∈ nodes, ReadsOn node) :
    content .bare frame outer ((writeNodes nodes).toList ++ '<' :: tail) =
      content .bare (nodes.foldl Frame.receive frame) outer ('<' :: tail) := by
  induction nodes generalizing frame with
  | nil => rfl
  | cons node rest ih =>
    obtain ⟨here, others⟩ := List.forall_mem_cons.mp each
    obtain ⟨next, later⟩ := List.isChain_cons.mp apart
    have first := here frame outer _ initial (behind_text next tail)
    rw [writeNodes, String.toList_append, List.append_assoc, first, ih later (by simpa using initial) others,
      List.foldl_cons]

/-- Reading stops at the first node that is refused. -/
theorem nodes_refused (each : ∀ node ∈ nodes, ReadsOn node ∨ Refused node) (bad : ∃ node ∈ nodes, Refused node) :
    ∃ halt, content .bare frame outer ((writeNodes nodes).toList ++ '<' :: tail) = .error halt := by
  induction nodes generalizing frame with
  | nil =>
    obtain ⟨node, member, -⟩ := bad
    cases member
  | cons node rest ih =>
    obtain ⟨here, others⟩ := List.forall_mem_cons.mp each
    obtain ⟨next, later⟩ := List.isChain_cons.mp apart
    rw [writeNodes, String.toList_append, List.append_assoc]
    rcases here with reads | refused
    · obtain ⟨other, member, refused⟩ := bad
      rcases List.mem_cons.mp member with rfl | inside
      · exact refused frame outer _ initial
      · rw [reads frame outer _ initial (behind_text next tail)]
        exact ih later (by simpa using initial) others ⟨other, inside, refused⟩
    · exact refused frame outer _ initial

end Nodes

/-! ## Reading elements -/

section Elements
variable {e : Element}

/-- What is written inside an element and its end tag is read as the whole element. -/
theorem content_body (legible : Legible e) (plain : ¬ InSpace e.tag) (each : ∀ node ∈ e.children, ReadsOn node)
    (outer : List Frame) (rest : List Char) :
    content .bare e.opened outer (bodyChars e.tag e.children rest) = closeElement .bare e.unifyLines rest outer := by
  have whole := element_receiveAll legible
  obtain ⟨opening, -, apart, -⟩ := legible
  obtain ⟨written, -, -⟩ := @Frame.receiveAll_opening e.opened e.children
  have ends := piece_closeTag .bare (opening.tag.resolve_right plain) rest
  rw [bodyChars, content_nodes apart rfl outer _ each, content_closeTag ends written, whole]

/-- The start tag of an element opens it, or is all there is of it. -/
theorem content_opened (opening : TagFormed e.tag e.attributes) (unspaced : Unspaced e.tag e.attributes)
    {frame : Frame} (initial : frame.spaces = .initial) (outer : List Frame) (after : List Char) :
    content .bare frame outer (e.write.toList ++ after) =
      if e.children.isEmpty then content .bare (frame.add (.element ⟨e.tag, e.attributes, []⟩)) outer after
      else content .bare e.opened (frame :: outer) (bodyChars e.tag e.children after) := by
  obtain ⟨raws, token, back⟩ := piece_openTag .bare e.children.isEmpty (e.behindTag after) opening unspaced
  have opened := openTag_written
    ((tagChars e.tag e.attributes e.children.isEmpty (e.behindTag after)).length + 1) opening unspaced back
  rw [← initial] at opened
  rw [write_chars, content_openTag token opened, Element.behindTag, initial]
  split
  · rfl
  · rfl

/-- An element whose names are in no namespace is read as it is, given that its children are. -/
theorem element_readsOn (legible : Legible e) (unspaced : Unspaced e.tag e.attributes)
    (each : ∀ node ∈ e.children, ReadsOn node) : ReadsOn (.element e) := by
  intro frame outer after initial _
  have body := content_body legible unspaced.tag each (frame :: outer) after
  obtain ⟨opening, -, -, -⟩ := legible
  rw [Node.write, content_opened opening unspaced initial]
  split
  · rename_i childless
    obtain ⟨tag, attributes, children⟩ := e
    obtain rfl := List.isEmpty_iff.mp childless
    rfl
  · exact body

/-- An element with a name in a namespace, on itself or on what is in it, is refused. -/
theorem element_refused (legible : Legible e) (each : ∀ node ∈ e.children, ReadsOn node ∨ Refused node)
    (bad : Unspaced e.tag e.attributes → ∃ node ∈ e.children, Refused node) : Refused (.element e) := by
  intro frame outer after initial
  obtain ⟨opening, -, apart, -⟩ := legible
  rw [Node.write]
  by_cases unspaced : Unspaced e.tag e.attributes
  · have inside := bad unspaced
    have filled : e.children.isEmpty = false := by
      obtain ⟨node, member, -⟩ := inside
      exact List.isEmpty_eq_false_iff_exists_mem.mpr ⟨node, member⟩
    rw [content_opened opening unspaced initial, filled]
    exact nodes_refused apart rfl (frame :: outer) _ each inside
  · obtain ⟨halt, failed⟩ := piece_spaced .bare e.children.isEmpty (e.behindTag after) opening unspaced
    rw [write_chars]
    exact ⟨halt, content_stopped failed⟩

end Elements

/-- An element that has no name in a namespace, and neither has what is in it. -/
abbrev SpaceFree : Element → Prop := Throughout fun e => Unspaced e.tag e.attributes

/-- How the children of an element are read. -/
structure ReadsInside (e : Element) : Prop where
  each : ∀ node ∈ e.children, ReadsOn node ∨ Refused node
  free : SpaceFree e → ∀ node ∈ e.children, ReadsOn node
  spaced : ¬ SpaceFree e → Unspaced e.tag e.attributes → ∃ node ∈ e.children, Refused node

section Trees
variable {e : Element}

theorem ReadsInside.element_free (inside : ReadsInside e) (legible : Legible e) (free : SpaceFree e) :
    ReadsOn (.element e) := by
  have each := inside.free free
  obtain ⟨here, -⟩ := free
  exact element_readsOn legible here each

theorem ReadsInside.element_spaced (inside : ReadsInside e) (legible : Legible e) (spaced : ¬ SpaceFree e) :
    Refused (.element e) :=
  element_refused legible inside.each (inside.spaced spaced)

theorem leaf_readsOn {node : Node} (formed : node.Formed) (leaf : ∀ child, node ≠ .element child) : ReadsOn node := by
  cases node with
  | text value => exact text_readsOn formed.2
  | comment body => exact comment_readsOn formed.1 formed.2
  | element child => exact absurd rfl (leaf child)

/-- Children are read as they are when they are free of namespaces; the others are refused. -/
theorem reads_inside (e : Element) (legible : Legible e) : ReadsInside e := by
  induction e using Element.tree_induction with
  | step e ih =>
    obtain ⟨-, leaves, -, elements⟩ := legible
    have inner (child : Element) (member : .element child ∈ e.children) : ReadsInside child ∧ Legible child :=
      have inside := Element.mem_elements.mpr member
      ⟨ih child inside (elements child inside), elements child inside⟩
    constructor
    case each =>
      intro node member
      by_cases leaf : ∀ child, node ≠ .element child
      · exact .inl (leaf_readsOn (leaves node member) leaf)
      · obtain ⟨child, rfl⟩ := not_forall_not.mp leaf
        obtain ⟨inside, legible⟩ := inner child member
        by_cases free : SpaceFree child
        · exact .inl (inside.element_free legible free)
        · exact .inr (inside.element_spaced legible free)
    case free =>
      rintro ⟨-, others⟩ node member
      by_cases leaf : ∀ child, node ≠ .element child
      · exact leaf_readsOn (leaves node member) leaf
      · obtain ⟨child, rfl⟩ := not_forall_not.mp leaf
        obtain ⟨inside, legible⟩ := inner child member
        exact inside.element_free legible (others child (Element.mem_elements.mpr member))
    case spaced =>
      intro spaced here
      have found : ∃ child ∈ e.elements, ¬ SpaceFree child := by
        by_contra absent
        exact spaced ⟨here, fun child member => by_contra fun bad => absent ⟨child, member, bad⟩⟩
      obtain ⟨child, member, bad⟩ := found
      obtain ⟨inside, legible⟩ := inner child (Element.mem_elements.mp member)
      exact ⟨.element child, Element.mem_elements.mp member, inside.element_spaced legible bad⟩

/-! ## Documents -/

section Prolog
variable {c : Char} (rest : List Char)

theorem outsideMarkup_startTag (start : isNameStart c = true) :
    outsideMarkup (c :: rest) = .ok (.element, c :: rest) := by
  have bang : c ≠ '!' := isNameStart_ne start (by decide)
  have question : c ≠ '?' := isNameStart_ne start (by decide)
  unfold outsideMarkup
  split <;> rename_i same <;> cases same
  case h_6.refl => simp only [start, Bool.true_or, ↓reduceIte]
  all_goals contradiction

theorem outside_startTag (start : isNameStart c = true) : outside '<' (c :: rest) = .ok (.element, c :: rest) := by
  have gap : isGap '<' = false := rfl
  simp only [outside, gap, Bool.false_eq_true, ↓reduceIte, beq_self_eq_true, outsideMarkup_startTag rest start]

theorem readDocument_startTag (start : isNameStart c = true) : readDocument ('<' :: c :: rest) = (do
    let (element, rest) ← root .bare ('<' :: c :: rest)
    epilog rest.length rest
    return element) := by
  have mark : withoutMark ('<' :: c :: rest) = '<' :: c :: rest := rfl
  have begins : prolog .initial ('<' :: c :: rest).length ('<' :: c :: rest) =
      .ok (.bare, '<' :: c :: rest) := by
    simp only [List.length_cons, prolog, outside_startTag rest start]
    rfl
  simp only [readDocument, mark, begins]
  rfl

theorem readDocument_brace : ∃ halt, readDocument ('<' :: '\x7b' :: rest) = .error halt := ⟨_, rfl⟩

end Prolog

theorem parse_ok {source : String} (read : readDocument source.toList = .ok e) : Element.parse source = .ok e := by
  simp only [Element.parse, read]

theorem parse_error {source : String} (failed : ∃ halt, readDocument source.toList = .error halt) :
    ∃ failure, Element.parse source = .error failure := by
  obtain ⟨halt, failed⟩ := failed
  simp only [Element.parse, failed]
  exact ⟨_, rfl⟩

/-- The markup of an element begins with a name or with a brace. -/
theorem write_startTag (opening : TagFormed e.tag e.attributes) : ∃ c rest, e.write.toList = '<' :: c :: rest ∧
    (isNameStart c = true ∨ InSpace e.tag ∧ c = '\x7b') := by
  have written := write_chars e []
  obtain ⟨c, more, begins, first⟩ := tagChars_begins opening.tag e.attributes e.children.isEmpty (e.behindTag [])
  rw [List.append_nil, begins] at written
  exact ⟨c, more, written, first⟩

/-- The start tag of the document element opens it, or is all there is of it. -/
theorem root_opened (opening : TagFormed e.tag e.attributes)
    (unspaced : Unspaced e.tag e.attributes) : root .bare e.write.toList =
      if e.children.isEmpty then .ok (⟨e.tag, e.attributes, []⟩, [])
      else content .bare e.opened [] (bodyChars e.tag e.children []) := by
  have written := write_chars e []
  obtain ⟨raws, read, back⟩ := openingTag_written e.children.isEmpty (e.behindTag []) opening unspaced
  rw [List.append_nil] at written
  simp only [written, root, List.tail_cons, read, Scan.orHalt, Except.mapError,
    openTag_written _ opening unspaced back]
  unfold Element.behindTag
  split
  · rfl
  · rfl

theorem root_spaced (opening : TagFormed e.tag e.attributes)
    (spaced : ¬ Unspaced e.tag e.attributes) : ∃ halt, root .bare e.write.toList = .error halt := by
  have written := write_chars e []
  obtain ⟨stop, failed⟩ := openingTag_spaced e.children.isEmpty (e.behindTag []) opening spaced
  rw [List.append_nil] at written
  simp only [written, root, List.tail_cons, failed, Scan.orHalt, Except.mapError]
  exact ⟨_, rfl⟩

/-- A tree that is free of namespaces is read with its line ends unified. -/
theorem parse_free (legible : Legible e) (free : SpaceFree e) : Element.parse e.write = .ok e.unifyLines := by
  have each := (reads_inside e legible).free free
  obtain ⟨here, -⟩ := free
  have body := content_body legible here.tag each [] []
  obtain ⟨opening, -, -, -⟩ := legible
  have whole : root .bare e.write.toList = .ok (e.unifyLines, []) := by
    rw [root_opened opening here]
    split
    · rename_i childless
      obtain ⟨tag, attributes, children⟩ := e
      obtain rfl := List.isEmpty_iff.mp childless
      rfl
    · exact body
  obtain ⟨c, rest, written, first⟩ := write_startTag opening
  have start := first.resolve_right fun spaced => here.tag spaced.1
  apply parse_ok
  rw [written] at whole
  rw [written, readDocument_startTag rest start, whole]
  rfl

/-- A tree with a name in a namespace is not read. -/
theorem parse_spaced (legible : Legible e) (spaced : ¬ SpaceFree e) :
    ∃ failure, Element.parse e.write = .error failure := by
  have inside := reads_inside e legible
  obtain ⟨opening, -, apart, -⟩ := legible
  have stops : ∃ halt, root .bare e.write.toList = .error halt := by
    by_cases unspaced : Unspaced e.tag e.attributes
    · have bad := inside.spaced spaced unspaced
      have filled : e.children.isEmpty = false := by
        obtain ⟨node, member, -⟩ := bad
        exact List.isEmpty_eq_false_iff_exists_mem.mpr ⟨node, member⟩
      rw [root_opened opening unspaced, filled]
      exact nodes_refused apart rfl [] _ inside.each bad
    · exact root_spaced opening unspaced
  obtain ⟨c, rest, written, first⟩ := write_startTag opening
  apply parse_error
  rw [written] at stops ⊢
  rcases first with start | ⟨-, rfl⟩
  · obtain ⟨halt, failed⟩ := stops
    rw [readDocument_startTag rest start, failed]
    exact ⟨halt, rfl⟩
  · exact readDocument_brace rest

end Trees

/-! ## What comes back -/

mutual

/-- Nodes that differ at most in the order of attributes. -/
def Node.Same : Node → Node → Prop
  | .text a, .text b => a = b
  | .comment a, .comment b => a = b
  | .element a, .element b => a.Same b
  | _, _ => False

/-- Elements that differ at most in the order of attributes. -/
def Element.Same : Element → Element → Prop
  | ⟨tag, attributes, children⟩, ⟨otherTag, otherAttributes, otherChildren⟩ =>
    tag = otherTag ∧ attributes.Perm otherAttributes ∧ SameNodes children otherChildren

/-- Several nodes of which each differs from its counterpart at most so. -/
def SameNodes : List Node → List Node → Prop
  | [], [] => True
  | a :: more, b :: others => a.Same b ∧ SameNodes more others
  | _, _ => False

end

/-- An element with no carriage return in the texts between its children. -/
def FeedOnly (e : Element) : Prop := ∀ value, .text value ∈ e.children → '\r' ∉ value.toList

theorem sameNodes_refl {nodes : List Node} (each : ∀ child, .element child ∈ nodes → child.Same child) :
    SameNodes nodes nodes := by
  induction nodes with
  | nil => trivial
  | cons node rest ih =>
    refine ⟨?_, ih fun child member => each child (List.mem_cons_of_mem _ member)⟩
    cases node with
    | text value => rfl
    | comment body => rfl
    | element child => exact each child List.mem_cons_self

theorem Element.same_refl (e : Element) : e.Same e := by
  induction e using Element.tree_induction with
  | step e ih =>
    have each : SameNodes e.children e.children :=
      sameNodes_refl fun child member => ih child (mem_elements.mpr member)
    obtain ⟨tag, attributes, children⟩ := e
    exact ⟨rfl, .refl _, each⟩

section Lines
variable {nodes : List Node}

theorem unifyNodes_eq_self (each : ∀ node ∈ nodes, node.unifyLines = node) : unifyNodes nodes = nodes := by
  induction nodes with
  | nil => rfl
  | cons node rest ih =>
    obtain ⟨here, others⟩ := List.forall_mem_cons.mp each
    rw [unifyNodes, here, ih others]

theorem unifyNodes_same (same : SameNodes (unifyNodes nodes) nodes) : ∀ node ∈ nodes, node.unifyLines.Same node := by
  induction nodes with
  | nil => simp
  | cons node rest ih =>
    obtain ⟨here, others⟩ := same
    exact List.forall_mem_cons.mpr ⟨here, ih others⟩

/-- Without carriage returns there is nothing to unify. -/
theorem unifyLines_eq_self {e : Element} (feeds : Throughout FeedOnly e) : e.unifyLines = e := by
  induction feeds with
  | @intro e here inside ih =>
    have each : ∀ node ∈ e.children, node.unifyLines = node := by
      intro node member
      cases node with
      | text value => rw [Node.unifyLines, normalizeLines_of_feed (here value member), String.ofList_toList]
      | comment body => rfl
      | element child => rw [Node.unifyLines, ih child (Element.mem_elements.mpr member)]
    have children := unifyNodes_eq_self each
    obtain ⟨tag, attributes, nodes⟩ := e
    rw [Element.unifyLines, children]

/-- Where unifying the line ends changes nothing but the order of attributes, there is no carriage return. -/
theorem feedOnly_of_same (e : Element) (same : e.unifyLines.Same e) : Throughout FeedOnly e := by
  induction e using Element.tree_induction with
  | step e ih =>
    have each : ∀ node ∈ e.children, node.unifyLines.Same node := by
      obtain ⟨tag, attributes, nodes⟩ := e
      obtain ⟨-, -, children⟩ := same
      exact unifyNodes_same children
    refine ⟨fun value member => ?_, fun child member => ?_⟩
    · have kept : String.ofList (normalizeLines value.toList) = value := each _ member
      rw [← kept, String.toList_ofList]
      exact normalizeLines_feed
    · exact ih child member (each _ (Element.mem_elements.mp member))

end Lines

/-- A tree that was read comes back from what is written for it exactly when no text in it has a carriage return and no
name in it is in a namespace; a tree that comes back otherwise differs in more than the order of attributes. -/
theorem parse_write_tfae {source : String} {t : Element} (read : Element.parse source = .ok t) :
    [Element.parse t.write = .ok t, ∃ again, Element.parse t.write = .ok again ∧ again.Same t,
      Throughout FeedOnly t ∧ SpaceFree t].TFAE := by
  have legible := parse_legible read
  tfae_have 1 → 2 := fun back => ⟨t, back, t.same_refl⟩
  tfae_have 2 → 3 := by
    rintro ⟨again, back, same⟩
    by_cases free : SpaceFree t
    · rw [parse_free legible free] at back
      cases back
      exact ⟨feedOnly_of_same t same, free⟩
    · obtain ⟨failure, failed⟩ := parse_spaced legible free
      rw [failed] at back
      cases back
  tfae_have 3 → 1 := by
    rintro ⟨feeds, free⟩
    rw [parse_free legible free, unifyLines_eq_self feeds]
  tfae_finish

/-- A line feed in a value and a less-than sign in a text come back as they were. -/
theorem parse_write_mixed : ∃ t, Element.parse "<a b='&#10;'>1&lt;2<!--c--></a>" = .ok t ∧
    t.children = [.text "1<2", .comment "c"] ∧ Element.parse t.write = .ok t := by
  have read : Element.parse "<a b='&#10;'>1&lt;2<!--c--></a>" =
      .ok ⟨"a", [("b", "\n")], [.text "1<2", .comment "c"]⟩ := by with_unfolding_all rfl
  have tag : ¬ InSpace "a" := IsName.not_inSpace ⟨by decide, by simp⟩
  have name : ¬ InSpace "b" := IsName.not_inSpace ⟨by decide, by simp⟩
  have spelled := (parse_write_tfae read).out 0 2
  refine ⟨_, read, rfl, spelled.mpr ⟨.intro ?_ ?_, .intro ⟨tag, ?_⟩ ?_⟩⟩
  · simp [FeedOnly]
  · simp [Element.elements]
  · simpa using name
  · simp [Element.elements]

end Colloquy.Markup
