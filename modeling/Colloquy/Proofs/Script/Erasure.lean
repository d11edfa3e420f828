import Colloquy.Proofs.Markup.Tree
import Colloquy.Proofs.Script.Compiling
import Colloquy.Proofs.Script.Steps
import Colloquy.Run.Source

/-! What a script says to those who can read all of it. Comments, text outside messages and elements that mean nothing
where they stand have no effect, at any depth: a script without them compiles to the same statements that do something,
or fails in the same way, and its run is the same in every respect. -/
namespace Colloquy.Markup

/-- The elements among some nodes that are kept, each in the form in which it is kept. -/
def keep (form : Element → Option Element) (children : List Node) : List Node :=
  children.filterMap fun
    | .element child => (form child).map .element
    | _ => none

namespace Element

/-- An element in which nothing is read. -/
def bare (e : Element) : Element := { e with children := [] }

/-- A message, in which only the text is read. -/
def asMessage (e : Element) : Element :=
  { e with children := e.children.filter fun
      | .text _ => true
      | _ => false }

/-- An element that says something in a declaration of parameters. -/
def declares (e : Element) : Bool := e.tag == "p" || e.tag == "opt"

mutual

/-- A declaration of parameters, in which declarations are read. -/
def asDeclaration : Element → Element
  | ⟨tag, attributes, children⟩ => ⟨tag, attributes, declarations children⟩

/-- The declarations among some nodes. -/
def declarations : List Node → List Node
  | [] => []
  | .element child :: rest =>
    if child.declares then .element child.asDeclaration :: declarations rest else declarations rest
  | .text _ :: rest => declarations rest
  | .comment _ :: rest => declarations rest

end

/-- What is read under `gen` and `each`: the messages, the mark for feedback, and the parameters of the value. -/
def inGeneration (e : Element) : Option Element :=
  if (Script.messageRole? e.tag).isSome then some e.asMessage
  else if e.tag == "feedback" then some e.bare
  else if e.declares then some e.asDeclaration
  else none

/-- What is read under `chat`. -/
def inChat (e : Element) : Option Element :=
  if (Script.messageRole? e.tag).isSome then some e.asMessage
  else if e.tag == "p" then some e.bare
  else if e.tag == "tool" then some e.asDeclaration
  else if e.tag == "response" then some e.bare
  else none

/-- What is read under the root. -/
def inScript (e : Element) : Option Element :=
  if e.tag == "p" then some e.bare
  else if e.tag == "chat" then some { e with children := keep inChat e.children }
  else if e.tag == "gen" || e.tag == "each" then some { e with children := keep inGeneration e.children }
  else none

/-- A script without comments, text outside messages, and elements that are not read where they stand. -/
def erase (root : Element) : Element := { root with children := keep inScript root.children }

end Element

section Keep
variable (form : Element → Option Element) {child kept : Element} {rest : List Node}

@[simp] theorem keep_nil : keep form [] = [] := rfl
@[simp] theorem keep_text (value : String) : keep form (.text value :: rest) = keep form rest := rfl
@[simp] theorem keep_comment (value : String) : keep form (.comment value :: rest) = keep form rest := rfl

theorem keep_dropped (dropped : form child = none) : keep form (.element child :: rest) = keep form rest := by
  simp [keep, dropped]

theorem keep_kept (found : form child = some kept) :
    keep form (.element child :: rest) = .element kept :: keep form rest := by
  simp [keep, found]

theorem elements_keep (e : Element) :
    ({ e with children := keep form e.children } : Element).elements = e.elements.filterMap form := by
  simp only [Element.elements, keep, List.filterMap_filterMap]
  congr 1
  funext node
  cases node with
  | text value => rfl
  | comment value => rfl
  | element child => cases found : form child <;> simp [found]

end Keep

theorem Element.declarations_eq (children : List Node) :
    declarations children = keep (fun child => if child.declares then some child.asDeclaration else none) children := by
  induction children with
  | nil => rfl
  | cons node rest ih =>
    cases node with
    | text value => exact ih
    | comment value => exact ih
    | element child => by_cases declared : child.declares <;> simp [declarations, keep, declared, ih]

theorem Element.asDeclaration_eq (e : Element) : e.asDeclaration =
    { e with children := keep (fun child => if child.declares then some child.asDeclaration else none) e.children } := by
  obtain ⟨tag, attributes, children⟩ := e
  simp only [asDeclaration, declarations_eq]

end Colloquy.Markup

/-! ## Parameters -/

namespace Colloquy.Schema
open Colloquy.Markup

/-- What is kept of a child means the same among parameters as the child. -/
def KeepsDeclared (child : Element) : Option Element → Prop
  | none => child.declares = false
  | some kept => kept.tag = child.tag ∧ kept.attributes = child.attributes ∧
      (child.declares = true → ofElement kept = ofElement child)

theorem property_declares {child : Element} (property : isProperty child = true) : child.declares = true := by
  simp only [isProperty, Bool.and_eq_true] at property
  exact property.1

theorem not_property {child : Element} (silent : child.declares = false) : isProperty child = false := by
  simp only [Element.declares] at silent
  simp [isProperty, silent]

theorem not_option {child : Element} (silent : child.declares = false) : isOption child = false := by
  simp only [Element.declares, Bool.or_eq_false_iff] at silent
  simp [isOption, silent.2]

section Kept
variable {child kept : Element}

theorem isProperty_congr (tag : kept.tag = child.tag) (attributes : kept.attributes = child.attributes) :
    isProperty kept = isProperty child := by
  simp [isProperty, Element.has, tag, attributes]

theorem isOption_congr (tag : kept.tag = child.tag) (attributes : kept.attributes = child.attributes) :
    isOption kept = isOption child := by
  simp [isOption, Element.has, tag, attributes]

end Kept

section Children
variable {form : Element → Option Element} {children : List Node}

theorem optionsIn_keep (same : ∀ child, .element child ∈ children → KeepsDeclared child (form child)) :
    optionsIn (keep form children) = optionsIn children := by
  unfold optionsIn keep
  rw [List.filterMap_filterMap]
  refine List.filterMap_congr fun node member => ?_
  cases node with
  | text value => rfl
  | comment value => rfl
  | element child =>
    have here := same child member
    cases found : form child with
    | none =>
      rw [found] at here
      simp [found, not_option here]
    | some kept =>
      rw [found] at here
      simp [found, isOption_congr here.1 here.2.1, Element.get?, here.2.1]

theorem declaresObject_keep (kind : Option String)
    (same : ∀ child, .element child ∈ children → KeepsDeclared child (form child)) :
    declaresObject kind (keep form children) = declaresObject kind children := by
  cases kind with
  | some kind => rfl
  | none =>
    induction children with
    | nil => rfl
    | cons node rest ih =>
      have others := ih fun child member => same child (List.mem_cons_of_mem _ member)
      cases node with
      | text value => simpa [declaresObject] using others
      | comment value => simpa [declaresObject] using others
      | element child =>
        have here := same child List.mem_cons_self
        cases found : form child with
        | none =>
          rw [found] at here
          simpa [keep_dropped form found, declaresObject, not_property here] using others
        | some kept =>
          rw [found] at here
          simp only [declaresObject] at others
          simp [keep_kept form found, declaresObject, isProperty_congr here.1 here.2.1, others]

theorem declaredIn_keep (same : ∀ child, .element child ∈ children → KeepsDeclared child (form child)) :
    declaredIn (keep form children) = declaredIn children := by
  induction children with
  | nil => rfl
  | cons node rest ih =>
    have others := ih fun child member => same child (List.mem_cons_of_mem _ member)
    cases node with
    | text value => simpa [declaredIn] using others
    | comment value => simpa [declaredIn] using others
    | element child =>
      have here := same child List.mem_cons_self
      cases found : form child with
      | none =>
        rw [found] at here
        simpa [keep_dropped form found, declaredIn, not_property here] using others
      | some kept =>
        rw [found] at here
        obtain ⟨tag, attributes, schema⟩ := here
        by_cases property : isProperty child
        · simp [keep_kept form found, declaredIn, isProperty_congr tag attributes, property, others,
            schema (property_declares property), tag, Element.get?, attributes]
        · simp [keep_kept form found, declaredIn, isProperty_congr tag attributes, property, others]

end Children

/-- A schema depends on those children only that declare something. -/
theorem ofElement_keep {form : Element → Option Element} (e : Element)
    (same : ∀ child ∈ e.elements, KeepsDeclared child (form child)) :
    ofElement { e with children := keep form e.children } = ofElement e := by
  have kept : ∀ child, .element child ∈ e.children → KeepsDeclared child (form child) :=
    fun child member => same child (Element.mem_elements.mpr member)
  obtain ⟨tag, attributes, children⟩ := e
  simp only [ofElement, leaf, optionsIn_keep kept, declaresObject_keep _ kept, declaredIn_keep kept]

theorem ofElement_asDeclaration (e : Element) : ofElement e.asDeclaration = ofElement e := by
  induction e using Element.tree_induction with
  | step e ih =>
    rw [Element.asDeclaration_eq]
    refine ofElement_keep e fun child member => ?_
    by_cases declared : child.declares
    · rw [if_pos declared]
      refine ⟨?_, ?_, fun _ => ih child member⟩ <;> rw [Element.asDeclaration_eq]
    · rw [if_neg declared]
      exact Bool.eq_false_iff.mpr declared

theorem not_declares {child : Element} (required : child.tag ≠ "p") (optional : child.tag ≠ "opt") :
    child.declares = false := by
  simp [Element.declares, required, optional]

theorem message_silent {child : Element} (message : (Script.messageRole? child.tag).isSome) :
    child.declares = false := by
  refine not_declares ?_ ?_ <;> intro tag <;> simp [Script.messageRole?, tag] at message

/-- The parameters of a generation are not changed by what is dropped from it. -/
theorem ofElement_generation (e : Element) :
    ofElement { e with children := keep Element.inGeneration e.children } = ofElement e := by
  refine ofElement_keep e fun child _ => ?_
  unfold Element.inGeneration
  split
  · rename_i message
    refine ⟨rfl, rfl, fun declared => ?_⟩
    rw [message_silent message] at declared
    cases declared
  · split
    · rename_i tag
      refine ⟨rfl, rfl, fun declared => ?_⟩
      rw [beq_iff_eq] at tag
      simp [Element.declares, tag] at declared
    · split
      · refine ⟨?_, ?_, fun _ => ofElement_asDeclaration child⟩ <;> rw [Element.asDeclaration_eq]
      · rename_i silent
        simpa only [KeepsDeclared, Bool.not_eq_true] using silent

end Colloquy.Schema

/-! ## Statements -/

namespace Colloquy

/-- An item of a chat that has an effect. -/
def ChatItem.known : ChatItem → Option ChatItem
  | unknown _ => none
  | item => some item

/-- A statement that has an effect, without the items that have none. -/
def Statement.known : Statement → Option Statement
  | unknown _ => none
  | chat items => some (chat (items.filterMap ChatItem.known))
  | statement => some statement

/-- The statements of a script that have an effect. -/
def Script.known (script : Script) : Script := ⟨script.tag, script.body.filterMap Statement.known⟩

namespace Script
open Colloquy.Markup

theorem map_ok {ε α β : Type} (f : α → β) (a : α) : (Except.ok a : Except ε α).map f = .ok (f a) := rfl

theorem parameters_asDeclaration (e : Element) : parameters e.asDeclaration = parameters e := by
  simp only [parameters, Schema.ofElement_asDeclaration]

theorem tool_asDeclaration (e : Element) : tool e.asDeclaration = tool e := by
  have same := parameters_asDeclaration e
  rw [Element.asDeclaration_eq] at same ⊢
  simp only [tool, require, Element.get?, same]

theorem text_asMessage (e : Element) : e.asMessage.text = e.text := by
  simp only [Element.text, Element.asMessage, List.filterMap_filter]
  congr 2
  funext node
  cases node <;> rfl

theorem template_asMessage (role : Role) (e : Element) : template role e.asMessage = template role e := by
  simp only [template, messageText, text_asMessage]
  rfl

theorem inGeneration_tag {child kept : Element} (found : child.inGeneration = some kept) : kept.tag = child.tag := by
  unfold Element.inGeneration at found
  split at found
  · cases found
    rfl
  · split at found
    · cases found
      rfl
    · split at found
      · cases found
        rw [Element.asDeclaration_eq]
      · cases found

theorem inGeneration_none {child : Element} (dropped : child.inGeneration = none) :
    messageRole? child.tag = none ∧ child.tag ≠ "feedback" := by
  unfold Element.inGeneration at dropped
  split at dropped
  · cases dropped
  · split at dropped
    · cases dropped
    · rename_i message feedback
      simpa using And.intro message feedback

theorem templates_inGeneration (elements : List Element) :
    templates (elements.filterMap Element.inGeneration) = templates elements := by
  induction elements with
  | nil => rfl
  | cons child rest ih =>
    cases role : messageRole? child.tag with
    | some spoken =>
      have kept : child.inGeneration = some child.asMessage := by simp [Element.inGeneration, role]
      have same : messageRole? child.asMessage.tag = some spoken := role
      simp only [List.filterMap_cons, kept, templates, same, role, template_asMessage, ih]
    | none =>
      cases found : child.inGeneration with
      | none => simp only [List.filterMap_cons, found, templates, role, ih]
      | some kept => simp only [List.filterMap_cons, found, templates, inGeneration_tag found, role, ih]

theorem feedback_inGeneration (elements : List Element) :
    ((elements.filterMap Element.inGeneration).any fun child => child.tag == "feedback") =
      elements.any fun child => child.tag == "feedback" := by
  induction elements with
  | nil => rfl
  | cons child rest ih =>
    cases found : child.inGeneration with
    | none => simp [found, (inGeneration_none found).2, ih]
    | some kept => simp [found, inGeneration_tag found, ih]

/-- A generation is the same without what is dropped from it. -/
theorem generation_keep (e : Element) (store : String) :
    generation { e with children := keep Element.inGeneration e.children } store = generation e store := by
  simp only [generation, elements_keep, templates_inGeneration, feedback_inGeneration, parameters,
    Schema.ofElement_generation]

/-! What is dropped compiles to nothing that has an effect, and what is kept compiles to the part of it that has one. -/

section Compiling
variable {α : Type} {compile : Element → Compiled α} {known : α → Option α}

/-- What is kept of an element compiles to what has an effect of what the element compiles to. -/
def Follows (compile : Element → Compiled α) (known : α → Option α) (child : Element) : Option Element → Prop
  | none => (compile child).map known = .ok none
  | some kept => (compile child).map known = (compile kept).map some

theorem compileAll_keep {form : Element → Option Element} (elements : List Element)
    (follows : ∀ child, Follows compile known child (form child)) :
    compileAll compile (elements.filterMap form) = (compileAll compile elements).map (List.filterMap known) := by
  induction elements with
  | nil => rfl
  | cons child rest ih =>
    have here := follows child
    cases found : form child with
    | none =>
      rw [found] at here
      obtain ⟨made, compiled, silent⟩ := eq_ok_of_map here
      cases later : compileAll compile rest <;>
        simp [found, compileAll, compiled, later, ih, Except.map, silent]
    | some kept =>
      rw [found] at here
      simp only [Follows] at here
      cases compiled : compile kept with
      | error error =>
        rw [compiled] at here
        simp [found, compileAll, compiled, eq_error_of_map here, Except.map]
      | ok first =>
        rw [compiled] at here
        obtain ⟨made, compiledWhole, effect⟩ := eq_ok_of_map here
        cases later : compileAll compile rest <;>
          simp [found, compileAll, compiled, compiledWhole, later, ih, Except.map, effect]

/-- A result that has an effect is followed by the same result. -/
theorem follows_map {β : Type} {read : Compiled β} {make : β → α} {child kept : Element}
    (compiled : compile child = read.map make) (same : compile kept = read.map make)
    (effect : ∀ b, known (make b) = some (make b)) : Follows compile known child (some kept) := by
  simp only [Follows, compiled, same]
  cases read with
  | error error => rfl
  | ok b => exact congrArg Except.ok (effect b)

end Compiling

/-- What is kept of an item of a chat compiles to the same. -/
theorem chatItem_follows (child : Element) : Follows chatItem ChatItem.known child child.inChat := by
  unfold Element.inChat
  cases role : messageRole? child.tag with
  | some spoken =>
    simp only [Option.isSome_some, ↓reduceIte]
    refine follows_map (chatItem_message role) ?_ fun _ => rfl
    rw [chatItem_message (e := child.asMessage) role, template_asMessage]
  | none =>
    simp only [Option.isSome_none, Bool.false_eq_true, ↓reduceIte, beq_iff_eq]
    by_cases prompts : child.tag = "p"
    · rw [if_pos prompts]
      exact follows_map (chatItem_prompt prompts) (chatItem_prompt (e := child.bare) prompts) fun _ => rfl
    · by_cases declares : child.tag = "tool"
      · rw [if_neg prompts, if_pos declares]
        have tag : child.asDeclaration.tag = "tool" := by rw [Element.asDeclaration_eq, declares]
        refine follows_map (chatItem_tool declares) ?_ fun _ => rfl
        rw [chatItem_tool tag, tool_asDeclaration]
      · by_cases responds : child.tag = "response"
        · rw [if_neg prompts, if_neg declares, if_pos responds]
          simp only [Follows, chatItem_response responds, chatItem_response (e := child.bare) responds]
          rfl
        · rw [if_neg prompts, if_neg declares, if_neg responds]
          simp only [Follows, chatItem_unknown role prompts declares responds]
          rfl

/-- What is kept of a statement compiles to what has an effect of it. -/
theorem statement_follows (child : Element) : Follows statement Statement.known child child.inScript := by
  unfold Element.inScript
  simp only [beq_iff_eq, Bool.or_eq_true]
  by_cases prompts : child.tag = "p"
  · rw [if_pos prompts]
    exact follows_map (statement_prompt prompts) (statement_prompt (e := child.bare) prompts) fun _ => rfl
  · by_cases chats : child.tag = "chat"
    · rw [if_neg prompts, if_pos chats]
      have items := compileAll_keep child.elements chatItem_follows
      rw [← elements_keep] at items
      simp only [Follows, statement_chat chats,
        statement_chat (e := { child with children := keep Element.inChat child.children }) chats, items]
      cases compileAll chatItem child.elements <;> rfl
    · by_cases generates : child.tag = "gen" ∨ child.tag = "each"
      · rw [if_neg prompts, if_neg chats, if_pos generates]
        have same : generation { child with children := keep Element.inGeneration child.children } = generation child :=
          funext (generation_keep child)
        rcases generates with gen | each
        · refine follows_map (statement_generate gen) ?_ fun _ => rfl
          rw [statement_generate (e := { child with children := _ }) gen, same]
          rfl
        · refine follows_map (statement_each each) ?_ fun _ => rfl
          rw [statement_each (e := { child with children := _ }) each, same]
          rfl
      · rw [if_neg prompts, if_neg chats, if_neg generates]
        obtain ⟨gen, each⟩ := not_or.mp generates
        simp only [Follows, statement_unknown prompts chats gen each]
        rfl

/-- A script without what is not read in it compiles to what has an effect of the whole one. -/
theorem ofElement_erase (root : Element) : ofElement root.erase = (ofElement root).map Script.known := by
  have body := compileAll_keep root.elements statement_follows
  rw [← elements_keep] at body
  simp only [ofElement, Element.erase, body]
  cases compileAll statement root.elements <;> rfl

end Script

/-! ## Running -/

namespace Run
open Markup (Element)
variable (context : Context Handler)

theorem chatItems_known (chat : Chat) (items : List ChatItem) :
    chatItems context chat (items.filterMap ChatItem.known) = chatItems context chat items := by
  induction items generalizing chat with
  | nil => rfl
  | cons item rest ih => cases item <;> simp [List.filterMap_cons, ChatItem.known, chatItems, ih]

theorem statements_known (scope : Nat) (body : List Statement) :
    statements context scope (body.filterMap Statement.known) = statements context scope body := by
  induction body with
  | nil => rfl
  | cons first rest ih =>
    cases first with
    | unknown tag => exact ih
    | chat items =>
      have same : chat context scope (items.filterMap ChatItem.known) = chat context scope items := by
        simp only [chat, chatItems_known]
      simp [Statement.known, statements, statement, same, ih]
    | prompt question => simp [Statement.known, statements, ih]
    | generate generation => simp [Statement.known, statements, ih]
    | each source generation => simp [Statement.known, statements, ih]

/-- What has no effect can be left out of a script. -/
theorem script_known (script : Script) (host : Option Nat) :
    Run.script context script.known host = Run.script context script host := by
  simp only [Run.script, Script.known, statements_known]

/-- Compiles the script under a root element and runs it, inside the scope of the host if there is one. -/
def document (root : Element) (host : Option Nat) (world : World) : Except SourceError Nat × World :=
  match Script.ofElement root with
  | .error error => (.error (.unread error), world)
  | .ok script => Run.source context (.compiled script) host world

/-- A script runs as it does without the comments, the text outside messages and the elements that are not read where
they stand: it ends in the same way, with the same bindings, and after the same prompts, displays and requests. -/
theorem document_erase (root : Element) (host : Option Nat) (world : World) :
    document context root.erase host world = document context root host world := by
  unfold document
  rw [Script.ofElement_erase]
  cases compiled : Script.ofElement root with
  | error error => rfl
  | ok script =>
    have same := congrFun (script_known context script host) world
    simp only [Except.map, Run.source, Source.compile, same]

end Run
end Colloquy
