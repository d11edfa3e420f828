import Colloquy.Proofs.Fragment.Failures
import Colloquy.Proofs.Schema.Declared
import Colloquy.Proofs.Script.Compiling
import Colloquy.Proofs.Text.Dedent

/-! Which trees are scripts. What must be right of an element depends on its tag and on where it stands; nothing is asked
of one that means nothing there. A tree in which everything is right compiles to one statement for each child of the
root, and any other fails with the error of the first statement that is malformed. -/
namespace Colloquy.Script
open Colloquy.Markup

/-- An attribute that is there and not empty. -/
def Names (e : Element) (name : String) : Prop := ∃ value, e.get? name = some value ∧ value ≠ ""

/-- A text whose regions are expressions, and in which no integer has too many digits. -/
def Parses (text : String) : Prop := ∃ fragments, Fragment.parse text = .ok fragments

/-- The question that an element asks, which is the name of the answer if no other is there. -/
def questionOf (e : Element) : String := (e.get? "user").getD ((e.get? "store").getD "")

/-- A question with the name of its answer. -/
structure PromptFormed (e : Element) : Prop where
  store : Names e "store"
  question : Parses (questionOf e)

/-- A message that says something. -/
structure MessageFormed (e : Element) : Prop where
  visible : ∃ c ∈ e.text.toList, Text.isBlank c = false
  content : Parses (messageText e)

/-- A tool with a name. -/
structure ToolFormed (e : Element) : Prop where
  name : Names e "name"
  parameters : Schema.Valid e

/-- An element with the role of a message. -/
def isMessage (e : Element) : Bool := e.tag == "system" || e.tag == "user"

/-- A value to be produced: where it goes, some messages that ask for it, and its parameters. -/
structure GenerationFormed (e : Element) : Prop where
  store : Names e "store"
  asked : ∃ child ∈ e.elements, isMessage child = true
  messages : ∀ child ∈ e.elements, isMessage child = true → MessageFormed child
  parameters : Schema.Valid e

/-- What must be right of an element under `chat`. -/
structure ItemFormed (e : Element) : Prop where
  message : isMessage e = true → MessageFormed e
  prompt : e.tag = "p" → PromptFormed e
  tool : e.tag = "tool" → ToolFormed e

/-- What must be right of an element under the root. -/
structure StatementFormed (e : Element) : Prop where
  prompt : e.tag = "p" → PromptFormed e
  chat : e.tag = "chat" → ∀ item ∈ e.elements, ItemFormed item
  generate : e.tag = "gen" → GenerationFormed e
  each : e.tag = "each" → Names e "from" ∧ GenerationFormed e

/-- A tree that is a script. -/
def WellFormed (root : Element) : Prop := ∀ e ∈ root.elements, StatementFormed e

/-! ## What elements compile to -/

/-- The question and the name that an element gives. -/
structure PromptOf (e : Element) (prompt : Prompt) : Prop where
  store : e.get? "store" = some prompt.store
  question : Fragment.parse (questionOf e) = .ok prompt.question

/-- The role and the text that an element gives. -/
structure TemplateOf (e : Element) (template : Template) : Prop where
  role : messageRole? e.tag = some template.role
  content : Fragment.parse (messageText e) = .ok template.fragments

/-- The parameters that an element declares, a schema that is closed at every depth. -/
structure ParametersOf (e : Element) (schema : Schema) : Prop where
  declared : Schema.ofElement e = .ok schema
  closed : Schema.Closed schema

/-- The name and the parameters that an element gives. -/
structure ToolOf (e : Element) (tool : Tool) : Prop where
  name : e.get? "name" = some tool.name
  parameters : ParametersOf e tool.parameters

/-- The value that an element asks for, with one message for each of its messages. -/
structure GenerationOf (e : Element) (generation : Generation) : Prop where
  store : e.get? "store" = some generation.store
  messages : List.Forall₂ TemplateOf (e.elements.filter isMessage) generation.messages
  parameters : ParametersOf e generation.tool.parameters

/-- The item of a chat that an element is. -/
inductive ItemOf (e : Element) : ChatItem → Prop where
  | message {template : Template} (spoken : TemplateOf e template) : ItemOf e (.message template)
  | prompt {prompt : Prompt} (tag : e.tag = "p") (asked : PromptOf e prompt) : ItemOf e (.prompt prompt)
  | tool {tool : Tool} (tag : e.tag = "tool") (declared : ToolOf e tool) : ItemOf e (.tool tool)
  | response (tag : e.tag = "response") : ItemOf e .response
  | unknown (silent : isMessage e = false) (prompt : e.tag ≠ "p") (tool : e.tag ≠ "tool")
      (response : e.tag ≠ "response") : ItemOf e (.unknown e.tag)

/-- The statement that an element is; a chat has one item for each of its child elements. -/
inductive StatementOf (e : Element) : Statement → Prop where
  | prompt {prompt : Prompt} (tag : e.tag = "p") (asked : PromptOf e prompt) : StatementOf e (.prompt prompt)
  | chat {items : List ChatItem} (tag : e.tag = "chat") (each : List.Forall₂ ItemOf e.elements items) :
      StatementOf e (.chat items)
  | generate {generation : Generation} (tag : e.tag = "gen") (asked : GenerationOf e generation) :
      StatementOf e (.generate generation)
  | each {source : String} {generation : Generation} (tag : e.tag = "each") (records : e.get? "from" = some source)
      (asked : GenerationOf e generation) : StatementOf e (.each source generation)
  | unknown (prompt : e.tag ≠ "p") (chat : e.tag ≠ "chat") (gen : e.tag ≠ "gen") (each : e.tag ≠ "each") :
      StatementOf e (.unknown e.tag)

/-- What can be wrong with a tree: a text in it does not parse, or has an integer with too many digits in it, or it is
configured wrongly. -/
inductive Arises : ScriptError → Prop where
  | parse {text : String} {failure : Fragment.Failure} (unparsed : Fragment.parse text = .error (.malformed failure)) :
      Arises (.parse (.ofFragment failure))
  | oversized {text : String} {numeral : Text.Oversize} (unread : Fragment.parse text = .error (.oversized numeral)) :
      Arises (.oversized numeral)
  | configuration (cause : Misconfiguration) : Arises (.configuration cause)

/-! ## Outcomes -/

/-- A result with some property if everything is right, and an error otherwise. -/
inductive Settles {α : Type} (formed : Prop) (made : α → Prop) : Compiled α → Prop where
  | ok {result : α} (right : formed) (holds : made result) : Settles formed made (.ok result)
  | error {error : ScriptError} (wrong : ¬ formed) (arises : Arises error) : Settles formed made (.error error)

namespace Settles
variable {α β : Type} {outcome : Compiled α} {formed other : Prop} {made : α → Prop} {final : β → Prop}

theorem succeeds_iff (settled : Settles formed made outcome) : (∃ result, outcome = .ok result) ↔ formed := by
  cases settled with
  | ok right holds => simp [right]
  | error wrong arises => simp [wrong]

theorem holds {result : α} (settled : Settles formed made (.ok result)) : made result := by
  cases settled with
  | ok right holds => exact holds

theorem wrong {error : ScriptError} (settled : Settles formed made (.error error)) : ¬ formed ∧ Arises error := by
  cases settled with
  | error wrong arises => exact ⟨wrong, arises⟩

theorem map {f : α → β} (settled : Settles formed made outcome) (goes : ∀ result, made result → final (f result)) :
    Settles formed final (outcome.map f) := by
  cases settled with
  | ok right holds => exact .ok right (goes _ holds)
  | error wrong arises => exact .error wrong arises

theorem strengthen (settled : Settles other made outcome) (right : formed) : Settles (formed ∧ other) made outcome := by
  cases settled with
  | ok more holds => exact .ok ⟨right, more⟩ holds
  | error wrong arises => exact .error (fun both => wrong both.2) arises

/-- Of two parts, the second is read only if the first is right, with what was read of it. -/
theorem bind {next : α → Compiled β} (settled : Settles formed made outcome)
    (goes : ∀ result, made result → Settles other final (next result)) :
    Settles (formed ∧ other) final (outcome.bind next) := by
  cases settled with
  | ok right holds => exact (goes _ holds).strengthen right
  | error wrong arises => exact .error (fun both => wrong both.1) arises

theorem returned {f : α → β} (settled : Settles formed made outcome) (goes : ∀ result, made result → final (f result)) :
    Settles formed final (outcome.bind fun result => .ok (f result)) := by
  cases settled with
  | ok right holds => exact .ok right (goes _ holds)
  | error wrong arises => exact .error wrong arises

theorem congr (settled : Settles formed made outcome) (same : formed ↔ other) : Settles other made outcome := by
  rwa [← propext same]

end Settles

/-! ## Parts of statements -/

section Parts
variable (e : Element)

theorem require_settles (name : String) :
    Settles (Names e name) (fun value => e.get? name = some value) (require e name) := by
  unfold require Names
  cases found : e.get? name with
  | none => exact .error (by simp) (.configuration _)
  | some value =>
    by_cases empty : value = ""
    · subst empty
      exact .error (by simp) (.configuration _)
    · simp only [Option.bind_some, Schema.nonEmpty, String.isEmpty_iff, empty, ↓reduceIte]
      exact .ok ⟨value, rfl, empty⟩ rfl

theorem fragments_settles (text : String) :
    Settles (Parses text) (fun fragments => Fragment.parse text = .ok fragments) (fragments text) := by
  unfold fragments Parses
  cases parsed : Fragment.parse text with
  | ok fragments => exact .ok ⟨fragments, rfl⟩ rfl
  | error reason =>
    cases reason with
    | malformed failure => exact .error (by simp) (.parse parsed)
    | oversized numeral => exact .error (by simp) (.oversized parsed)

theorem parameters_settles : Settles (Schema.Valid e) (ParametersOf e) (parameters e) := by
  have valid := Schema.ofElement_isOk_iff e
  unfold parameters
  cases declared : Schema.ofElement e with
  | ok schema =>
    rw [declared] at valid
    exact .ok (valid.mp rfl) ⟨declared, Schema.ofElement_closed declared⟩
  | error bad =>
    rw [declared] at valid
    exact .error (fun right => nomatch valid.mpr right) (.configuration _)

theorem prompt_eq : prompt e = (require e "store").bind fun store =>
    (fragments ((e.get? "user").getD store)).bind fun question => .ok (Prompt.mk question store) := rfl

theorem prompt_settles : Settles (PromptFormed e) (PromptOf e) (prompt e) := by
  rw [prompt_eq]
  refine ((require_settles e "store").bind fun store named => ?_).congr
    ⟨fun ⟨store, question⟩ => ⟨store, question⟩, fun formed => ⟨formed.store, formed.question⟩⟩
  have same : (e.get? "user").getD store = questionOf e := by simp [questionOf, named]
  rw [same]
  exact (fragments_settles (questionOf e)).returned fun question parsed => ⟨named, parsed⟩

theorem isMessage_eq : isMessage e = (messageRole? e.tag).isSome := by
  unfold isMessage messageRole?
  by_cases system : e.tag = "system"
  · simp [system]
  · by_cases user : e.tag = "user" <;> simp [system, user]

theorem template_settles {role : Role} (spoken : messageRole? e.tag = some role) :
    Settles (MessageFormed e) (TemplateOf e) (template role e) := by
  have empty : (messageText e).isEmpty = true ↔ ¬ ∃ c ∈ e.text.toList, Text.isBlank c = false := by
    rw [messageText, Text.trim_dedent_isEmpty]
    simp
  have opened : template role e = if (messageText e).isEmpty = true then .error (.configuration (.emptyMessage e.tag))
      else (fragments (messageText e)).map fun fragments => ⟨role, fragments⟩ := rfl
  rw [opened]
  split
  · rename_i nothing
    exact .error (fun formed => empty.mp nothing formed.visible) (.configuration _)
  · rename_i something
    have visible := not_not.mp (mt empty.mpr something)
    refine ((fragments_settles (messageText e)).map fun fragments parsed => ?_).congr
      ⟨fun content => ⟨visible, content⟩, fun formed => formed.content⟩
    exact ⟨spoken, parsed⟩

theorem tool_settles : Settles (ToolFormed e) (ToolOf e) (tool e) := by
  change Settles _ _ ((require e "name").bind fun name => (parameters e).bind fun parameters =>
    .ok (Tool.mk name (Schema.descriptionOf e.attributes) parameters (e.get? "action")))
  refine ((require_settles e "name").bind fun name named => ?_).congr
    ⟨fun ⟨name, valid⟩ => ⟨name, valid⟩, fun formed => ⟨formed.name, formed.parameters⟩⟩
  exact (parameters_settles e).returned fun schema declared => ⟨named, declared⟩

end Parts

/-! ## Several parts -/

theorem templates_settles (elements : List Element) :
    Settles (∀ child ∈ elements, isMessage child = true → MessageFormed child)
      (List.Forall₂ TemplateOf (elements.filter isMessage)) (templates elements) := by
  induction elements with
  | nil => exact .ok (by simp) .nil
  | cons child rest ih =>
    cases role : messageRole? child.tag with
    | none =>
      have silent : isMessage child = false := by simp [isMessage_eq, role]
      have opened : templates (child :: rest) = templates rest := by simp [templates, role]
      rw [opened, List.filter_cons_of_neg (by simp [silent])]
      exact ih.congr (by simp [silent])
    | some spoken =>
      have message : isMessage child = true := by simp [isMessage_eq, role]
      have opened : templates (child :: rest) = (template spoken child).bind fun first =>
          (templates rest).map (first :: ·) := by
        simp only [templates, role]
        cases template spoken child <;> rfl
      rw [opened, List.filter_cons_of_pos message]
      refine ((template_settles child role).bind fun first here => ih.map fun more others => .cons here others).congr ?_
      simp [message]

theorem compileAll_settles {α : Type} {compile : Element → Compiled α} {formed : Element → Prop}
    {made : Element → α → Prop} (each : ∀ e, Settles (formed e) (made e) (compile e)) (elements : List Element) :
    Settles (∀ e ∈ elements, formed e) (List.Forall₂ made elements) (compileAll compile elements) := by
  induction elements with
  | nil => exact .ok (by simp) .nil
  | cons e rest ih =>
    have opened : compileAll compile (e :: rest) = (compile e).bind fun first =>
        (compileAll compile rest).map (first :: ·) := by
      rw [compileAll]
      cases compile e <;> rfl
    rw [opened]
    refine ((each e).bind fun first here => ?_).congr List.forall_mem_cons.symm
    exact ih.map fun more others => .cons here others

section Whole
variable (e : Element)

theorem generation_settles {store : String} (named : e.get? "store" = some store) :
    Settles ((∃ child ∈ e.elements, isMessage child = true) ∧
      (∀ child ∈ e.elements, isMessage child = true → MessageFormed child) ∧ Schema.Valid e)
      (GenerationOf e) (generation e store) := by
  have opened : generation e store = (templates e.elements).bind fun messages =>
      if messages.isEmpty = true then Except.error (.configuration (.noMessages e.tag store))
      else (parameters e).bind fun parameters => Except.ok (Generation.mk store
        ⟨store, Schema.descriptionOf e.attributes, parameters, none⟩ messages
        (e.elements.any fun child => child.tag == "feedback")) := by
    unfold generation
    cases templates e.elements with
    | error error => rfl
    | ok messages => cases messages <;> rfl
  rw [opened]
  refine ((templates_settles e.elements).bind fun messages spoken => ?_).congr and_left_comm
  have asked : messages ≠ [] ↔ ∃ child ∈ e.elements, isMessage child = true := by
    rw [← List.length_pos_iff, ← spoken.length_eq, List.length_pos_iff_exists_mem]
    simp only [List.mem_filter]
  cases messages with
  | nil => exact .error (fun both => asked.mpr both.1 rfl) (.configuration _)
  | cons first more =>
    refine Settles.strengthen ?_ (asked.mp (List.cons_ne_nil first more))
    exact (parameters_settles e).returned fun schema declared => ⟨named, spoken, declared⟩

theorem generation_formed : GenerationFormed e ↔ Names e "store" ∧ (∃ child ∈ e.elements, isMessage child = true) ∧
    (∀ child ∈ e.elements, isMessage child = true → MessageFormed child) ∧ Schema.Valid e :=
  ⟨fun formed => ⟨formed.store, formed.asked, formed.messages, formed.parameters⟩,
    fun ⟨store, asked, messages, parameters⟩ => ⟨store, asked, messages, parameters⟩⟩

theorem records_settles : Settles (Names e "from" ∧ GenerationFormed e)
    (fun made : String × Generation => e.get? "from" = some made.1 ∧ GenerationOf e made.2)
    ((require e "store").bind fun store => (require e "from").bind fun source =>
      (generation e store).map (source, ·)) := by
  rw [generation_formed]
  refine ((require_settles e "store").bind fun store named => (require_settles e "from").bind
    fun source records => ?_).congr and_left_comm
  exact (generation_settles e named).map fun generation asked => ⟨records, asked⟩

/-- An item of a chat can be read just if what must be right of it is. -/
theorem chatItem_settles : Settles (ItemFormed e) (ItemOf e) (chatItem e) := by
  have message := isMessage_eq e
  cases role : messageRole? e.tag with
  | some spoken =>
    rw [role, Option.isSome_some] at message
    have prompt : e.tag ≠ "p" := by
      intro tag
      simp [isMessage, tag] at message
    have tool : e.tag ≠ "tool" := by
      intro tag
      simp [isMessage, tag] at message
    rw [chatItem_message role]
    refine ((template_settles e role).map fun template content => .message content).congr ?_
    exact ⟨fun formed => ⟨fun _ => formed, fun tag => absurd tag prompt, fun tag => absurd tag tool⟩,
      fun formed => formed.message message⟩
  | none =>
    rw [role, Option.isSome_none] at message
    by_cases prompts : e.tag = "p"
    · rw [chatItem_prompt prompts]
      refine ((prompt_settles e).map fun prompt asked => .prompt prompts asked).congr ?_
      refine ⟨fun formed => ⟨by simp [message], fun _ => formed, by simp [prompts]⟩, fun formed => formed.prompt prompts⟩
    · by_cases declares : e.tag = "tool"
      · rw [chatItem_tool declares]
        refine ((tool_settles e).map fun tool declared => .tool declares declared).congr ?_
        exact ⟨fun formed => ⟨by simp [message], by simp [declares], fun _ => formed⟩, fun formed => formed.tool declares⟩
      · have formed : ItemFormed e :=
          ⟨by simp [message], fun tag => absurd tag prompts, fun tag => absurd tag declares⟩
        by_cases responds : e.tag = "response"
        · rw [chatItem_response responds]
          exact .ok formed (.response responds)
        · rw [chatItem_unknown role prompts declares responds]
          exact .ok formed (.unknown message prompts declares responds)

/-- A statement can be read just if what must be right of it is. -/
theorem statement_settles : Settles (StatementFormed e) (StatementOf e) (statement e) := by
  by_cases prompts : e.tag = "p"
  · rw [statement_prompt prompts]
    refine ((prompt_settles e).map fun prompt asked => .prompt prompts asked).congr ?_
    exact ⟨fun formed => ⟨fun _ => formed, by simp [prompts], by simp [prompts], by simp [prompts]⟩,
      fun formed => formed.prompt prompts⟩
  · by_cases chats : e.tag = "chat"
    · rw [statement_chat chats]
      refine ((compileAll_settles chatItem_settles e.elements).map fun items each => .chat chats each).congr ?_
      exact ⟨fun formed => ⟨by simp [chats], fun _ => formed, by simp [chats], by simp [chats]⟩,
        fun formed => formed.chat chats⟩
    · by_cases generates : e.tag = "gen"
      · rw [statement_generate generates]
        refine (((require_settles e "store").bind fun store named => generation_settles e named).map
          fun generation asked => .generate generates asked).congr ?_
        rw [← generation_formed]
        exact ⟨fun formed => ⟨by simp [generates], by simp [generates], fun _ => formed, by simp [generates]⟩,
          fun formed => formed.generate generates⟩
      · by_cases repeats : e.tag = "each"
        · rw [statement_each repeats]
          refine ((records_settles e).map fun made ⟨records, asked⟩ => .each repeats records asked).congr ?_
          exact ⟨fun formed => ⟨by simp [repeats], by simp [repeats], by simp [repeats], fun _ => formed⟩,
            fun formed => formed.each repeats⟩
        · rw [statement_unknown prompts chats generates repeats]
          exact .ok ⟨fun tag => absurd tag prompts, fun tag => absurd tag chats, fun tag => absurd tag generates,
            fun tag => absurd tag repeats⟩ (.unknown prompts chats generates repeats)

end Whole

/-- A tree compiles just if it is a script; each child of the root is then one statement, in order. Otherwise the error
is that of the first statement that is malformed: a text in it does not parse, or has an integer with too many digits in
it, or it is configured wrongly. -/
theorem ofElement_wellFormed (root : Element) :
    ((∃ script, ofElement root = .ok script) ↔ WellFormed root) ∧
    (∀ script, ofElement root = .ok script →
      script.tag = root.tag ∧ List.Forall₂ StatementOf root.elements script.body) ∧
    ∀ error, ofElement root = .error error → Arises error ∧
      ∃ before e after, root.elements = before ++ e :: after ∧ (∀ other ∈ before, StatementFormed other) ∧
        ¬ StatementFormed e ∧ statement e = .error error := by
  have settled : Settles (WellFormed root)
      (fun script : Script => script.tag = root.tag ∧ List.Forall₂ StatementOf root.elements script.body)
      (ofElement root) :=
    (compileAll_settles statement_settles root.elements).map fun body each => ⟨rfl, each⟩
  refine ⟨settled.succeeds_iff, fun script compiled => ?_, fun error failed => ?_⟩
  · rw [compiled] at settled
    exact settled.holds
  · obtain ⟨before, e, after, elements, compiled, here⟩ := compileAll_error (eq_error_of_map failed)
    have wrong := statement_settles e
    rw [here] at wrong
    refine ⟨wrong.wrong.2, before, e, after, elements, fun other member => ?_, wrong.wrong.1, here⟩
    exact (statement_settles other).succeeds_iff.mp (compiled other member)

/-- A script that asks one question. -/
def asking (question : String) : Element :=
  ⟨"script", [], [.element ⟨"p", [("store", "x"), ("user", question)], []⟩]⟩

/-- A question in which an integer has too many digits keeps its script from compiling. -/
theorem ofElement_asking {question : String} {numeral : Text.Oversize}
    (unread : Fragment.parse question = .error (.oversized numeral)) :
    ofElement (asking question) = .error (.oversized numeral) := by
  have failed : fragments question = .error (.oversized numeral) := by
    rw [fragments, unread]
    rfl
  have asked : statement ⟨"p", [("store", "x"), ("user", question)], []⟩ = .error (.oversized numeral) := by
    rw [statement_prompt rfl, prompt_eq]
    change ((fragments question).bind _).map _ = _
    rw [failed]
    rfl
  change (compileAll statement [_]).map _ = _
  rw [compileAll, asked]
  rfl

/-- So a script may fail to compile although nothing is wrong with its syntax or its configuration. -/
theorem ofElement_oversized :
    ¬ ((∃ script, ofElement (asking Fragment.tooManyZeros) = .ok script) ∨
      (∃ failure, ofElement (asking Fragment.tooManyZeros) = .error (.parse failure)) ∨
      ∃ cause, ofElement (asking Fragment.tooManyZeros) = .error (.configuration cause)) := by
  rw [ofElement_asking Fragment.parse_tooManyZeros]
  rintro (⟨script, ⟨⟩⟩ | ⟨failure, ⟨⟩⟩ | ⟨cause, ⟨⟩⟩)

end Colloquy.Script
