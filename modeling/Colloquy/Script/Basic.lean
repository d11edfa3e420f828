import Colloquy.Expr.Eval
import Colloquy.Message.Basic
import Colloquy.ParseError
import Colloquy.Tool.Basic

/-! Scripts: what is said to the model and asked of the person, and where the answers go. -/
namespace Colloquy

/-- A message whose content is rendered when it is reached. -/
structure Template where
  role : Role
  fragments : List Fragment
  deriving DecidableEq, Repr, Inhabited

/-- The message that a template renders to. -/
def Template.render (bindings : Bindings) (template : Template) : Except EvalError Message :=
  (renderAll bindings template.fragments).map (.plain template.role)

/-- A question to the person, and the name that the answer is bound to. -/
structure Prompt where
  question : List Fragment
  store : String
  deriving DecidableEq, Repr, Inhabited

/-- An item of a chat. -/
inductive ChatItem where
  | message (template : Template)
  | prompt (prompt : Prompt)
  | tool (tool : Tool)
  | response
  | unknown (tag : String)
  deriving Inhabited

/-- A value that the model is to produce through a tool of its own, and the name it is stored under. -/
structure Generation where
  store : String
  tool : Tool
  messages : List Template
  feedback : Bool
  deriving Inhabited

/-- A statement of a script. -/
inductive Statement where
  | prompt (prompt : Prompt)
  | chat (items : List ChatItem)
  | generate (generation : Generation)
  | each (source : String) (generation : Generation)
  | unknown (tag : String)
  deriving Inhabited

/-- A script: the tag of its root and its statements in order. -/
structure Script where
  tag : String
  body : List Statement
  deriving Inhabited

/-- What is wrong with a statement. -/
inductive Misconfiguration where
  | missingAttribute (tag name : String)
  | emptyMessage (tag : String)
  | noMessages (tag store : String)
  | badLimit (bad : Schema.BadLimit)
  deriving DecidableEq, Repr

/-- The wording of a misconfiguration. -/
def Misconfiguration.message : Misconfiguration → String
  | missingAttribute tag name => "<" ++ tag ++ "> requires a '" ++ name ++ "' attribute"
  | emptyMessage tag => "<" ++ tag ++ "> message must not be empty"
  | noMessages tag store => "<" ++ tag ++ " store='" ++ store ++ "'> needs at least one system or user message"
  | badLimit bad => bad.message

/-- Why a script cannot be read. -/
inductive ScriptError where
  | parse (error : ParseError)
  | configuration (cause : Misconfiguration)
  | oversized (numeral : Text.Oversize)

/-- Why a text in a script cannot be read. -/
def ScriptError.ofText : Unread Fragment.Failure → ScriptError
  | .malformed failure => parse (.ofFragment failure)
  | .oversized numeral => oversized numeral

/-- The wording of an error. -/
def ScriptError.message : ScriptError → String
  | parse error => error.message
  | configuration cause => cause.message
  | oversized numeral => numeral.message

end Colloquy
