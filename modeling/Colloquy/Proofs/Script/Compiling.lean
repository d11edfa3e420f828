import Mathlib.Data.List.Forall2
import Colloquy.Script.Compile

/-! What each tag of a script is compiled by, and what compiling several elements one after the other comes to. -/
namespace Colloquy.Script
open Colloquy.Markup

section Tags
variable {e : Element}

theorem chatItem_message {role : Role} (found : messageRole? e.tag = some role) :
    chatItem e = (template role e).map .message := by
  simp [chatItem, found]

theorem chatItem_prompt (tag : e.tag = "p") : chatItem e = (prompt e).map .prompt := by
  have silent : messageRole? "p" = none := by decide
  simp [chatItem, tag, silent]

theorem chatItem_tool (tag : e.tag = "tool") : chatItem e = (tool e).map .tool := by
  have silent : messageRole? "tool" = none := by decide
  simp [chatItem, tag, silent]

theorem chatItem_response (tag : e.tag = "response") : chatItem e = .ok .response := by
  have silent : messageRole? "response" = none := by decide
  simp [chatItem, tag, silent]

theorem chatItem_unknown (silent : messageRole? e.tag = none) (prompt : e.tag ≠ "p") (tool : e.tag ≠ "tool")
    (response : e.tag ≠ "response") : chatItem e = .ok (.unknown e.tag) := by
  simp [chatItem, silent, prompt, tool, response]

theorem statement_prompt (tag : e.tag = "p") : statement e = (prompt e).map .prompt := by
  simp [statement, tag]

theorem statement_chat (tag : e.tag = "chat") : statement e = (compileAll chatItem e.elements).map .chat := by
  simp [statement, tag]

theorem statement_generate (tag : e.tag = "gen") :
    statement e = ((require e "store").bind (generation e)).map .generate := by
  have opened : statement e = do return .generate (← generation e (← require e "store")) := by simp [statement, tag]
  rw [opened]
  cases require e "store" <;> rfl

theorem statement_each (tag : e.tag = "each") : statement e =
    ((require e "store").bind fun store => (require e "from").bind fun source =>
      (generation e store).map (source, ·)).map fun (source, made) => .each source made := by
  have opened : statement e = do
      let store ← require e "store"
      let source ← require e "from"
      return .each source (← generation e store) := by simp [statement, tag]
  rw [opened]
  cases require e "store" with
  | error error => rfl
  | ok store =>
    cases require e "from" with
    | error error => rfl
    | ok source =>
      change (generation e store).bind (fun made => .ok (Statement.each source made)) =
        ((generation e store).map (source, ·)).map fun (source, made) => Statement.each source made
      cases generation e store <;> rfl

theorem statement_unknown (prompt : e.tag ≠ "p") (chat : e.tag ≠ "chat") (gen : e.tag ≠ "gen")
    (each : e.tag ≠ "each") : statement e = .ok (.unknown e.tag) := by
  simp [statement, prompt, chat, gen, each]

end Tags

section Several
variable {α : Type} {compile : Element → Compiled α}

/-- Several elements fail with the error of the first one that fails. -/
theorem compileAll_error {elements : List Element} {error : ScriptError}
    (failed : compileAll compile elements = .error error) :
    ∃ before e after, elements = before ++ e :: after ∧ (∀ other ∈ before, ∃ result, compile other = .ok result) ∧
      compile e = .error error := by
  induction elements with
  | nil => cases failed
  | cons e rest ih =>
    unfold compileAll at failed
    split at failed
    · rename_i cause here
      cases failed
      exact ⟨[], e, rest, rfl, by simp, here⟩
    · rename_i first here
      obtain ⟨before, other, after, rfl, compiled, there⟩ := ih (eq_error_of_map failed)
      refine ⟨e :: before, other, after, rfl, fun element member => ?_, there⟩
      rcases List.mem_cons.mp member with rfl | earlier
      · exact ⟨first, here⟩
      · exact compiled element earlier

end Several
end Colloquy.Script
