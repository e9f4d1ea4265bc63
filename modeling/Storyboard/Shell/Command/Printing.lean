import Storyboard.Shell.Command.Basic
import Storyboard.Shell.Format

/-!
The commands `echo`, `printf` and `test`.
-/

namespace Storyboard.Shell

def echo : Command := fun _ arguments sh =>
  sh.prints (Format.echoed arguments)

/-- Prints by a format. What is wrong with the arguments is said, but printing goes on. -/
def printf : Command := fun _ arguments sh =>
  withOptions [] [] arguments sh fun _ arguments =>
    match arguments with
    | [] => sh.refuses (Octets.ofText "usage: printf format [arg ...]")
    | format :: arguments =>
      let (outcome, p) := Format.printed format arguments
      let sh := p.complaints.foldl complain sh
      match outcome with
      | .broken reason => ⟨.error reason, p.text, sh⟩
      | _ => ⟨.ok (truth p.complaints.isEmpty), p.text, sh⟩

/-- Whether a condition holds. -/
def test : Command := fun _ arguments sh =>
  match Condition.holds ⟨sh.surroundings, sh.system.store⟩ arguments with
  | .ok b => sh.answers (truth b)
  | .error fault => sh.refuses fault.message

/-- Whether a condition in brackets holds. -/
def bracket : Command := fun e arguments sh =>
  if (arguments.getLast?.bind (·.head?)) = some ']' then test e arguments.dropLast sh
  else sh.refuses (Octets.ofText "missing ]")

end Storyboard.Shell
