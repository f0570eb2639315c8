import PasswordChange.Policy
import PasswordChange.Request
import PasswordChange.Terminal

/-!
# Collecting the passwords

The old password is asked for once, if the caller must prove an identity. The new password is
asked for twice, and the two must agree; otherwise the user may try again, as often as the input
lasts. An empty new password or the end of the input leaves the password unchanged.

`confirm` is the loop, a recursion on the answers that the terminal will give; `collect` is the
whole dialogue.
-/

namespace PasswordChange.Confirmation

variable {D H : Type}

def newPrompt : String := "New password:"

def retypePrompt : String := "Retype new password:"

/-- The line that ends a dialogue without a new password. -/
def unchangedLine : String := "Password unchanged."

/-- The line that precedes another attempt. -/
def mismatchLine : String := "Mismatch; try again, EOF to quit."

/-- The reading of an answer that leaves the given answers to the next prompts. -/
def take (label : String) (answer : Answer) (rest : List Answer) : Act D H Terminal.Entry :=
  Terminal.entry fun w => Terminal.receive label answer { w with answers := rest }

def decline : Act D H (Option SecretId) := do
  Terminal.say unchangedLine
  return none

/-- Starts over after a mismatch. -/
def mismatch (restart : Act D H (Option SecretId)) : Act D H (Option SecretId) := do
  Terminal.say mismatchLine
  restart

/-- The first half of an attempt: a text that is not empty is to be confirmed. -/
def choose (answer : Answer) (rest : List Answer) (restart : Act D H (Option SecretId))
    (next : SecretId → Act D H (Option SecretId)) : Act D H (Option SecretId) := do
  match ← take newPrompt answer rest with
  | .unreadable => mismatch restart
  | .ended => decline
  | .typed new =>
    if ← Act.inspect (·.isEmpty new) then
      Act.wipe new
      decline
    else next new

/-- The second half of an attempt: the same text again confirms it. -/
def retype (new : SecretId) (answer : Answer) (rest : List Answer)
    (restart : Act D H (Option SecretId)) : Act D H (Option SecretId) := do
  match ← take retypePrompt answer rest with
  | .unreadable =>
    Act.wipe new
    mismatch restart
  | .ended =>
    Act.wipe new
    restart
  | .typed again =>
    let matched ← Act.inspect (·.agree again new)
    Act.wipe again
    if matched then return some new
    else
      Act.wipe new
      mismatch restart

/-- Asks for a new password until it is confirmed or declined. -/
def confirm : List Answer → Act D H (Option SecretId)
  | [] => choose .endOfInput [] decline fun _ => decline
  | first :: rest =>
    choose first rest (confirm rest) fun new =>
      match rest with
      | [] => retype new .endOfInput [] (confirm [])
      | second :: rest => retype new second rest (confirm rest)

/-- Asks for the password of the authenticator. One that cannot be decoded is not sent. -/
def askOld (request : Request) : Act D H (Option SecretId) := do
  let label := Policy.oldPasswordPrompt request.username request.authname
  match ← Terminal.entry (Terminal.readSecret label) with
  | .typed old => return some old
  | .ended => return none
  | .unreadable =>
    Act.log .warning "old password could not be decoded, sending none"
    return none

/-- The old password, if it is needed, and the new one, if it was confirmed. If the dialogue is
broken off, the old password is wiped. -/
def collect (request : Request) (needsAuth : Bool) :
    Act D H (Option SecretId × Option SecretId) := do
  let old ← if needsAuth then askOld request else Act.value none
  let new ← Act.onFailure (fun w => confirm w.answers w) (Act.wipe? old)
  return (old, new)

end PasswordChange.Confirmation
