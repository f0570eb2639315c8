import PasswordChange.Host

/-!
# The world

The flow acts on a `World`: a directory, a host, the vault with the secrets, the answers that
the terminal will give, and the journal of what has happened.
-/

namespace PasswordChange

/-- An answer of the terminal to a prompt. -/
inductive Answer where
  | text (s : String)
  | endOfInput
  /-- A line whose bytes are no text. -/
  | undecodable
  /-- The user interrupts the program. -/
  | interrupt
  deriving DecidableEq, Repr

/-- Everything an act can see and change. -/
structure World (D H : Type) where
  directory : D
  host : H
  vault : Vault := .empty
  /-- The answers that the terminal will give; when they are used up, the input has ended. -/
  answers : List Answer := []
  journal : Journal := []

end PasswordChange
