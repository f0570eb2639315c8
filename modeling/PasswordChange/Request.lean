import PasswordChange.Failure
import PasswordChange.Location

/-!
# Requests and outcomes

A `Form` is a request as its caller fills it in; `Form.submit` turns it into a `Request`, which
always names a user and an authenticator. An `Outcome` is the answer of a run that did not fail.
-/

namespace PasswordChange

/-! ## Forms -/

/-- The parts of a request, each of which may still be missing. -/
structure Form where
  username : Option String := none
  location : Location := .unspecified
  authname : Option String := none
  deriving DecidableEq, Repr, Inhabited

/-- Whose password changes, where, and who vouches for it. -/
structure Request where
  username : String
  location : Location
  authname : String
  username_ne : username ≠ ""
  authname_ne : authname ≠ ""
  deriving DecidableEq, Repr

namespace Form

/-- Replaces one part of a form, found by its word; no other word changes anything. -/
def assign (word : String) (value : Option String) (f : Form) : Form :=
  match word with
  | "username" => { f with username := value }
  | "location" => { f with location := .ofText? value }
  | "authname" => { f with authname := value }
  | _ => f

/-- The authenticator is the user named on the form. -/
def isSelfService (f : Form) : Bool :=
  f.authname == f.username

def quoted (f : Form) : String :=
  "PasswordChangeRequest(username=" ++ Value.quotedText? f.username
    ++ ", location=" ++ f.location.quoted
    ++ ", authname=" ++ Value.quotedText? f.authname ++ ")"

/-- A form without a user is refused; the user vouches where no authenticator is named. -/
def submit (f : Form) : Except Failure Request :=
  match f.username with
  | none => .error .usernameRequired
  | some username =>
    if hu : username = "" then .error .usernameRequired
    else match f.authname with
      | none => .ok ⟨username, f.location, username, hu, hu⟩
      | some authname =>
        if ha : authname = "" then .ok ⟨username, f.location, username, hu, hu⟩
        else .ok ⟨username, f.location, authname, hu, ha⟩

end Form

/-- A request as a form with every part filled in. -/
def Request.toForm (r : Request) : Form :=
  { username := some r.username, location := r.location, authname := some r.authname }

/-- A request survives being written down and submitted again. -/
theorem Form.submit_toForm (r : Request) : r.toForm.submit = .ok r := by
  obtain ⟨username, location, authname, hu, ha⟩ := r
  simp [Request.toForm, Form.submit, hu, ha]

/-! ## Outcomes -/

/-- What a run that did not fail has done. -/
structure Outcome where
  username : Option String
  changed : Bool
  needsAuth : Bool := false
  location : Location := .unspecified
  deriving DecidableEq, Repr

def Outcome.quoted (o : Outcome) : String :=
  "PasswordChangeResult(username=" ++ Value.quotedText? o.username
    ++ ", changed=" ++ Value.quotedBool o.changed
    ++ ", needs_auth=" ++ Value.quotedBool o.needsAuth
    ++ ", location=" ++ o.location.quoted ++ ")"

end PasswordChange
