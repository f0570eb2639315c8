import PasswordChange.Act

/-!
# The terminal

Passwords are read at a prompt without echo, and lines are shown on two outputs.

* `Terminal.receive` is the reading of one answer, `Terminal.readSecret` of the next one.
* `Terminal.entry` tells the ways in which a reading can end apart.
* `Terminal.Streams` are the outputs of a terminal that was given streams of its own.
-/

namespace PasswordChange.Terminal

variable {D H : Type}

/-! ## Reading -/

/-- Prompts and receives an answer: a text becomes a secret, the end of input gives none. -/
def receive (label : String) (answer : Answer) : Act D H (Option SecretId) :=
  (Act.note (.prompted label)).andThen fun _ =>
    match answer with
    | .text s => fun w =>
      let (secret, vault) := w.vault.issue s
      (.ok (some secret), { w with vault, journal := w.journal ++ [.issued secret] })
    | .endOfInput => .value none
    | .undecodable => .fail (.unreadableSecret label true)
    | .interrupt => .fail .interrupted

/-- Prompts and receives the next answer. -/
def readSecret (label : String) : Act D H (Option SecretId) :=
  fun w =>
    match w.answers with
    | [] => receive label .endOfInput w
    | answer :: rest => receive label answer { w with answers := rest }

/-- How the reading of a secret can end. -/
inductive Entry where
  | typed (secret : SecretId)
  | ended
  | unreadable
  deriving DecidableEq, Repr

/-- An unreadable secret is no failure, but one of three ways in which a reading can end. -/
def entry (reading : Act D H (Option SecretId)) : Act D H Entry :=
  fun w =>
    match reading w with
    | (.ok (some secret), w) => (.ok (.typed secret), w)
    | (.ok none, w) => (.ok .ended, w)
    | (.error (.unreadableSecret _ _), w) => (.ok .unreadable, w)
    | (.error e, w) => (.error e, w)

/-! ## Showing -/

def say (line : String) : Act D H Unit :=
  Act.note (.said line)

def warn (line : String) : Act D H Unit :=
  Act.note (.warned line)

/-- Lines as they appear in a stream. -/
def joined (lines : List String) : String :=
  String.join (lines.map (· ++ "\n"))

/-- Which of its two outputs a terminal was given as streams of its own. -/
structure Streams where
  output : Bool := false
  error : Bool := false
  deriving DecidableEq, Repr

/-- What went to the streams that the terminal was given. -/
def Streams.given (s : Streams) (j : Journal) : String × String :=
  (if s.output then joined j.said else "", if s.error then joined j.warned else "")

/-- What went to the streams of the program. -/
def Streams.standard (s : Streams) (j : Journal) : String × String :=
  (if s.output then "" else joined j.said, if s.error then "" else joined j.warned)

end PasswordChange.Terminal
