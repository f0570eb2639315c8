import PasswordChange.Proofs.Lockstep

/-!
# The flow from a node on at two directories

A `NodeAccord` relates two directories at each station of the flow after the session was closed: at
a node, at a record in it, and at the record after its location was read. Its laws say that every
operation of the flow leads from a station to the next one on both sides. So the flow goes the same
way at both directories, up to the renaming of what is typed (`NodeAccord.enter_inStep`).
-/

namespace PasswordChange

open Confirmation

variable {D₁ D₂ H : Type}

/-- A secret that there may be has a text in the first vault and the renamed text in the second. -/
structure Renaming.Reads (f : Renaming) (v₁ v₂ : Vault) (s? : Option SecretId)
    (text : Option String) : Prop where
  first : v₁.reveal? s? = .ok text
  second : v₂.reveal? s? = .ok (text.map f.text)

/-- Where nothing is renamed, the text is the same. -/
theorem Renaming.Reads.eq_of_identity {v₁ v₂ : Vault} {s? : Option SecretId} {text : Option String}
    (reads : Renaming.identity.Reads v₁ v₂ s? text) : v₂.reveal? s? = .ok text := by
  have same : text.map Renaming.identity.text = text := Option.map_id'
  rw [reads.second, same]

/-- There is a handle on both sides, and then `present` relates the directories, or on none, and
then `absent` does. -/
def Optionally (present : HandleId → HandleId → D₁ → D₂ → Prop) (absent : D₁ → D₂ → Prop) :
    Option HandleId → Option HandleId → D₁ → D₂ → Prop
  | some i, some j => present i j
  | none, none => absent
  | some _, none | none, some _ => fun _ _ => False

/-- How two directories are related at the stations of the flow of a changer for a request from a
node on: at the node, at a record in it before and after its location is read, and when both are
closed. The laws say what the operations of the flow do to them. -/
structure NodeAccord (D₁ D₂ : Type) [Directory D₁] [Directory D₂] (cmp : Comparison D₁)
    (c : Changer) (request : Request) where
  idle : D₁ → D₂ → Prop
  node (n₁ n₂ : HandleId) : D₁ → D₂ → Prop
  record (n₁ n₂ r₁ r₂ : HandleId) : D₁ → D₂ → Prop
  /-- The location of the record has been read. -/
  read (location : Location) (n₁ n₂ r₁ r₂ : HandleId) : D₁ → D₂ → Prop
  frame : Directory.SessionFrame (D := D₁) cmp.Earlier fun _ => True
  copyRecord (n₁ n₂ : HandleId) :
    cmp.Tandem (node n₁ n₂) (Directory.copyRecord n₁ Directory.userRecords request.username)
      (Directory.copyRecord n₂ Directory.userRecords request.username)
      (Optionally (record n₁ n₂) (node n₁ n₂)) (node n₁ n₂)
  copyValues (searched : Location) (n₁ n₂ r₁ r₂ : HandleId) :
    cmp.Tandem (record n₁ n₂ r₁ r₂) (Directory.copyValues r₁ Directory.metanodeLocation)
      (Directory.copyValues r₂ Directory.metanodeLocation)
      (fun values values' d₁ d₂ => values' = values ∧
        read (Policy.canonicalLocation values searched) n₁ n₂ r₁ r₂ d₁ d₂)
      (record n₁ n₂ r₁ r₂)
  forget {location : Location} {n₁ n₂ r₁ r₂ : HandleId} {d₁ : D₁} {d₂ : D₂} :
    read location n₁ n₂ r₁ r₂ d₁ d₂ → record n₁ n₂ r₁ r₂ d₁ d₂
  setCredentials {v₁ v₂ : Vault} {old? new? : Option SecretId} {old : Option String}
    {new : String} {location : Location} (n₁ n₂ r₁ r₂ : HandleId) :
    c.needsAuthentication location = true →
    cmp.rename.Reads v₁ v₂ old? old → cmp.rename.Reads v₁ v₂ new? (some new) →
    cmp.Tandem (read location n₁ n₂ r₁ r₂)
      (Directory.setCredentials v₁ r₁ Directory.userRecords Directory.setPassword
        [.text request.username, .ofSecret? new?, .text request.authname, .ofSecret? old?])
      (Directory.setCredentials v₂ r₂ Directory.userRecords Directory.setPassword
        [.text request.username, .ofSecret? new?, .text request.authname, .ofSecret? old?])
      (fun _ _ => record n₁ n₂ r₁ r₂) (record n₁ n₂ r₁ r₂)
  changePassword {v₁ v₂ : Vault} {old? new? : Option SecretId} {old : Option String}
    {new : String} {location : Location} (n₁ n₂ r₁ r₂ : HandleId) :
    c.needsAuthentication location = false →
    cmp.rename.Reads v₁ v₂ old? old → cmp.rename.Reads v₁ v₂ new? (some new) →
    cmp.Tandem (read location n₁ n₂ r₁ r₂)
      (Directory.changePassword v₁ r₁ (.ofSecret? old?) (.ofSecret? new?))
      (Directory.changePassword v₂ r₂ (.ofSecret? old?) (.ofSecret? new?))
      (fun _ _ => record n₁ n₂ r₁ r₂) (record n₁ n₂ r₁ r₂)
  closeRecord (n₁ n₂ r₁ r₂ : HandleId) :
    cmp.Closes (record n₁ n₂ r₁ r₂) r₁ r₂ (node n₁ n₂)
  closeNode (n₁ n₂ : HandleId) : cmp.Closes (node n₁ n₂) n₁ n₂ idle

variable [Directory D₁] [Directory D₂] {cmp : Comparison D₁} {c : Changer} {request : Request}

namespace NodeAccord

open Comparison Changer

variable (pair : NodeAccord D₁ D₂ cmp c request)

/-! ## The exchange -/

/-- The passwords of a confirmed conversation are read on both sides, renamed on the second. -/
theorem reads_of_confirmed {f : Renaming} {v₁ v₂ : Vault} {talk : Conversation}
    {password : String} (alike : v₁.Alike v₂)
    (confirmed : talk.resolution = .confirmed password) :
    f.Reads (talk.vault v₁) ((talk.rename f).vault v₂) (talk.old? v₁) talk.opening.password? ∧
      f.Reads (talk.vault v₁) ((talk.rename f).vault v₂) (talk.new? v₁) (some password) := by
  obtain ⟨old, new, _⟩ := talk.secrets_rename f alike
  have renamed : (talk.rename f).resolution = .confirmed (f.text password) := by
    rw [talk.resolution_rename, confirmed]
    rfl
  obtain ⟨s, given, _, contents⟩ := talk.new?_of_confirmed confirmed v₁
  obtain ⟨s', given', _, contents'⟩ := (talk.rename f).new?_of_confirmed renamed v₂
  rw [new, given] at given'
  cases given'
  refine ⟨⟨talk.reveal_old? v₁, ?_⟩, ⟨?_, ?_⟩⟩
  · have read := (talk.rename f).reveal_old? v₂
    rw [old, talk.password?_rename] at read
    exact read
  · rw [given]
    exact congrArg (Except.map some) (Vault.reveal_of_contents_eq contents)
  · rw [given]
    exact congrArg (Except.map some) (Vault.reveal_of_contents_eq contents')

/-- The submissions of a confirmed conversation are in tandem. -/
theorem submissionOf_tandem {v₁ v₂ : Vault} {talk : Conversation} {password : String}
    (alike : v₁.Alike v₂) (confirmed : talk.resolution = .confirmed password)
    (location : Location) (n₁ n₂ r₁ r₂ : HandleId) :
    cmp.Tandem (pair.read location n₁ n₂ r₁ r₂)
      (submissionOf r₁ request (c.needsAuthentication location) talk v₁)
      (submissionOf r₂ request (c.needsAuthentication location) (talk.rename cmp.rename) v₂)
      (fun _ _ => pair.record n₁ n₂ r₁ r₂) (pair.record n₁ n₂ r₁ r₂) := by
  obtain ⟨readOld, readNew⟩ := reads_of_confirmed (f := cmp.rename) alike confirmed
  obtain ⟨old, new, _⟩ := talk.secrets_rename cmp.rename alike
  unfold submissionOf submission
  rw [old, new]
  cases needed : c.needsAuthentication location with
  | true => exact pair.setCredentials n₁ n₂ r₁ r₂ needed readOld readNew
  | false => exact pair.changePassword n₁ n₂ r₁ r₂ needed readOld readNew

omit [Directory D₁] [Directory D₂] in
theorem wiped_abreast {S : D₁ → D₂ → Prop} {w₁ : World D₁ H} {w₂ : World D₂ H}
    (abreast : cmp.Abreast S w₁ w₂) (secret? : Option SecretId) :
    cmp.Abreast S (wiped secret? w₁) (wiped secret? w₂) := by
  refine ⟨abreast.directory, abreast.host, ?_, abreast.answers⟩
  cases secret? with
  | none => exact abreast.vault
  | some s => exact abreast.vault.wipe s s

omit [Directory D₁] [Directory D₂] in
theorem after_abreast {S : D₁ → D₂ → Prop} {w₁ : World D₁ H} {w₂ : World D₂ H}
    (abreast : cmp.Abreast S w₁ w₂) (label : String) (talk : Conversation) :
    cmp.Abreast S (talk.after label w₁) ((talk.rename cmp.rename).after label w₂) :=
  ⟨abreast.directory, abreast.host, (talk.secrets_rename cmp.rename abreast.vault).2.2, rfl⟩

omit [Directory D₁] [Directory D₂] in
/-- The events of a confirmed conversation and of the submission after it. -/
theorem concluded_events {talk talk' : Conversation} {w₁ : World D₁ H} {w₂ : World D₂ H}
    {location : Location} {needsAuth : Bool} {step₁ : Step D₁ Unit} {step₂ : Step D₂ Unit}
    (spoken : cmp.events (talk.events (oldPrompt request) w₁.vault)
      (talk'.events (oldPrompt request) w₂.vault))
    (same : cmp.events step₁.events step₂.events)
    (reported : report request location step₂.outcome = report request location step₁.outcome) :
    cmp.Along w₁ (concluded request location needsAuth talk step₁ w₁) w₂
      (concluded request location needsAuth talk' step₂ w₂) := by
  have kind (outcome : Except Failure Unit) :
      ∀ event ∈ report request location outcome, event.isCommon = true := by
    cases outcome <;> simp [report, Event.isCommon]
  have last := cmp.common _ (kind step₁.outcome)
  have intended := cmp.common [.logged (intention request needsAuth)]
    (List.forall_mem_singleton.2 rfl)
  refine ⟨_, _, ?_, ?_, cmp.append spoken (cmp.append intended (cmp.append same last))⟩
  · simp [concluded]
  · simp [concluded, reported]

/-- A conversation goes the same way on both sides, and so does the submission it leads to. -/
theorem exchange_inStep (n₁ n₂ r₁ r₂ : HandleId) (location : Location) :
    cmp.InStep (H := H) (pair.read location n₁ n₂ r₁ r₂)
      (exchange r₁ request location (c.needsAuthentication location))
      (exchange r₂ request location (c.needsAuthentication location))
      (fun outcome outcome' d₁ d₂ => outcome' = outcome ∧ pair.record n₁ n₂ r₁ r₂ d₁ d₂)
      (pair.record n₁ n₂ r₁ r₂) := by
  intro w₁ w₂ abreast ahead
  have tandem {password : String} {talk : Conversation}
      (confirmed : talk.resolution = .confirmed password) :=
    pair.submissionOf_tandem abreast.vault confirmed location n₁ n₂ r₁ r₂
  generalize c.needsAuthentication location = needsAuth at ahead tandem ⊢
  have renamed : Conversation.of needsAuth w₂.answers =
      (Conversation.of needsAuth w₁.answers).rename cmp.rename := by
    rw [abreast.answers, Conversation.of_rename]
  generalize held : Conversation.of needsAuth w₁.answers = talk at renamed
  obtain ⟨old, new, _⟩ := talk.secrets_rename cmp.rename abreast.vault
  have resolution := talk.resolution_rename cmp.rename
  have spoken : cmp.events (talk.events (oldPrompt request) w₁.vault)
      ((talk.rename cmp.rename).events (oldPrompt request) w₂.vault) := by
    rw [talk.events_rename cmp.rename abreast.vault]
    exact cmp.common _ fun event member =>
      Event.isCommon_of_isSpoken (talk.isSpoken_events _ _ event member)
  have left := wiped_abreast (after_abreast abreast (oldPrompt request) talk) (talk.old? w₁.vault)
  rcases resolved : talk.resolution with _ | _ | password <;> rw [resolved] at resolution
  case interrupted =>
    rw [exchange_of_interrupted r₁ request location held resolved,
      exchange_of_interrupted r₂ request location renamed resolution, old]
    exact ⟨.error (.same _) (left.mono pair.forget), _, _, rfl, rfl, spoken⟩
  case declined =>
    rw [exchange_of_declined r₁ request location held resolved,
      exchange_of_declined r₂ request location renamed resolution, old]
    exact ⟨.ok (left.mono fun related => ⟨rfl, pair.forget related⟩), _, _, rfl, rfl, spoken⟩
  case confirmed =>
    have steps := tandem resolved w₁.directory w₂.directory abreast.directory
    have last := wiped_abreast left (talk.new? w₁.vault)
    have vault (step₁ : Step D₁ Unit) (step₂ : Step D₂ Unit) :
        (concluded request location needsAuth talk step₁ w₁).vault.Alike
          (concluded request location needsAuth (talk.rename cmp.rename) step₂ w₂).vault := by
      unfold concluded
      rw [old, new]
      exact last.vault
    rw [exchange_of_confirmed r₁ request location held resolved] at ahead ⊢
    rw [exchange_of_confirmed r₂ request location renamed resolution]
    have steps := steps ahead
    generalize submissionOf r₁ request needsAuth talk w₁.vault w₁.directory = step₁ at steps ⊢
    generalize submissionOf r₂ request needsAuth _ w₂.vault w₂.directory = step₂ at steps ⊢
    cases steps with
    | ok related same =>
        exact ⟨.ok ⟨⟨rfl, related⟩, last.host, vault _ _, last.answers⟩,
          concluded_events spoken same rfl⟩
    | fail fails related same =>
        exact ⟨.error fails ⟨related, last.host, vault _ _, last.answers⟩,
          concluded_events spoken same rfl⟩

/-! ## The flow -/

/-- The service at a record goes the same way on both sides. -/
theorem serve_inStep (n₁ n₂ r₁ r₂ : HandleId) (searched : Location) :
    cmp.InStep (H := H) (pair.record n₁ n₂ r₁ r₂) (c.serve r₁ request searched)
      (c.serve r₂ request searched)
      (fun outcome outcome' d₁ d₂ => outcome' = outcome ∧ pair.record n₁ n₂ r₁ r₂ d₁ d₂)
      (pair.record n₁ n₂ r₁ r₂) := by
  have laws := pair.frame.toServiceFrame
  have noted (event : Event) : (Act.note event : Act D₁ H Unit).Keeps cmp.course :=
    cmp.keeps_course (laws.keeps_note trivial).onstage
  have exchanged (location : Location) (needsAuth : Bool) :
      (exchange r₁ request location needsAuth : Act D₁ H Outcome).Keeps cmp.course :=
    cmp.keeps_course (exchange_keeps laws.covers _ _ _ _)
  refine .bind (.perform (pair.copyValues searched n₁ n₂ r₁ r₂))
    (fun values => .bind (noted _) fun _ => .bind (noted _) fun _ => exchanged _ _)
    fun values values' => .given ?_
  rintro rfl
  refine .bind (.note rfl) (fun _ => .bind (noted _) fun _ => exchanged _ _) fun _ _ => ?_
  refine .bind (.note rfl) (fun _ => exchanged _ _) fun _ _ => ?_
  exact pair.exchange_inStep n₁ n₂ r₁ r₂ _

theorem findRecord_inStep (n₁ n₂ : HandleId) :
    cmp.InStep (H := H) (pair.node n₁ n₂) (findRecord n₁ request.username)
      (findRecord n₂ request.username) (fun r₁ r₂ => pair.record n₁ n₂ r₁ r₂)
      (pair.node n₁ n₂) := by
  refine .bind (.perform (pair.copyRecord n₁ n₂)) (fun record? => ?_)
    fun record? record?' => ?_
  · cases record? with
    | none => exact Act.keeps_fail _
    | some record => exact Act.keeps_value _
  · rcases record? with _ | r₁ <;> rcases record?' with _ | r₂
    · exact .fail (.same _)
    · exact fun _ _ abreast => abreast.directory.elim
    · exact fun _ _ abreast => abreast.directory.elim
    · exact .value fun _ _ => id

include pair in
theorem close_keeps (handle : HandleId) :
    (Act.perform (Directory.close handle) : Act D₁ H Unit).Keeps cmp.course :=
  cmp.keeps_course (pair.frame.toIdleFrame.keeps_perform (pair.frame.close handle)).onstage

theorem enter_inStep (n₁ n₂ : HandleId) (location : Location) :
    cmp.InStep (H := H) (pair.node n₁ n₂) (c.enter request location n₁)
      (c.enter request location n₂)
      (fun outcome outcome' d₁ d₂ => outcome' = outcome ∧ pair.idle d₁ d₂) pair.idle := by
  have served (r₁ r₂ : HandleId) : cmp.InStep (H := H) (pair.record n₁ n₂ r₁ r₂)
      (Act.closing r₁ (c.serve r₁ request location)) (Act.closing r₂ (c.serve r₂ request location))
      (fun outcome outcome' d₁ d₂ => outcome' = outcome ∧ pair.node n₁ n₂ d₁ d₂)
      (pair.node n₁ n₂) :=
    .closing (pair.serve_inStep n₁ n₂ r₁ r₂ location) (pair.close_keeps r₁)
      (fun _ _ => (pair.closeRecord n₁ n₂ r₁ r₂).with) (pair.closeRecord n₁ n₂ r₁ r₂)
  have later (record : HandleId) :
      (Act.closing record (c.serve record request location) : Act D₁ H Outcome).Keeps cmp.course :=
    cmp.keeps_course (Changer.closing_keeps pair.frame.covers record
      (c.serve_keeps pair.frame.toServiceFrame.covers record request location))
  exact .closing (.bind (pair.findRecord_inStep n₁ n₂) later served)
    (pair.close_keeps n₁) (fun _ _ => (pair.closeNode n₁ n₂).with) (pair.closeNode n₁ n₂)

end NodeAccord

end PasswordChange
