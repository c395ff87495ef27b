import CredentialStore.Proofs.Secret.Asking
import CredentialStore.Proofs.Store.Survivors
import CredentialStore.Transaction.Run

namespace CredentialStore.Transaction

/-- The first record of a store for the identity and the realm. -/
def found (t : Transaction) (contents : Option Bytes) : Option Record :=
  Record.firstFor? t.identity t.realm (Bytes.lines (contents.getD []))

/-- The octets of a store that survive the transaction. -/
def kept (t : Transaction) (contents : Option Bytes) : Bytes :=
  (Record.survivors t.identity t.realm (Bytes.lines (contents.getD []))).flatten

/-- What the transaction makes of a store that is held: the record that it writes, if any, and the
    octets of the new store. -/
def effect (t : Transaction) (secrets : Secrets) (contents : Option Bytes) :
    Except Failure (Option Record × Bytes) := do
  t.checkMatched secrets (t.found contents)
  match ← t.newRecord secrets with
  | none => pure (none, t.kept contents)
  | some record =>
    match record.toLine? with
    | none => throw .unencodable
    | some line => pure (some record, (t.kept contents).terminated ++ line)

/-- Whether the fields are valid and the caller may do the operation. -/
def admitted (t : Transaction) : Except Failure Unit := do
  (Policy.validateField (text "username") t.identity).mapError .credential
  (Policy.validateField (text "group") t.realm).mapError .credential
  if t.settings.permits t.operation t.identity then pure () else throw (.credential .refused)

/-- The secrets that a session gives, which do not depend on the world. -/
def secretsIn (t : Transaction) (session : Session) : Except Failure Secrets :=
  (Scene.run ⟨{ files := ⟨[], [], 0⟩ }, session⟩ {} t.gatherSecrets).1.1

/-- The secrets that a session gives to the transaction if it is admitted. -/
def grantedIn (t : Transaction) (session : Session) : Except Failure Secrets := do
  t.admitted
  t.secretsIn session

/-- What the transaction makes of a store in a session. -/
def resultIn (t : Transaction) (session : Session) (contents : Option Bytes) :
    Except Failure (Option Record × Bytes) := do
  t.admitted
  let secrets ← t.secretsIn session
  t.effect secrets contents

/-- The update of a store by the transaction in a session. -/
def updateIn (t : Transaction) (session : Session) (contents : Option Bytes) : Option Bytes :=
  match t.resultIn session contents with
  | .ok (_, octets) => some octets
  | .error _ => contents

variable {t : Transaction} {session : Session} {contents : Option Bytes}

theorem resultIn_eq_bind (t : Transaction) (session : Session) (contents : Option Bytes) :
    t.resultIn session contents = (t.grantedIn session).bind (t.effect · contents) := by
  rw [resultIn, grantedIn]
  cases t.admitted with
  | error failure => rfl
  | ok _ => cases t.secretsIn session <;> rfl

theorem of_grantedIn_eq_ok {secrets : Secrets} (hgranted : t.grantedIn session = .ok secrets) :
    t.admitted = .ok () ∧ t.secretsIn session = .ok secrets := by
  rw [grantedIn] at hgranted
  cases hadmitted : t.admitted with
  | error failure =>
    rw [hadmitted] at hgranted
    cases hgranted
  | ok _ =>
    rw [hadmitted] at hgranted
    exact ⟨rfl, hgranted⟩

theorem effect_of_newRecord {secrets : Secrets} {record : Record}
    (hcheck : t.checkMatched secrets (t.found contents) = .ok ())
    (hrecord : t.newRecord secrets = .ok (some record)) :
    t.effect secrets contents = match record.toLine? with
      | none => .error .unencodable
      | some line => .ok (some record, (t.kept contents).terminated ++ line) := by
  simp only [effect, hcheck, hrecord]
  rfl

theorem updateIn_of_ok {record : Option Record} {octets : Bytes}
    (hresult : t.resultIn session contents = .ok (record, octets)) :
    t.updateIn session contents = some octets := by
  rw [updateIn, hresult]

theorem of_resultIn_eq_ok {result : Option Record × Bytes}
    (hresult : t.resultIn session contents = .ok result) :
    t.admitted = .ok () ∧ ∃ secrets, t.secretsIn session = .ok secrets ∧
      t.effect secrets contents = .ok result := by
  rw [resultIn_eq_bind] at hresult
  cases hgranted : t.grantedIn session with
  | error failure =>
    rw [hgranted] at hresult
    cases hresult
  | ok secrets =>
    rw [hgranted] at hresult
    obtain ⟨hadmitted, hsecrets⟩ := of_grantedIn_eq_ok hgranted
    exact ⟨hadmitted, secrets, hsecrets, hresult⟩

theorem of_effect_eq_ok {secrets : Secrets} {written : Option Record} {octets : Bytes}
    (heffect : t.effect secrets contents = .ok (written, octets)) :
    t.newRecord secrets = .ok written ∧
      (written = none → octets = t.kept contents) ∧
      ∀ record, written = some record → ∃ line, record.toLine? = some line ∧
        octets = (t.kept contents).terminated ++ line := by
  cases hcheck : t.checkMatched secrets (t.found contents) with
  | error failure =>
    simp only [effect, hcheck] at heffect
    cases heffect
  | ok _ =>
    cases hrecord : t.newRecord secrets with
    | error failure =>
      simp only [effect, hcheck, hrecord] at heffect
      cases heffect
    | ok record =>
      cases record with
      | none =>
        simp only [effect, hcheck, hrecord] at heffect
        cases heffect
        exact ⟨rfl, fun _ => rfl, fun _ hsome => by cases hsome⟩
      | some record =>
        rw [effect_of_newRecord hcheck hrecord] at heffect
        cases hline : record.toLine? with
        | none =>
          rw [hline] at heffect
          cases heffect
        | some line =>
          rw [hline] at heffect
          cases heffect
          refine ⟨rfl, fun hnone => ?_, fun _ hsome => ?_⟩
          · cases hnone
          · cases hsome
            exact ⟨line, hline, rfl⟩

theorem exists_of_newRecord {secrets : Secrets} {new : Secret} {written : Option Record}
    (hnew : secrets.new = some new) (hrecord : t.newRecord secrets = .ok written) :
    ∃ token, Token.of? t.identity (t.settings.realmForDigest t.realm) new.octets = some token ∧
      written = some ⟨t.identity, t.realm, token⟩ := by
  simp only [newRecord, hnew] at hrecord
  cases htoken : Token.of? t.identity (t.settings.realmForDigest t.realm) new.octets with
  | none =>
    rw [htoken] at hrecord
    cases hrecord
  | some token =>
    rw [htoken] at hrecord
    cases hrecord
    exact ⟨token, rfl, rfl⟩

/-- The last part of gathering the secrets: the new one, unless the record is deleted. -/
def gatherNew (t : Transaction) (authenticator : Option Authenticator) : Action Progress Secrets := do
  let new ←
    if t.operation = .delete then pure none
    else some <$> Prompt.newSecret t.source t.identity
  pure { authenticator, new }

theorem gatherSecrets_eq (t : Transaction) : t.gatherSecrets =
    if t.operation = .change ∧ t.settings.privileged = false then
      some <$> Authenticator.acquire { realm := t.settings.digestRealm } t.source >>= t.gatherNew
    else t.gatherNew none := by
  by_cases hasked : t.operation = .change ∧ t.settings.privileged = false
  · rw [gatherSecrets, if_pos hasked, if_pos hasked]
    rfl
  · rw [gatherSecrets, if_neg hasked, if_neg hasked]
    rfl

theorem asks_gatherNew (t : Transaction) (authenticator : Option Authenticator) :
    (t.gatherNew authenticator).Asks := by
  rw [gatherNew]
  split
  · exact Action.asks_bind (Action.asks_pure _) fun _ => Action.asks_pure _
  · exact Action.asks_bind (Action.asks_map (Prompt.asks_newSecret t.source t.identity))
      fun _ => Action.asks_pure _

theorem asks_gatherSecrets (t : Transaction) : t.gatherSecrets.Asks := by
  rw [gatherSecrets_eq]
  split
  · refine Action.asks_bind (Action.asks_map ?_) t.asks_gatherNew
    exact Action.asks_bind (Prompt.asks_secret t.source Prompt.old) fun _ => Action.asks_pure _
  · exact t.asks_gatherNew none

end CredentialStore.Transaction
