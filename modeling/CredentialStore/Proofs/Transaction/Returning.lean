import CredentialStore.Proofs.Run.Entries
import CredentialStore.Proofs.Run.Planned
import CredentialStore.Proofs.Transaction.History
import CredentialStore.Proofs.Transaction.Stages

namespace CredentialStore

open CredentialStore.Action

theorem StorePaths.namesPath_within {directory name : Text} (hdirectory : directory.NamesPath)
    (hname : name.NamesPath) : (within directory name).NamesPath := by
  have hslash : Text.NamesPath [CodePoint.ofChar '/'] := ⟨_, rfl, by decide⟩
  unfold within
  split
  · exact hname
  · split
    · exact Text.namesPath_append.2 ⟨hdirectory, hname⟩
    · exact Text.namesPath_append.2 ⟨hdirectory, Text.namesPath_append.2 ⟨hslash, hname⟩⟩

theorem StorePaths.namesPath_of_within {directory name : Text} (hpath : (within directory name).NamesPath) :
    directory.NamesPath := by
  unfold within at hpath
  split at hpath
  · rename_i hnone
    rw [List.getLast?_eq_none_iff.1 hnone]
    exact ⟨[], rfl, List.not_mem_nil⟩
  · split at hpath
    · exact (Text.namesPath_append.1 hpath).1
    · exact (Text.namesPath_append.1 hpath).1

/-- Calls on the files of a store name paths where the directory of the store does. -/
theorem Settings.namesPath_of_serves {settings : Settings} (hroot : settings.serverRoot.NamesPath) {c : Call}
    (hserves : settings.paths.Serves c) : ∀ path ∈ c.paths, path.NamesPath := by
  have hprimary : settings.paths.primary.NamesPath := StorePaths.namesPath_within hroot ⟨_, rfl, by decide⟩
  have hbackup : settings.paths.backup.NamesPath := StorePaths.namesPath_within hroot ⟨_, rfl, by decide⟩
  have hstaging : settings.paths.staging.NamesPath := StorePaths.namesPath_within hroot ⟨_, rfl, by decide⟩
  have hpair : ∀ {a b a' b' : Text}, a = a' ∧ b = b' → a'.NamesPath → b'.NamesPath →
      ∀ path ∈ [a, b], path.NamesPath := by
    rintro a b _ _ ⟨rfl, rfl⟩ ha hb
    simpa using ⟨ha, hb⟩
  cases c with
  | createStaging | unlinkStaging => simpa [Call.paths] using (hserves ▸ hstaging)
  | openPrimary => simpa [Call.paths] using (hserves ▸ hprimary)
  | unlinkBackup => simpa [Call.paths] using (hserves ▸ hbackup)
  | linkBackup | copyBackup => exact hpair hserves hprimary hbackup
  | install => exact hpair hserves hstaging hprimary
  | _ => simp [Call.paths]

namespace Transaction

variable {t : Transaction} {secrets : Secrets} {state state' : Progress} {s s' : Scene} {tr : Trace}

/-- Whether a secret is to be stored for texts that cannot be encoded: an identity that is no text in UTF-8,
    or a realm that has no bytes. -/
def Unencodable (t : Transaction) : Prop :=
  t.operation ≠ .delete ∧ (t.identity.toUtf8? = none ∨
    (t.settings.realmForDigest t.realm).toBytes? = none ∨ t.realm.toBytes? = none)

theorem unencodable_of_lacksBytes (hwriting : t.operation ≠ .delete) (hlacks : t.LacksBytes) :
    t.Unencodable := by
  refine ⟨hwriting, hlacks.imp_left fun hbytes => ?_⟩
  cases hname : t.identity.toUtf8? with
  | none => rfl
  | some name => cases hbytes.symm.trans (Text.toBytes?_of_toUtf8? hname)

/-- Whether a failure is reported, or is that of a text that cannot be encoded. -/
def Expects (t : Transaction) (failure : Failure) : Prop :=
  (∃ error, failure = .credential error) ∨ failure = .unencodable ∧ t.Unencodable

theorem expects_of_grantedIn {failure : Failure} (hsource : t.source = .script) {session : Session}
    (hgranted : t.grantedIn session = .error failure) : t.Expects failure := by
  obtain hadmitted | ⟨-, hdeclined | ⟨hterminal, -⟩⟩ := declined_of_grantedIn hgranted
  · exact .inl (exists_error_of_admitted hadmitted)
  · cases hdeclined with
    | absent => exact .inl ⟨_, rfl⟩
    | invalid => exact .inl ⟨_, rfl⟩
    | unencodable hunnamed => exact .inr ⟨rfl, hunnamed.1, .inl hunnamed.2⟩
  · cases hsource.symm.trans hterminal

/-- Where nothing strikes, whatever a transaction meets on the files is an error of the file system, and it
    is met. -/
theorem expects_of_apply {failure : Failure} (hroot : t.settings.serverRoot.NamesPath)
    (hgathered : t.Gathered secrets) (hcalm : tr.Calm)
    (hruns : (t.apply secrets).Runs .foreign state s tr (.error failure) state' s') : t.Expects failure := by
  have hleads := leadsTo_of_apply (fun _ => False) hgathered hruns
  have hbare : tr.BareSucceed := fun e he => hruns.steps.ok_of_bare he (hcalm e he)
  have hsystem : ∀ e ∈ tr, ∀ failure, e.Fails failure → ∃ cause, failure = .system cause := by
    intro e he failure hfails
    obtain ⟨s₀, hanswer⟩ := hruns.steps.exists_performed he (hcalm e he)
    have hpaths := Settings.namesPath_of_serves hroot (hruns.calls uses_apply e he)
    exact Scene.system_of_perform hpaths hfails.1 (hanswer.symm.trans hfails.2)
  obtain hmakes | hcredential := hleads.made_or_credential hbare hsystem
  · cases hmakes with
    | notFound => exact .inl ⟨_, rfl⟩
    | wrongSecret => exact .inl ⟨_, rfl⟩
    | unencodable hwriting hlacks => exact .inr ⟨rfl, unencodable_of_lacksBytes hwriting hlacks⟩
  · exact .inl hcredential

theorem expects_of_run {failure : Failure} (hsource : t.source = .script)
    (hroot : t.settings.serverRoot.NamesPath) (hcalm : tr.Calm)
    (hruns : t.run.Runs .foreign state s tr (.error failure) state' s') : t.Expects failure := by
  obtain ⟨_, hfailure, hgranted, -⟩ | ⟨secrets, _, _, first, rest, rfl, -, hgathered, -, happly⟩ := of_run hruns
  · cases hfailure
    exact expects_of_grantedIn hsource hgranted
  · exact expects_of_apply hroot hgathered (fun e he => hcalm e (by simp [he])) happly

/-- Where nothing strikes the calls of a transaction whose prompts are answered by a script, its execution
    returns a report once the log has the entry of how it ended. Only a text that cannot be encoded escapes
    it, where a secret is to be stored for that text. -/
theorem returns_unless_unencodable (t : Transaction) {outcome : Except Failure Report}
    (hsource : t.source = .script) (hroot : t.settings.serverRoot.NamesPath)
    (hruns : t.execute.Runs .foreign state s tr outcome state' s') (hcalm : tr.Calm) :
    (∃ report first last, outcome = .ok report ∧ tr = first ++ [⟨.log (.audit last), .ok (), false⟩] ∧
        (last = .committed t.operation.name t.identity t.realm ∨ ∃ code phase reason,
          last = .aborted t.operation.name t.identity t.realm code phase reason)) ∨
      outcome = .error .unencodable ∧ t.Unencodable := by
  obtain ⟨result, middle, s₁, first, hrun, rfl, rfl⟩ := of_execute Strikes.onFiles_foreign hruns
  rcases result with failure | record
  · obtain ⟨error, rfl⟩ | ⟨rfl, hunencodable⟩ :=
      expects_of_run hsource hroot (fun e he => hcalm e (by simp [he])) hrun
    · exact .inl ⟨_, first, _, rfl, rfl, .inr ⟨_, _, _, rfl⟩⟩
    · exact .inr ⟨rfl, hunencodable⟩
  · exact .inl ⟨_, first, _, rfl, rfl, .inl rfl⟩

/-- The addition to an empty directory returns: its texts can be encoded. -/
theorem sampleAddition_returns : ∃ tr report progress s' first last,
    sampleAddition.execute.Runs .foreign {} emptyScene tr (.ok report) progress s' ∧ tr.Calm ∧
      tr = first ++ [⟨.log (.audit last), .ok (), false⟩] ∧
      (last = .committed (text "ADD") (text "al") (text "sys") ∨ ∃ code phase reason,
        last = .aborted (text "ADD") (text "al") (text "sys") code phase reason) := by
  have hruns := emptyScene.runs_trace {} sampleAddition.execute (Strikes.foreign.admits_nil)
  have hcalm : Trace.Calm (emptyScene.trace {} sampleAddition.execute) := by decide +kernel
  have hencodable : ¬sampleAddition.Unencodable := by
    rintro ⟨-, hunencodable⟩
    revert hunencodable
    decide +kernel
  generalize emptyScene.trace {} sampleAddition.execute = tr at *
  generalize (emptyScene.run {} sampleAddition.execute).1.1 = outcome at hruns
  obtain ⟨report, first, last, rfl, hlast, hends⟩ | ⟨-, hunencodable⟩ :=
    returns_unless_unencodable sampleAddition rfl ⟨_, rfl, by decide⟩ hruns hcalm
  · exact ⟨tr, report, _, _, first, last, hruns, hcalm, hlast, hends⟩
  · exact absurd hunencodable hencodable

/-- An addition for an identity of a letter and a surrogate that stands for an octet. -/
def surrogateAddition : Transaction := { sampleAddition with identity := [CodePoint.ofChar 'd', 0xDC80] }

/-- The identity has the bytes that its surrogate stands for, and the addition escapes all the same: the
    log begins it and never ends it. -/
theorem surrogate_identity_escapes : ∃ tr progress s',
    surrogateAddition.source = .script ∧ surrogateAddition.settings.serverRoot.NamesPath ∧
      surrogateAddition.execute.Runs .foreign {} emptyScene tr (.error .unencodable) progress s' ∧ tr.Calm ∧
      surrogateAddition.identity.toBytes?.isSome ∧
      tr.audited = [.started (text "ADD") surrogateAddition.identity (text "sys") (text "root")] := by
  have hruns := emptyScene.runs_trace {} surrogateAddition.execute (Strikes.foreign.admits_nil)
  have houtcome : (emptyScene.run {} surrogateAddition.execute).1.1 = .error .unencodable := by decide +kernel
  rw [houtcome] at hruns
  exact ⟨_, _, _, rfl, ⟨_, rfl, by decide⟩, hruns, by decide +kernel, by decide +kernel, by decide +kernel⟩

end Transaction

end CredentialStore
