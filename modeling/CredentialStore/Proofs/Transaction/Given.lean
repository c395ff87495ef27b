import CredentialStore.Proofs.Transaction.Prompted
import CredentialStore.Proofs.Transaction.Recognized

namespace CredentialStore

theorem Strikes.foreign_of_systemErrors {fs : FileSystem} {c : Call} {failure : Failure}
    (hstrikes : systemErrors fs c failure) : foreign fs c failure := by
  obtain ⟨hpoint, cause, rfl, -⟩ := hstrikes
  exact ⟨hpoint, fun _ hcredential => by cases hcredential⟩

namespace Record

/-- The records of a store, in order. -/
def listed (contents : Option Bytes) : List Record := (Bytes.lines (contents.getD [])).filterMap parse

/-- Of the records, the first for the identity and the realm goes, and all others survive. -/
theorem filterMap_parse_survivors (identity realm : Text) (ls : List Bytes) :
    (survivors identity realm ls).filterMap parse =
      (ls.filterMap parse).eraseP (·.isFor identity realm) := by
  induction ls with
  | nil => rfl
  | cons line rest ih =>
    obtain ⟨hparse, -⟩ | ⟨hparse, hfor⟩ | ⟨hparse, hfor⟩ := line_cases identity realm line
    · rw [survivors_cons_of_none hparse, List.filterMap_cons_none hparse, ih]
    · obtain ⟨record, hrecord⟩ := Option.isSome_iff_exists.1 hparse
      have hmatch : record.isFor identity realm = true := by rwa [isLineFor, hrecord, Option.any_some] at hfor
      have herase : (record :: rest.filterMap parse).eraseP (·.isFor identity realm) = rest.filterMap parse :=
        List.eraseP_cons_of_pos hmatch
      rw [survivors_cons_of_isLineFor hfor, List.filterMap_cons_some hrecord, herase]
    · obtain ⟨record, hrecord⟩ := Option.isSome_iff_exists.1 hparse
      have hother : record.isFor identity realm = false := by rwa [isLineFor, hrecord, Option.any_some] at hfor
      have herase : (record :: rest.filterMap parse).eraseP (·.isFor identity realm) =
          record :: (rest.filterMap parse).eraseP (·.isFor identity realm) :=
        List.eraseP_cons_of_neg (by simp [hother])
      rw [survivors_cons_of_isSome hparse hfor, List.filterMap_cons_some hrecord,
        List.filterMap_cons_some hrecord, ih, herase]

/-- The line of validated fields and a token is one line, and a record with the same bytes in its fields. -/
theorem of_toLine? {r : Record} {name name' : Text} {line : Bytes}
    (hidentity : Policy.validateField name r.identity = .ok ())
    (hrealm : Policy.validateField name' r.realm = .ok ()) (htoken : Token.IsHex r.token)
    (hline : r.toLine? = some line) :
    Bytes.lines line = [line] ∧ ∃ added, parse line = some added ∧
      added.identity.toBytes? = r.identity.toBytes? ∧ added.realm.toBytes? = r.realm.toBytes? := by
  obtain ⟨x, hx, hrest⟩ := Option.bind_eq_some_iff.1 hline
  obtain ⟨y, hy, -⟩ := Option.bind_eq_some_iff.1 hrest
  obtain ⟨z, hz, hpiece, hstripped⟩ := htoken.exists_toBytes?
  obtain ⟨hne, hclear⟩ := Text.of_validateField hidentity
  obtain ⟨hne', hclear'⟩ := Text.of_validateField hrealm
  obtain ⟨front, hfront, hfree, hparse⟩ := lines_join (Text.isPiece_of_notMem hne hclear hx)
    (Text.isPiece_of_notMem hne' hclear' hy) hpiece hstripped
  have hjoined := toLine?_eq hx hy hz
  rw [hfront, hline] at hjoined
  obtain rfl := Option.some.inj hjoined
  exact ⟨Bytes.lines_eq_singleton hfree, _, hparse, (Bytes.toBytes?_toText x).trans hx.symm,
    (Bytes.toBytes?_toText y).trans hy.symm⟩

end Record

namespace Transaction

variable {t : Transaction} {session : Session} {state state' : Progress} {s s' : Scene} {tr : Trace}

theorem orDefault_of_ne_nil {given : Text} (hne : given ≠ []) (default : Text) :
    orDefault (some given) default = given := by
  obtain ⟨c, rest, rfl⟩ := List.exists_cons_of_ne_nil hne
  rfl

/-- A text with a separator is not the empty one, so no default stands in for it. -/
theorem orDefault_of_mem {given default : Text} {c : CodePoint} (hc : c ∈ given) :
    orDefault (some given) default = given :=
  orDefault_of_ne_nil (List.ne_nil_of_mem hc) default

theorem validateField_of_mem (name : Text) {value : Text} {c : CodePoint} (hc : c ∈ Policy.forbidden)
    (hmem : c ∈ value) : ∃ error, Policy.validateField name value = .error error := by
  cases hvalid : Policy.validateField name value with
  | error error => exact ⟨error, rfl⟩
  | ok _ => exact absurd hmem ((Text.of_validateField hvalid).2 c hc)

/-- Whatever the caller may do, a separator in a field is what the transaction is refused for. -/
theorem exists_invalid_of_mem {c : CodePoint} (hc : c ∈ Policy.forbidden)
    (hmem : c ∈ t.identity ∨ c ∈ t.realm) :
    ∃ reason, t.admitted = .error (.credential (.invalid reason)) := by
  rw [admitted]
  cases hidentity : Policy.validateField (text "username") t.identity with
  | error error =>
    obtain ⟨reason, rfl⟩ := invalid_of_validateField hidentity
    exact ⟨reason, rfl⟩
  | ok _ =>
    obtain hmem | hmem := hmem
    · obtain ⟨_, herror⟩ := validateField_of_mem (text "username") hc hmem
      cases hidentity.symm.trans herror
    · obtain ⟨error, hrealm⟩ := validateField_of_mem (text "group") hc hmem
      obtain ⟨reason, rfl⟩ := invalid_of_validateField hrealm
      rw [hrealm]
      exact ⟨reason, rfl⟩

/-- A transaction that is not admitted asks nothing, touches no file and ends with why it is not. -/
theorem of_execute_not_admitted {outcome : Except Failure Report} {error : CredentialError}
    (hnot : t.admitted = .error (.credential error))
    (hruns : t.execute.Runs .foreign state s tr outcome state' s') :
    outcome = .ok (t.aborted .start error) ∧ tr.prompts = [] ∧ (∀ e ∈ tr, e.call.faultPoint? = none) ∧
      s'.world.files = s.world.files := by
  have hgranted : t.grantedIn s.session = .error (.credential error) := by
    rw [grantedIn, hnot]
    rfl
  obtain ⟨houtcome, hpoints, hfiles⟩ := of_execute_refused hgranted hruns
  obtain ⟨_, _, _, first, rest, rfl, hopening, hrest, -⟩ := opening_of_execute hruns
  refine ⟨houtcome, ?_, hpoints, hfiles⟩
  rw [Trace.prompts_append, Trace.prompts_eq_nil hrest, List.append_nil]
  exact prompts_of_not_admitted (fun hok => by cases hnot.symm.trans hok) hopening

/-- The records of two stores that differ in one update for an identity and a realm: the first record for them
    goes, and at most one comes, which has their bytes. -/
def Confined (identity realm : Text) (before after : Option Bytes) : Prop :=
  after = before ∨ ∃ added : List Record,
    Record.listed after = (Record.listed before).eraseP (·.isFor identity realm) ++ added ∧
      added.length ≤ 1 ∧ ∀ record ∈ added, record.identity.toBytes? = identity.toBytes? ∧
        record.realm.toBytes? = realm.toBytes?

theorem confined_of_resultIn {contents : Option Bytes} {written : Option Record} {octets : Bytes}
    (hresult : t.resultIn session contents = .ok (written, octets)) :
    Confined t.identity t.realm contents (some octets) := by
  have hkept := Record.filterMap_parse_survivors t.identity t.realm (Bytes.lines (contents.getD []))
  have hapart := Record.apart_survivors t.identity t.realm (contents.getD [])
  refine .inr ?_
  by_cases hdelete : t.operation = .delete
  · obtain ⟨-, rfl⟩ := eq_kept_of_resultIn hdelete hresult
    refine ⟨[], ?_, Nat.zero_le 1, List.forall_mem_nil _⟩
    rw [Record.listed, Record.listed, Option.getD_some, kept, hapart.lines_flatten, hkept, List.append_nil]
  · obtain ⟨secrets, new, token, line, -, -, htoken, -, hline, rfl⟩ := exists_record_of_resultIn hdelete hresult
    obtain ⟨hidentity, hrealm, -⟩ := valid_of_admitted (of_resultIn_eq_ok hresult).1
    obtain ⟨hsingle, added, hparse, hbytes⟩ :=
      Record.of_toLine? hidentity hrealm (Token.isHex_of_of? htoken) hline
    refine ⟨[added], ?_, Nat.le_refl 1, List.forall_mem_singleton.2 hbytes⟩
    have hended : Record.parse ∘ Bytes.terminated = Record.parse := funext Record.parse_terminated
    rw [Record.listed, Record.listed, Option.getD_some, kept, Record.lines_survivors_append _ _ _ hsingle,
      List.filterMap_append, List.filterMap_map, hended, hkept, List.filterMap_cons_some hparse,
      List.filterMap_nil]

/-- Whatever calls fail, an execution leaves all records but those of its identity and realm. -/
theorem confined_of_execute {outcome : Except Failure Report} (hsound : s.world.files.Sound)
    (hruns : t.execute.Runs .systemErrors state s tr outcome state' s') :
    Confined t.identity t.realm (s.world.files.contents? t.settings.paths.primary)
      (s'.world.files.contents? t.settings.paths.primary) := by
  obtain ⟨hupdated, hkept⟩ := t.primary_of_execute hsound hruns
  by_cases hcommitted : Committed outcome
  · obtain ⟨_, octets, hresult, hcontents⟩ := hupdated hcommitted
    rw [hcontents]
    exact confined_of_resultIn hresult
  · exact .inl (hkept hcommitted).1

/-- A report is about the identity and the realm of its transaction, and so is the record in it. -/
theorem names_of_execute {report : Report} (hsound : s.world.files.Sound)
    (hruns : t.execute.Runs .systemErrors state s tr (.ok report) state' s') :
    report.identity = t.identity ∧ report.realm = t.realm ∧
      ∀ record, report.record = some record → record.identity = t.identity ∧ record.realm = t.realm := by
  obtain ⟨result, hreports, -⟩ := t.exists_ended_of_runs hsound hruns
  cases hreports with
  | aborted error failedIn => exact ⟨rfl, rfl, fun _ hrecord => by cases hrecord⟩
  | committed written phase =>
    refine ⟨rfl, rfl, fun record hrecord => ?_⟩
    obtain ⟨octets, hresult, -⟩ := t.exists_result_of_committed hsound hruns rfl
    rw [hrecord] at hresult
    by_cases hdelete : t.operation = .delete
    · cases (eq_kept_of_resultIn hdelete hresult).1
    · obtain ⟨_, _, token, _, -, -, -, hwritten, -⟩ := exists_record_of_resultIn hdelete hresult
      cases hwritten
      exact ⟨rfl, rfl⟩

/-- How a transaction does with what it was given for: its identity and its realm are those that were given,
    or defaults where none or the empty text was given, and it is refused for them or acts on them alone. -/
structure Heeds (t : Transaction) (identity realm : Option Text) (s : Scene) (tr : Trace)
    (outcome : Except Failure Report) (s' : Scene) : Prop where
  identity_given : ∀ given, identity = some given → given ≠ [] → t.identity = given
  realm_given : ∀ given, realm = some given → given ≠ [] → t.realm = given
  identity_default : identity = none ∨ identity = some [] → t.identity = t.settings.user
  realm_default : realm = none ∨ realm = some [] → t.realm = t.settings.defaultRealm
  /-- With a separator in a given text, it fails in its first phase, asks nothing and touches no file. -/
  refused : (∃ given c, (identity = some given ∨ realm = some given) ∧ c ∈ given ∧ c ∈ Policy.forbidden) →
    (∃ reason, outcome = .ok (t.aborted .start (.invalid reason))) ∧ tr.prompts = [] ∧
      (∀ e ∈ tr, e.call.faultPoint? = none) ∧ s'.world.files = s.world.files
  /-- The report and the record in it bear the names of the transaction. -/
  reported : ∀ report, outcome = .ok report → report.identity = t.identity ∧ report.realm = t.realm ∧
    ∀ record, report.record = some record → record.identity = t.identity ∧ record.realm = t.realm
  /-- No other record of the store changes. -/
  confined : Confined t.identity t.realm (s.world.files.contents? t.settings.paths.primary)
    (s'.world.files.contents? t.settings.paths.primary)

/-- Whatever calls fail, a transaction acts on what was given for it, or is refused for it. -/
theorem heeds_of_execute (settings : Settings) (operation : Operation) (identity realm : Option Text)
    (source : SecretSource) {outcome : Except Failure Report} (hsound : s.world.files.Sound)
    (hruns : (Transaction.of settings operation identity realm source).execute.Runs .systemErrors state s tr
      outcome state' s') :
    (Transaction.of settings operation identity realm source).Heeds identity realm s tr outcome s' := by
  refine ⟨?_, ?_, ?_, ?_, ?_, ?_, confined_of_execute hsound hruns⟩
  · rintro given rfl hne
    exact orDefault_of_ne_nil hne settings.user
  · rintro given rfl hne
    exact orDefault_of_ne_nil hne settings.defaultRealm
  · rintro (rfl | rfl) <;> rfl
  · rintro (rfl | rfl) <;> rfl
  · rintro ⟨given, c, hgiven, hmem, hc⟩
    have hused : c ∈ (Transaction.of settings operation identity realm source).identity ∨
        c ∈ (Transaction.of settings operation identity realm source).realm := by
      obtain rfl | rfl := hgiven
      · exact .inl (by rwa [Transaction.of, orDefault_of_mem hmem])
      · exact .inr (by rwa [Transaction.of, orDefault_of_mem hmem])
    obtain ⟨reason, hadmitted⟩ := exists_invalid_of_mem hc hused
    have hforeign := hruns.mono fun _ _ _ hstrikes => Strikes.foreign_of_systemErrors hstrikes
    obtain ⟨houtcome, hrest⟩ := of_execute_not_admitted hadmitted hforeign
    exact ⟨⟨reason, houtcome⟩, hrest⟩
  · rintro report rfl
    exact names_of_execute hsound hruns

/-- A caller with all rights whose name is that of a record in the store. -/
def ownSettings : Settings := { sampleChange.settings with privileged := true }

/-- A removal for an identity with a separator, which is otherwise the caller's name. -/
def colonRemoval : Transaction := Transaction.of ownSettings .delete (some (text "al:")) (some []) .script

/-- It is refused for the separator, with the caller's record in the store. -/
theorem colonRemoval_heeds : ∃ tr outcome state' s',
    colonRemoval.execute.Runs .systemErrors {} changeScene tr outcome state' s' ∧
      ∃ reason, outcome = .ok (colonRemoval.aborted .start (.invalid reason)) := by
  obtain ⟨tr, hruns, -⟩ := changeScene.runs_of_run .systemErrors {} colonRemoval.execute rfl
  have hheeds := heeds_of_execute ownSettings .delete (some (text "al:")) (some []) .script
    sound_changeScene hruns
  refine ⟨tr, _, _, _, hruns, (hheeds.refused ⟨text "al:", CodePoint.ofChar ':', .inl rfl, ?_, ?_⟩).1⟩
  · decide
  · decide

/-- A removal for the empty identity is not refused: it removes the record of the caller. -/
theorem emptyIdentity_removes :
    let t := Transaction.of ownSettings .delete (some []) (some (text "sys")) .script
    Committed (changeScene.run {} t.execute).1.1 ∧
      Record.listed (changeScene.world.files.contents? t.settings.paths.primary) =
        [⟨text "al", text "sys", text "8d6008691b8621ea8a303b6dba89d7ba"⟩] ∧
      Record.listed ((changeScene.run {} t.execute).2.world.files.contents? t.settings.paths.primary) = [] := by
  refine ⟨by decide +kernel, by decide +kernel, by decide +kernel⟩

end Transaction

end CredentialStore
