import CredentialStore.Proofs.Store.Extending
import CredentialStore.Proofs.Text.Decoded
import CredentialStore.Proofs.Transaction.Exact
import CredentialStore.Proofs.Transaction.History
import CredentialStore.Proofs.Transaction.Undisturbed

namespace CredentialStore.Transaction

open FileSystem StorePaths

variable {t u : Transaction} {session session' : Session} {secrets : Secrets}
  {contents contents' : Option Bytes}

theorem map_fst_effect (hfound : t.found contents = t.found contents') :
    (t.effect secrets contents).map Prod.fst = (t.effect secrets contents').map Prod.fst := by
  cases hcheck : t.checkMatched secrets (t.found contents') with
  | error failure =>
    simp only [effect, hfound, hcheck]
    rfl
  | ok _ =>
    cases hrecord : t.newRecord secrets with
    | error failure =>
      simp only [effect, hfound, hcheck, hrecord]
      rfl
    | ok record =>
      cases record with
      | none =>
        simp only [effect, hfound, hcheck, hrecord]
        rfl
      | some record =>
        rw [effect_of_newRecord (hfound ▸ hcheck) hrecord, effect_of_newRecord hcheck hrecord]
        cases record.toLine? <;> rfl

/-- A store matters to what is written by the record that is found in it. -/
theorem map_fst_resultIn (session : Session) (hfound : t.found contents = t.found contents') :
    (t.resultIn session contents).map Prod.fst = (t.resultIn session contents').map Prod.fst := by
  rw [resultIn_eq_bind, resultIn_eq_bind]
  cases t.grantedIn session with
  | error failure => rfl
  | ok secrets => exact map_fst_effect hfound

theorem reportIn_eq (session : Session) (hfound : t.found contents = t.found contents') :
    t.reportIn session contents = t.reportIn session contents' := by
  have hresult := map_fst_resultIn session hfound
  have hphase : t.phaseIn session contents = t.phaseIn session contents' := by
    rw [phaseIn, phaseIn]
    cases t.grantedIn session with
    | error failure => rfl
    | ok secrets =>
      revert hresult
      cases t.resultIn session contents <;> cases t.resultIn session contents' <;> simp [Except.map]
  rw [reportIn, reportIn, hresult, hphase]

theorem exists_result_of_found {written : Option Record} {octets : Bytes}
    (hfound : t.found contents = t.found contents')
    (hresult : t.resultIn session contents = .ok (written, octets)) :
    ∃ octets', t.resultIn session contents' = .ok (written, octets') := by
  have hsame := map_fst_resultIn session hfound
  rw [hresult] at hsame
  cases hresult' : t.resultIn session contents' with
  | error failure =>
    rw [hresult'] at hsame
    cases hsame
  | ok result =>
    rw [hresult'] at hsame
    have hwritten : written = result.1 := Except.ok.inj hsame
    exact ⟨result.2, by rw [hwritten]⟩

/-- What a transaction adds to a store: nothing where it deletes, and otherwise a record of its key. -/
structure Adds (t : Transaction) (written : Option Record) : Prop where
  isSome_iff : written.isSome ↔ t.operation ≠ .delete
  isWritten : ∀ r, written = some r → r.IsWritten
  key : ∀ r, written = some r → r.key = (t.identity, t.realm)

theorem Adds.key_ne {written : Option Record} (hadds : t.Adds written)
    (hkeys : (t.identity, t.realm) ≠ (u.identity, u.realm)) :
    ∀ r, written = some r → r.key ≠ (u.identity, u.realm) := by
  intro r hr
  rw [hadds.key r hr]
  exact hkeys

/-- The result of a transaction, line by line. -/
theorem adds_of_resultIn {written : Option Record} {octets : Bytes} (hidentity : t.identity.IsDecoded)
    (hrealm : t.realm.IsDecoded) (hresult : t.resultIn session contents = .ok (written, octets)) :
    t.Adds written ∧ octets = ((contents.getD []).without t.identity t.realm).extended
      (written.map Record.octets) := by
  by_cases hdelete : t.operation = .delete
  · obtain ⟨rfl, hoctets⟩ := eq_kept_of_resultIn hdelete hresult
    refine ⟨⟨by simp [hdelete], ?_, ?_⟩, hoctets⟩
    · rintro r ⟨⟩
    · rintro r ⟨⟩
  · obtain ⟨_, _, token, line, -, -, htoken, rfl, hline, hoctets⟩ :=
      exists_record_of_resultIn hdelete hresult
    have hwritten := isWritten_of_admitted (of_resultIn_eq_ok hresult).1 hidentity hrealm htoken
    rw [hwritten.toLine?_eq_octets] at hline
    cases hline
    refine ⟨⟨by simp [hdelete], ?_, ?_⟩, hoctets⟩
    · rintro r ⟨⟩
      exact hwritten
    · rintro r ⟨⟩
      rfl

/-- A transaction with a script for its prompts, about texts: its identity has no surrogate, its realm was
    read from bytes, and the realm of its messages has bytes. No call fails. -/
structure Scripted (t : Transaction) (session : Session) : Prop where
  source : t.source = .script
  identity : ∀ c ∈ t.identity, c.isSurrogate = false
  realm : t.realm.IsDecoded
  digestRealm : ∀ realm, t.settings.digestRealm = some realm → ∃ b, realm.toBytes? = some b
  calm : session.faults = []

namespace Scripted

variable (hscripted : t.Scripted session)

include hscripted

theorem isDecoded_identity : t.identity.IsDecoded := by
  obtain ⟨name, hname⟩ := Text.exists_toUtf8? hscripted.identity
  exact Text.isDecoded_of_toUtf8? hname

theorem adds {written : Option Record} {octets : Bytes}
    (hresult : t.resultIn session contents = .ok (written, octets)) :
    t.Adds written ∧ octets = ((contents.getD []).without t.identity t.realm).extended
      (written.map Record.octets) :=
  adds_of_resultIn hscripted.isDecoded_identity hscripted.realm hresult

/-- What keeps such a transaction from its result is an error of the store. -/
theorem exists_error {failure : Failure} (hresult : t.resultIn session contents = .error failure) :
    ∃ error, failure = .credential error := by
  cases hgranted : t.grantedIn session with
  | error failure' =>
    obtain ⟨name, hname⟩ := Text.exists_toUtf8? hscripted.identity
    rw [resultIn_of_grantedIn hgranted] at hresult
    cases hresult
    exact exists_error_of_grantedIn hscripted.source hname hgranted
  | ok secrets =>
    obtain ⟨hadmitted, hsecrets⟩ := of_grantedIn_eq_ok hgranted
    have hprepared : t.Prepared session secrets :=
      ⟨hadmitted, hsecrets, hscripted.realm.exists_toBytes?, hscripted.digestRealm⟩
    rw [hprepared.resultIn_eq] at hresult
    by_cases hrecord : t.LacksRecord contents
    · simp only [effect, checkMatched_of_lacksRecord hrecord] at hresult
      cases hresult
      exact ⟨_, rfl⟩
    · by_cases hsecret : t.LacksSecret secrets contents
      · simp only [effect, hprepared.checkMatched_of_lacksSecret hsecret] at hresult
        cases hresult
        exact ⟨_, rfl⟩
      · obtain ⟨_, _, heffect, -⟩ :=
          hprepared.exists_effect (hprepared.checkMatched_of_complete hrecord hsecret)
        cases heffect.symm.trans hresult

theorem exists_report (contents : Option Bytes) : ∃ report, t.reportIn session contents = .ok report := by
  rw [reportIn]
  cases hresult : t.resultIn session contents with
  | ok result => exact ⟨_, rfl⟩
  | error failure =>
    obtain ⟨error, rfl⟩ := hscripted.exists_error hresult
    exact ⟨_, rfl⟩

/-- A transaction leaves what another key finds. -/
theorem found_updateIn (hkeys : (t.identity, t.realm) ≠ (u.identity, u.realm))
    (contents : Option Bytes) : u.found (t.updateIn session contents) = u.found contents := by
  cases hresult : t.resultIn session contents with
  | error failure => rw [updateIn, hresult]
  | ok result =>
    obtain ⟨written, octets⟩ := result
    obtain ⟨hadds, rfl⟩ := hscripted.adds hresult
    rw [updateIn_of_ok hresult]
    exact Record.firstFor?_extended hadds.isWritten (hadds.key_ne hkeys) hkeys.symm _

end Scripted

/-- The store after two transactions of different keys: what is left without either record, and the lines
    that they add in order. -/
theorem updateIn_updateIn {written written' : Option Record} {octets octets' : Bytes}
    (ht : t.Scripted session) (hu : u.Scripted session')
    (hkeys : (t.identity, t.realm) ≠ (u.identity, u.realm))
    (hresult : t.resultIn session contents = .ok (written, octets))
    (hresult' : u.resultIn session' contents = .ok (written', octets')) :
    u.updateIn session' (t.updateIn session contents) =
      some (((((contents.getD []).without t.identity t.realm).without u.identity u.realm).extended
        (written.map Record.octets)).extended (written'.map Record.octets)) := by
  obtain ⟨later, hlater⟩ := exists_result_of_found (ht.found_updateIn hkeys contents).symm hresult'
  obtain ⟨hadds, hoctets⟩ := ht.adds hresult
  obtain ⟨-, hafter⟩ := hu.adds hlater
  rw [updateIn_of_ok hlater, hafter, updateIn_of_ok hresult, Option.getD_some, hoctets,
    Record.without_extended hadds.isWritten (hadds.key_ne hkeys)]

/-- Whether a transaction that reports so wrote a record: it committed an addition or a change. -/
def Writes (t : Transaction) (report : Report) : Prop := report.isCommitted = true ∧ t.operation ≠ .delete

/-- How the stores compare that two transactions leave in either order. They are the same, unless both
    wrote a record: then they are the same up to the lines of the two records at their ends, which stand in
    the order of writing. -/
structure Swapped (t u : Transaction) (report report' : Report) (after after' : Option Bytes) : Prop where
  same : ¬(t.Writes report ∧ u.Writes report') → after = after'
  swapped : t.Writes report → u.Writes report' → ∃ front record record' line line',
    report.record = some record ∧ report'.record = some record' ∧ record.toLine? = some line ∧
      record'.toLine? = some line' ∧ Bytes.endsOpen front = false ∧
      after = some (front ++ line ++ line') ∧ after' = some (front ++ line' ++ line)

theorem updateIn_of_error {failure : Failure} (hfound : t.found contents = t.found contents')
    (hresult : t.resultIn session contents = .error failure) :
    t.updateIn session contents' = contents' := by
  cases hresult' : t.resultIn session contents' with
  | error failure' => rw [updateIn, hresult']
  | ok result =>
    obtain ⟨_, hok⟩ := exists_result_of_found hfound.symm hresult'
    cases hok.symm.trans hresult

theorem not_writes_of_error {failure : Failure} {report : Report}
    (hreport : t.reportIn session contents = .ok report)
    (hresult : t.resultIn session contents = .error failure) : ¬t.Writes report := by
  rintro ⟨hcommitted, -⟩
  obtain ⟨_, hok⟩ := committed_reportIn_iff.1 ⟨report, hreport, hcommitted⟩
  cases hok.symm.trans hresult

theorem record_eq_of_result {written : Option Record} {octets : Bytes} {report : Report}
    (hreport : t.reportIn session contents = .ok report)
    (hresult : t.resultIn session contents = .ok (written, octets)) :
    report.isCommitted = true ∧ report.record = written := by
  rw [reportIn, hresult] at hreport
  cases hreport
  exact ⟨rfl, rfl⟩

/-- What is written is told by the report. -/
theorem Adds.writes_iff {written : Option Record} {report : Report} (hadds : t.Adds written)
    (hcommitted : report.isCommitted = true) : t.Writes report ↔ written.isSome :=
  ⟨fun hwrites => hadds.isSome_iff.2 hwrites.2, fun hsome => ⟨hcommitted, hadds.isSome_iff.1 hsome⟩⟩

/-- What is left of a store, with what two transactions add to it in either order. -/
theorem swapped_of_adds {written written' : Option Record} {report report' : Report} (hadds : t.Adds written)
    (hadds' : u.Adds written') (hreport : report.isCommitted = true ∧ report.record = written)
    (hreport' : report'.isCommitted = true ∧ report'.record = written') (rest : Bytes) :
    Swapped t u report report'
      (some ((rest.extended (written.map Record.octets)).extended (written'.map Record.octets)))
      (some ((rest.extended (written'.map Record.octets)).extended (written.map Record.octets))) := by
  have hwrites := hadds.writes_iff hreport.1
  have hwrites' := hadds'.writes_iff hreport'.1
  refine ⟨fun hnot => ?_, fun hboth hboth' => ?_⟩
  · have hone : written.map Record.octets = none ∨ written'.map Record.octets = none := by
      cases written with
      | none => exact .inl rfl
      | some record =>
        cases written' with
        | none => exact .inr rfl
        | some record' => exact absurd ⟨hwrites.2 rfl, hwrites'.2 rfl⟩ hnot
    rw [Bytes.extended_comm rest hone]
  · obtain ⟨record, rfl⟩ := Option.isSome_iff_exists.1 (hwrites.1 hboth)
    obtain ⟨record', rfl⟩ := Option.isSome_iff_exists.1 (hwrites'.1 hboth')
    have hwritten := hadds.isWritten record rfl
    have hwritten' := hadds'.isWritten record' rfl
    refine ⟨rest.terminated, record, record', record.octets, record'.octets, hreport.2, hreport'.2,
      hwritten.toLine?_eq_octets, hwritten'.toLine?_eq_octets, Bytes.endsOpen_terminated rest, ?_, ?_⟩
    · rw [Option.map_some, Option.map_some,
        Bytes.extended_extended rest hwritten.octets_ne_nil hwritten.octets_spec.2.1]
    · rw [Option.map_some, Option.map_some,
        Bytes.extended_extended rest hwritten'.octets_ne_nil hwritten'.octets_spec.2.1]

/-- The updates of different keys, in either order. -/
theorem swapped_updateIn {report report' : Report} (ht : t.Scripted session) (hu : u.Scripted session')
    (hkeys : (t.identity, t.realm) ≠ (u.identity, u.realm))
    (hreport : t.reportIn session contents = .ok report)
    (hreport' : u.reportIn session' contents = .ok report') :
    Swapped t u report report' (u.updateIn session' (t.updateIn session contents))
      (t.updateIn session (u.updateIn session' contents)) := by
  have hfound := (hu.found_updateIn hkeys.symm contents).symm
  have hfound' := (ht.found_updateIn hkeys contents).symm
  cases hresult : t.resultIn session contents with
  | error failure =>
    have hidle := not_writes_of_error hreport hresult
    refine ⟨fun _ => ?_, fun hwrites => absurd hwrites hidle⟩
    rw [updateIn_of_error rfl hresult, updateIn_of_error hfound hresult]
  | ok result =>
    cases hresult' : u.resultIn session' contents with
    | error failure =>
      have hidle := not_writes_of_error hreport' hresult'
      refine ⟨fun _ => ?_, fun _ hwrites => absurd hwrites hidle⟩
      rw [updateIn_of_error rfl hresult', updateIn_of_error hfound' hresult']
    | ok result' =>
      rw [updateIn_updateIn ht hu hkeys hresult hresult', updateIn_updateIn hu ht hkeys.symm hresult' hresult,
        Record.without_comm hkeys]
      exact swapped_of_adds (ht.adds hresult).1 (hu.adds hresult').1 (record_eq_of_result hreport hresult)
        (record_eq_of_result hreport' hresult') _

/-- A transaction executed in a world with a session of its own: what it reports, and the world after it. -/
def executeIn (t : Transaction) (session : Session) (w : World) : Except Failure Report × World :=
  ((Scene.run ⟨w, session⟩ {} t.execute).1.1, (Scene.run ⟨w, session⟩ {} t.execute).2.world)

/-- The octets of the primary file in a world, if there is one. -/
def primaryIn (t : Transaction) (w : World) : Option Bytes :=
  w.files.contents? t.settings.paths.primary

variable {w : World} {directory : Location}

/-- Two executions of transactions of different keys, one after the other: each reports what it would have
    reported alone, and the primary file is updated by both. -/
theorem executeIn_executeIn (ht : t.Scripted session) (hu : u.Scripted session')
    (hkeys : (t.identity, t.realm) ≠ (u.identity, u.realm))
    (hroot : u.settings.serverRoot = t.settings.serverRoot) (hsound : w.files.Sound)
    (hready : t.settings.paths.Ready directory w.files) :
    (t.executeIn session w).1 = t.reportIn session (t.primaryIn w) ∧
      (u.executeIn session' (t.executeIn session w).2).1 = u.reportIn session' (t.primaryIn w) ∧
      t.primaryIn (u.executeIn session' (t.executeIn session w).2).2 =
        u.updateIn session' (t.updateIn session (t.primaryIn w)) := by
  have hpaths : u.settings.paths = t.settings.paths := congrArg StorePaths.locate hroot
  have hfirst := t.settled_of_ready (s := ⟨w, session⟩) {} hsound hready ht.calm
  have hsecond := u.settled_of_ready (s := ⟨(t.executeIn session w).2, session'⟩) {} hfirst.sound
    (hpaths ▸ hfirst.ready) hu.calm
  have hbetween : t.primaryIn (t.executeIn session w).2 = t.updateIn session (t.primaryIn w) :=
    hfirst.updated
  have hreported := hsecond.reported
  have hupdated := hsecond.updated
  rw [hpaths] at hreported hupdated
  refine ⟨hfirst.reported, ?_, ?_⟩
  · rw [← u.reportIn_eq session' (ht.found_updateIn hkeys _), ← hbetween]
    exact hreported
  · rw [← hbetween]
    exact hupdated

/-- Transactions on different keys, each with its own settings and its own script, report the same in
    either order, and leave the same store up to the order of the lines that they add. -/
theorem execute_comm (t u : Transaction) (hsound : w.files.Sound)
    (hready : t.settings.paths.Ready directory w.files)
    (hroot : u.settings.serverRoot = t.settings.serverRoot) (ht : t.Scripted session)
    (hu : u.Scripted session') (hkeys : (t.identity, t.realm) ≠ (u.identity, u.realm)) :
    ∃ report report',
      (t.executeIn session w).1 = .ok report ∧
      (u.executeIn session' (t.executeIn session w).2).1 = .ok report' ∧
      (u.executeIn session' w).1 = .ok report' ∧
      (t.executeIn session (u.executeIn session' w).2).1 = .ok report ∧
      Swapped t u report report' (t.primaryIn (u.executeIn session' (t.executeIn session w).2).2)
        (t.primaryIn (t.executeIn session (u.executeIn session' w).2).2) := by
  have hpaths : u.settings.paths = t.settings.paths := congrArg StorePaths.locate hroot
  have hprimary : u.primaryIn = t.primaryIn := by
    funext w
    rw [primaryIn, primaryIn, hpaths]
  obtain ⟨report, hreport⟩ := ht.exists_report (t.primaryIn w)
  obtain ⟨report', hreport'⟩ := hu.exists_report (t.primaryIn w)
  obtain ⟨hfirst, hsecond, hafter⟩ := executeIn_executeIn ht hu hkeys hroot hsound hready
  obtain ⟨hfirst', hsecond', hafter'⟩ :=
    executeIn_executeIn hu ht hkeys.symm hroot.symm hsound (hpaths ▸ hready)
  rw [hprimary] at hfirst' hsecond' hafter'
  refine ⟨report, report', hfirst.trans hreport, hsecond.trans hreport', hfirst'.trans hreport',
    hsecond'.trans hreport, ?_⟩
  rw [hafter, hafter']
  exact swapped_updateIn ht hu hkeys hreport hreport'

/-- An addition for someone else. -/
def otherAddition : Transaction := { sampleAddition with identity := text "bo" }

theorem ready_emptyScene : sampleAddition.settings.paths.Ready [[0x73, 0x72, 0x76]]
    emptyScene.world.files :=
  ⟨⟨rfl, rfl, rfl, rfl⟩, rfl, not_or.2 ⟨by decide, by decide⟩⟩

theorem scripted_sampleAddition : sampleAddition.Scripted emptyScene.session := by
  refine ⟨rfl, fun _ => isSurrogate_eq_false_of_mem_text, ⟨[0x73, 0x79, 0x73], rfl⟩, ?_, rfl⟩
  rintro realm ⟨⟩

theorem scripted_otherAddition : otherAddition.Scripted emptyScene.session :=
  ⟨rfl, fun _ => isSurrogate_eq_false_of_mem_text, scripted_sampleAddition.realm, scripted_sampleAddition.digestRealm, rfl⟩

/-- The two additions both write, and commute. -/
theorem sampleAdditions_comm : ∃ report report',
    (sampleAddition.executeIn emptyScene.session emptyScene.world).1 = .ok report ∧
      (otherAddition.executeIn emptyScene.session
        (sampleAddition.executeIn emptyScene.session emptyScene.world).2).1 = .ok report' ∧
      (otherAddition.executeIn emptyScene.session emptyScene.world).1 = .ok report' ∧
      (sampleAddition.executeIn emptyScene.session
        (otherAddition.executeIn emptyScene.session emptyScene.world).2).1 = .ok report ∧
      Swapped sampleAddition otherAddition report report'
        (sampleAddition.primaryIn (otherAddition.executeIn emptyScene.session
          (sampleAddition.executeIn emptyScene.session emptyScene.world).2).2)
        (sampleAddition.primaryIn (sampleAddition.executeIn emptyScene.session
          (otherAddition.executeIn emptyScene.session emptyScene.world).2).2) ∧
      sampleAddition.Writes report ∧ otherAddition.Writes report' := by
  obtain ⟨report, report', hreport, hlater, hreport', hlater', hswapped⟩ :=
    execute_comm sampleAddition otherAddition sound_emptyScene ready_emptyScene rfl
      scripted_sampleAddition scripted_otherAddition (by decide)
  have hcommitted : Committed (sampleAddition.executeIn emptyScene.session emptyScene.world).1 := by
    decide +kernel
  have hcommitted' : Committed (otherAddition.executeIn emptyScene.session emptyScene.world).1 := by
    decide +kernel
  refine ⟨report, report', hreport, hlater, hreport', hlater', hswapped, ⟨?_, by decide⟩, ⟨?_, by decide⟩⟩
  · obtain ⟨_, hsame, hyes⟩ := hcommitted
    cases hreport.symm.trans hsame
    exact hyes
  · obtain ⟨_, hsame, hyes⟩ := hcommitted'
    cases hreport'.symm.trans hsame
    exact hyes

end CredentialStore.Transaction
