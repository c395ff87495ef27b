import CredentialStore.Proofs.Store.Listing
import CredentialStore.Proofs.Transaction.Atomic
import CredentialStore.Proofs.Transaction.Gathering

namespace CredentialStore

namespace Transaction

/-- The record that the transaction writes in a session: the new token for its identity and realm. -/
def recordIn (t : Transaction) (session : Session) : Option Record := do
  let secrets ← (t.secretsIn session).toOption
  let new ← secrets.new
  let token ← Token.of? t.identity (t.settings.realmForDigest t.realm) new.octets
  pure ⟨t.identity, t.realm, token⟩

/-- What the transaction makes of an ordered map: its key is erased, and it is put at the end with the
    new token unless it is deleted. -/
def onMap (t : Transaction) (session : Session) (map : List Record) : List Record :=
  let others := map.eraseP (·.isFor t.identity t.realm)
  if t.operation = .delete then others else others ++ (t.recordIn session).toList

end Transaction

open Transaction

/-- The result of a transaction on a store that lists records lists what the transaction makes of the
    ordered map. -/
theorem Bytes.Lists.onMap {t : Transaction} {session : Session} {contents : Option Bytes}
    {records : List Record} {written : Option Record} {octets : Bytes}
    (hlists : Lists (contents.getD []) records) (hidentity : t.identity.IsDecoded)
    (hrealm : t.realm.IsDecoded) (hresult : t.resultIn session contents = .ok (written, octets)) :
    Lists octets (t.onMap session records) ∧ (t.operation ≠ .delete →
      ∃ token, t.recordIn session = some ⟨t.identity, t.realm, token⟩) := by
  have hkept : Lists (t.kept contents) (records.eraseP (·.isFor t.identity t.realm)) :=
    hlists.erase t.identity t.realm
  by_cases hdelete : t.operation = .delete
  · refine ⟨?_, fun hwriting => absurd hdelete hwriting⟩
    rw [Transaction.onMap, if_pos hdelete, (eq_kept_of_resultIn hdelete hresult).2]
    exact hkept
  · obtain ⟨secrets, new, token, line, hsecrets, hnew, htoken, rfl, hline, hoctets⟩ :=
      exists_record_of_resultIn hdelete hresult
    have hrecordIn : t.recordIn session = some ⟨t.identity, t.realm, token⟩ := by
      simp only [recordIn, hsecrets, Except.toOption, Option.bind_eq_bind, Option.bind_some, hnew, htoken]
      rfl
    have hwritten := isWritten_of_admitted (of_resultIn_eq_ok hresult).1 hidentity hrealm htoken
    rw [hwritten.toLine?_eq_octets] at hline
    cases hline
    refine ⟨?_, fun _ => ⟨token, hrecordIn⟩⟩
    rw [Transaction.onMap, if_neg hdelete, hrecordIn, hoctets, hkept.terminated_eq]
    exact hkept.append hwritten (Record.notMem_keys_eraseP hlists.distinct)

/-- A transaction that was executed in a session, and what it reported. -/
structure Deed where
  transaction : Transaction
  session : Session
  outcome : Except Failure Report

/-- What a deed makes of an ordered map: nothing, unless it committed. -/
def Deed.onMap (map : List Record) (deed : Deed) : List Record :=
  if Committed deed.outcome then deed.transaction.onMap deed.session map else map

/-- Transactions on one server root that are executed one after the other, with any failures. What they
    are about was read from bytes. -/
inductive History (root : Text) (fs : FileSystem) : List Deed → FileSystem → Prop
  | nil : History root fs [] fs
  | execute {deeds : List Deed} {t : Transaction} {s s' : Scene} {tr : Trace}
      {outcome : Except Failure Report} {progress : Progress}
      (hhistory : History root fs deeds s.world.files) (hroot : t.settings.serverRoot = root)
      (hidentity : t.identity.IsDecoded) (hrealm : t.realm.IsDecoded)
      (hruns : (t.execute {}).Runs .systemErrors s tr (outcome, progress) s') :
      History root fs (deeds ++ [⟨t, s.session, outcome⟩]) s'.world.files

/-- The octets of a store refine an ordered map: their lines are its entries in order, each of them
    ended, for different keys and with a well-formed token. -/
structure Refines (octets : Bytes) (map : List Record) : Prop where
  lines : ∀ line ∈ Bytes.lines octets,
    line.getLast? = some Rewrite.lineFeed ∧ (Record.parse line).isSome
  distinct : (map.map Record.key).Nodup
  tokens : ∀ record ∈ map, Token.IsHex record.token
  records : (Bytes.lines octets).filterMap Record.parse = map

theorem Bytes.Lists.refines {octets : Bytes} {map : List Record} (hlists : Lists octets map) :
    Refines octets map where
  lines _ hline := hlists.of_mem_lines hline
  distinct := hlists.distinct
  tokens r hr := (hlists.written r hr).token
  records := hlists.filterMap_parse

/-- One executed transaction keeps the store a list of records. -/
theorem Bytes.Lists.execute {t : Transaction} {s s' : Scene} {tr : Trace}
    {outcome : Except Failure Report} {progress : Progress} {records : List Record}
    (hsound : s.world.files.Sound) (hidentity : t.identity.IsDecoded) (hrealm : t.realm.IsDecoded)
    (hruns : (t.execute {}).Runs .systemErrors s tr (outcome, progress) s')
    (hlists : Lists ((s.world.files.contents? t.settings.paths.primary).getD []) records) :
    Lists ((s'.world.files.contents? t.settings.paths.primary).getD [])
        (Deed.onMap records ⟨t, s.session, outcome⟩) ∧
      (Committed outcome → t.operation ≠ .delete →
        ∃ token, t.recordIn s.session = some ⟨t.identity, t.realm, token⟩) := by
  obtain ⟨hupdated, hkept⟩ := t.primary_of_execute hsound hruns
  rw [Deed.onMap]
  by_cases hcommitted : Committed outcome
  · obtain ⟨written, octets, hresult, hcontents⟩ := hupdated hcommitted
    obtain ⟨hafter, hrecordIn⟩ := hlists.onMap hidentity hrealm hresult
    rw [if_pos hcommitted, hcontents, Option.getD_some]
    exact ⟨hafter, fun _ => hrecordIn⟩
  · obtain ⟨hcontents, -⟩ := hkept hcommitted
    rw [if_neg hcommitted, hcontents]
    exact ⟨hlists, fun h => absurd h hcommitted⟩

/-- After any history that started without a store, the store refines the ordered map that the committed
    transactions have made, and each of them that was to write a record had one to write. -/
theorem refines_of_history {root : Text} {fs fs' : FileSystem} {deeds : List Deed} (hsound : fs.Sound)
    (habsent : fs.contents? (StorePaths.locate root).primary = none)
    (hhistory : History root fs deeds fs') :
    Refines ((fs'.contents? (StorePaths.locate root).primary).getD []) (deeds.foldl Deed.onMap []) ∧
      ∀ deed ∈ deeds, Committed deed.outcome → deed.transaction.operation ≠ .delete →
        ∃ token, deed.transaction.recordIn deed.session =
          some ⟨deed.transaction.identity, deed.transaction.realm, token⟩ := by
  -- The files stay sound and the store goes on listing records, whatever each transaction meets.
  have hinvariant : fs'.Sound ∧ Bytes.Lists
      ((fs'.contents? (StorePaths.locate root).primary).getD []) (deeds.foldl Deed.onMap []) ∧
      ∀ deed ∈ deeds, Committed deed.outcome → deed.transaction.operation ≠ .delete →
        ∃ token, deed.transaction.recordIn deed.session =
          some ⟨deed.transaction.identity, deed.transaction.realm, token⟩ := by
    induction hhistory with
    | nil =>
      rw [habsent]
      exact ⟨hsound, Bytes.Lists.nil, by simp⟩
    | @execute deeds t s s' tr outcome progress hhistory hroot hidentity hrealm hruns ih =>
      obtain ⟨hsound₁, hlists, hrecords⟩ := ih
      have hpaths : t.settings.paths = StorePaths.locate root := congrArg StorePaths.locate hroot
      rw [← hpaths] at hlists ⊢
      obtain ⟨hafter, hrecord⟩ := hlists.execute hsound₁ hidentity hrealm hruns
      refine ⟨t.sound_of_execute hsound₁ hruns, ?_, fun deed hdeed => ?_⟩
      · rw [List.foldl_append, List.foldl_cons, List.foldl_nil]
        exact hafter
      · rcases List.mem_append.1 hdeed with hdeed | hdeed
        · exact hrecords deed hdeed
        · rw [List.mem_singleton.1 hdeed]
          exact hrecord
  exact ⟨hinvariant.2.1.refines, hinvariant.2.2⟩

/-- An addition by a privileged caller. -/
def sampleAddition : Transaction := { sampleRemoval with operation := .add }

/-- A directory without a store, and the answers to two prompts. -/
def emptyScene : Scene where
  world := { files := { entries := [([[0x73, 0x72, 0x76]], .directory)], files := [], umask := 0o22 } }
  session := { script := [some (text "secret1"), some (text "secret1")] }

theorem sound_emptyScene : emptyScene.world.files.Sound := by
  refine FileSystem.Sound.of_entries (fun there id hmem => ?_) (by decide)
  simp [emptyScene] at hmem

/-- The addition commits in the directory, and the store that it makes refines the ordered map. -/
theorem sampleAddition_refines : ∃ deeds fs',
    History (text "/srv") emptyScene.world.files deeds fs' ∧
      (∃ deed ∈ deeds, Committed deed.outcome) ∧
      Refines ((fs'.contents? (StorePaths.locate (text "/srv")).primary).getD [])
        (deeds.foldl Deed.onMap []) := by
  obtain ⟨tr, hruns, -⟩ := emptyScene.runs_of_run .systemErrors {} sampleAddition.execute rfl
  have hcommitted : Committed (emptyScene.run {} sampleAddition.execute).1.1 := by decide +kernel
  generalize emptyScene.run {} sampleAddition.execute = result at hruns hcommitted
  obtain ⟨⟨outcome, progress⟩, s'⟩ := result
  have hidentity : sampleAddition.identity.IsDecoded := ⟨[0x61, 0x6C], rfl⟩
  have hrealm : sampleAddition.realm.IsDecoded := ⟨[0x73, 0x79, 0x73], rfl⟩
  have hhistory : History (text "/srv") emptyScene.world.files
      [⟨sampleAddition, emptyScene.session, outcome⟩] s'.world.files :=
    .execute .nil rfl hidentity hrealm hruns
  refine ⟨_, _, hhistory, ⟨_, List.mem_singleton_self _, hcommitted⟩, ?_⟩
  exact (refines_of_history sound_emptyScene rfl hhistory).1

end CredentialStore
