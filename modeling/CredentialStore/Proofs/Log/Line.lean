import CredentialStore.Log.Line
import CredentialStore.Proofs.Log.Fields
import CredentialStore.Proofs.Log.RoundTrip

namespace CredentialStore.Log

open Json

theorem Json.IsPrintable.isProper {t : Text} (hprintable : IsPrintable t) : t.IsProper := by
  intro c hc
  obtain ⟨-, hhigh⟩ := hprintable c hc
  simp only [CodePoint.isSurrogate, Bool.and_eq_false_iff, decide_eq_false_iff_not]
  omega

namespace Timestamp

/-- Whether the year of a time, counted from 1900 and from 0, fits into 32 bits. -/
def IsShown (seconds : Int) : Prop :=
  1900 - 0x80000000 ≤ (Date.ofDays (seconds / secondsOfDay)).year ∧
    (Date.ofDays (seconds / secondsOfDay)).year < 0x80000000

instance (seconds : Int) : Decidable (IsShown seconds) := inferInstanceAs (Decidable (_ ∧ _))

/-- A year lies in its cycle of four hundred. -/
theorem year_ofDays (days : Int) :
    400 * ((days + Date.daysToEpoch) / Date.daysOfCycle) ≤ (Date.ofDays days).year ∧
      (Date.ofDays days).year ≤ 400 * ((days + Date.daysToEpoch) / Date.daysOfCycle) + 401 := by
  have hday : ((days + Date.daysToEpoch) % Date.daysOfCycle).toNat < 146097 := by
    unfold Date.daysOfCycle
    omega
  have hyear : Date.yearOfCycle ((days + Date.daysToEpoch) % Date.daysOfCycle).toNat ≤ 400 := by
    unfold Date.yearOfCycle
    omega
  simp only [Date.ofDays]
  split <;> omega

/-- A clock of 64 bits shows every time whose year can be shown. -/
theorem IsShown.bounds {seconds : Int} (hshown : IsShown seconds) :
    -0x8000000000000000 ≤ seconds ∧ seconds < 0x8000000000000000 := by
  obtain ⟨hlow, hhigh⟩ := year_ofDays (seconds / secondsOfDay)
  unfold Date.daysToEpoch Date.daysOfCycle at hlow hhigh
  obtain ⟨hfirst, hlast⟩ := hshown
  have hdays : seconds / secondsOfDay * secondsOfDay ≤ seconds ∧
      seconds < (seconds / secondsOfDay + 1) * secondsOfDay := by
    unfold secondsOfDay
    omega
  generalize seconds / secondsOfDay = days at *
  unfold secondsOfDay at hdays
  omega

/-- A time has a timestamp exactly where its year can be shown. -/
theorem ofSeconds_cases (seconds : Int) :
    IsShown seconds ∧ ofSeconds seconds = .ok (render seconds) ∨
      ¬IsShown seconds ∧ ∃ problem, ofSeconds seconds = .error problem := by
  by_cases hshown : IsShown seconds
  · obtain ⟨hlow, hhigh⟩ := hshown.bounds
    obtain ⟨hfirst, hlast⟩ := hshown
    refine .inl ⟨⟨hfirst, hlast⟩, ?_⟩
    simp only [ofSeconds]
    rw [if_neg (by omega), if_neg (by omega), if_neg (by omega)]
    rfl
  · refine .inr ⟨hshown, ?_⟩
    simp only [ofSeconds]
    split
    · exact ⟨_, rfl⟩
    split
    · exact ⟨_, rfl⟩
    split
    · exact ⟨_, rfl⟩
    · exact absurd ⟨by omega, by omega⟩ hshown

theorem isPrintable_decimalPadded (width n : Nat) : IsPrintable (Text.decimalPadded width n) := by
  have hdigits : IsPrintable (text "0123456789") := isPrintable_of_all (by decide)
  refine isPrintable_append.2 ⟨fun c hc => ?_, hdigits.of_subset fun c hc => mem_decimal hc⟩
  rw [List.eq_of_mem_replicate hc]
  decide

theorem isPrintable_render (seconds : Int) : IsPrintable (render seconds) := by
  have hdash : IsPrintable (text "-") := isPrintable_of_all (by decide)
  have hletter : IsPrintable (text "T") := isPrintable_of_all (by decide)
  have hcolon : IsPrintable (text ":") := isPrintable_of_all (by decide)
  have hend : IsPrintable (text "Z") := isPrintable_of_all (by decide)
  simp only [render, isPrintable_append, isPrintable_signedDecimal, isPrintable_decimalPadded, hdash, hletter,
    hcolon, hend, and_self]

end Timestamp

theorem Level.isPrintable_name (level : Level) : IsPrintable level.name := by
  have hall : names.all (fun entry => entry.2.all fun c => 0x20 ≤ c.val ∧ c.val ≤ 0x7E) = true := by decide
  rw [name]
  cases hlookup : names.lookup level with
  | none =>
    exact isPrintable_append.2 ⟨isPrintable_of_all (by decide), isPrintable_signedDecimal level⟩
  | some t =>
    obtain ⟨front, back, heq, -⟩ := List.lookup_eq_some_iff.1 hlookup
    have hmem : (level, t) ∈ names := by rw [heq]; simp
    exact isPrintable_of_all (List.all_eq_true.1 hall _ hmem)

namespace Line

theorem mem_baseName {path : Text} {c : CodePoint} (hc : c ∈ baseName path) : c ∈ path := by
  rw [baseName, List.mem_reverse] at hc
  exact List.mem_reverse.1 ((List.takeWhile_sublist _).subset hc)

theorem mem_withoutExtension {name : Text} {c : CodePoint} (hc : c ∈ withoutExtension name) : c ∈ name := by
  unfold withoutExtension at hc
  simp only at hc
  split at hc
  · exact hc
  · rename_i dot stem hstem
    obtain hdots | hstemmed := List.mem_append.1 hc
    · exact (List.takeWhile_sublist _).subset hdots
    · have hrest := (List.dropWhile_sublist (· ≠ CodePoint.ofChar '.')).subset
        (hstem ▸ List.mem_cons_of_mem dot (List.mem_reverse.1 hstemmed))
      exact List.mem_of_mem_drop (List.mem_reverse.1 hrest)

/-- A record whose texts have no surrogates. -/
structure IsProper (line : Line) : Prop where
  logger : line.logger.IsProper
  message : line.message.IsProper
  file : line.file.IsProper
  function : ∀ t, line.function = some t → t.IsProper
  transaction : line.transaction.IsProper
  exception : ∀ e, line.exception = some e → e.kind.IsProper ∧ e.description.IsProper
  names : ∀ f ∈ line.extra, Text.IsProper f.1
  values : ∀ f ∈ line.extra, f.2.IsProper

variable {line : Line}

/-- The names of the fields that every record has, and of those that are there with a transaction and with an
    exception. -/
theorem names_ownFields (line : Line) (timestamp : Text) : Fields.names (line.ownFields timestamp) =
    ["timestamp", "level", "logger", "message", "module", "function", "line"].map text ++
      (if line.transaction = [] then [] else [text "transaction_id"]) ++
      (if line.exception = none then [] else [text "exception"]) := by
  rw [Fields.names, ownFields]
  cases line.transaction <;> cases line.exception <;> rfl

theorem nodup_ownFields (line : Line) (timestamp : Text) : (Fields.names (line.ownFields timestamp)).Nodup := by
  have hall : (["timestamp", "level", "logger", "message", "module", "function", "line"].map text ++
      [text "transaction_id"] ++ [text "exception"]).Nodup := by decide
  rw [names_ownFields]
  refine hall.sublist (((List.Sublist.refl _).append ?_).append ?_)
  · split
    · exact List.nil_sublist _
    · exact List.Sublist.refl _
  · split
    · exact List.nil_sublist _
    · exact List.Sublist.refl _

theorem isProper_text (s : String) : (text s).IsProper := fun _ => isSurrogate_eq_false_of_mem_text

/-- The fields that every record has are proper where its texts are. -/
theorem IsProper.ownFields (hproper : line.IsProper) {timestamp : Text} (htimestamp : timestamp.IsProper) :
    ∀ f ∈ line.ownFields timestamp, Text.IsProper f.1 ∧ f.2.IsProper := by
  have hmodule : (withoutExtension (baseName line.file)).IsProper := fun c hc =>
    hproper.file c (mem_baseName (mem_withoutExtension hc))
  have hfunction : ((line.function.map Value.string).getD .null).IsProper := by
    cases hfunction : line.function with
    | none => exact .null
    | some t => exact .string (hproper.function t hfunction)
  refine List.forall_mem_append.2 ⟨List.forall_mem_append.2 ⟨?_, ?_⟩, ?_⟩
  · simp only [List.forall_mem_cons, isProper_text, true_and]
    exact ⟨.string htimestamp, .string line.level.isPrintable_name.isProper, .string hproper.logger,
      .string hproper.message, .string hmodule, hfunction, .integer line.number, List.forall_mem_nil _⟩
  · split
    · exact List.forall_mem_nil _
    · exact List.forall_mem_singleton.2 ⟨isProper_text _, .string hproper.transaction⟩
  · cases hexception : line.exception with
    | none => exact List.forall_mem_nil _
    | some e =>
      obtain ⟨hkind, hdescription⟩ := hproper.exception e hexception
      refine List.forall_mem_singleton.2 ⟨isProper_text _, .string ?_⟩
      rw [Exception.summary]
      split
      · exact hkind
      · exact List.forall_mem_append.2 ⟨List.forall_mem_append.2 ⟨hkind, isProper_text _⟩, hdescription⟩

theorem IsProper.fields (hproper : line.IsProper) {timestamp : Text} (htimestamp : timestamp.IsProper) :
    (Value.object (line.fields timestamp)).IsProper := by
  have hown := hproper.ownFields htimestamp
  refine .object (fun f hf => ?_) fun f hf => ?_
  · exact (Fields.mem_update hf).elim (fun hf => (hown f hf).1) (hproper.names f)
  · exact (Fields.mem_update hf).elim (fun hf => (hown f hf).2) (hproper.values f)

/-- A record of which every integer is short: its level, its line number and those in the fields of its own. -/
structure HasShortIntegers (line : Line) : Prop where
  level : isShort line.level = true
  number : isShort line.number = true
  extra : ∀ f ∈ line.extra, isWritable f.2 = true

/-- A record that can be written out: the calendar can show its time, and the integers of its level and of the
    fields in its line are short. -/
structure IsWritable (line : Line) : Prop where
  time : Timestamp.IsShown line.seconds
  level : isShort line.level = true
  fields : Json.isWritable (.object (line.fields (Timestamp.render line.seconds))) = true

/-- A field that is replaced does not count, so that no more is needed than that all integers are short. -/
theorem HasShortIntegers.isWritable (hshort : line.HasShortIntegers) (htime : Timestamp.IsShown line.seconds) :
    line.IsWritable := by
  have hfunction : Json.isWritable ((line.function.map Value.string).getD .null) = true := by
    cases line.function <;> rfl
  have hown : ∀ f ∈ line.ownFields (Timestamp.render line.seconds), Json.isWritable f.2 = true := by
    refine List.forall_mem_append.2 ⟨List.forall_mem_append.2 ⟨?_, ?_⟩, ?_⟩
    · simp only [List.forall_mem_cons]
      exact ⟨rfl, rfl, rfl, rfl, rfl, hfunction, hshort.number, List.forall_mem_nil _⟩
    · split
      · exact List.forall_mem_nil _
      · exact List.forall_mem_singleton.2 rfl
    · cases line.exception with
      | none => exact List.forall_mem_nil _
      | some e => exact List.forall_mem_singleton.2 rfl
  refine ⟨htime, hshort.level, isWritable_object.2 fun f hf => ?_⟩
  exact (Fields.mem_update hf).elim (hown f) (hshort.extra f)

/-- What is rendered of a record: printable ASCII that is read, where its texts have no surrogates, as the
    object of the fields that every record has, updated by those of its own. -/
structure Shows (line : Line) (out : Text) : Prop where
  printable : IsPrintable out
  names_eq : Fields.names (line.ownFields (Timestamp.render line.seconds)) =
    ["timestamp", "level", "logger", "message", "module", "function", "line"].map text ++
      (if line.transaction = [] then [] else [text "transaction_id"]) ++
      (if line.exception = none then [] else [text "exception"])
  read : line.IsProper → ∃ members, read? out = some (.object members) ∧
    Fields.Updated (line.ownFields (Timestamp.render line.seconds)) line.extra members

theorem shows_object (line : Line) : line.Shows (value (.object (line.fields (Timestamp.render line.seconds)))) where
  printable := isPrintable_value _
  names_eq := names_ownFields line _
  read hproper := by
    have htimestamp := (Timestamp.isPrintable_render line.seconds).isProper
    have hupdated := Fields.updated_update (nodup_ownFields line (Timestamp.render line.seconds)) line.extra
    exact ⟨_, read?_value (hproper.fields htimestamp), hupdated⟩

/-- A record is rendered as one line exactly where it can be written out, and the line shows it. A record whose
    time the calendar can show and whose integers are short can be written out. -/
theorem render_shows (line : Line) :
    (line.IsWritable ∧ (∃ out, line.render = .ok out ∧ line.Shows out) ∨
      ¬line.IsWritable ∧ ∃ problem, line.render = .error problem) ∧
    (Timestamp.IsShown line.seconds → line.HasShortIntegers → line.IsWritable) := by
  refine ⟨?_, fun htime hshort => hshort.isWritable htime⟩
  cases hlevel : isShort line.level with
  | false =>
    refine .inr ⟨fun hwritable => ?_, .digits, ?_⟩
    · cases hlevel.symm.trans hwritable.level
    · simp [render, timestamp, hlevel]
      rfl
  | true =>
    obtain ⟨hshown, hseconds⟩ | ⟨hnot, problem, hseconds⟩ := Timestamp.ofSeconds_cases line.seconds
    · have htimestamp : line.timestamp = .ok (Timestamp.render line.seconds) := by
        rw [timestamp, hlevel, if_pos rfl, hseconds]
        rfl
      cases hfields : Json.isWritable (.object (line.fields (Timestamp.render line.seconds))) with
      | false =>
        refine .inr ⟨fun hwritable => ?_, .digits, ?_⟩
        · cases hfields.symm.trans hwritable.fields
        · rw [render, htimestamp]
          simp only [bind, Except.bind, object?, hfields]
          rfl
      | true =>
        refine .inl ⟨⟨hshown, hlevel, hfields⟩, _, ?_, line.shows_object⟩
        rw [render, htimestamp]
        simp only [bind, Except.bind, object?, hfields]
        rfl
    · refine .inr ⟨fun hwritable => hnot hwritable.time, .time problem, ?_⟩
      rw [render, timestamp, hlevel, if_pos rfl, hseconds]
      rfl

/-- An event that counts something, with a field of its own in place of its message. -/
def countLine (count : Int) : Line where
  seconds := 0
  level := Level.warning
  logger := text "md5passwd.audit"
  message := text "SECURITY_EVENT: Security event: flood"
  file := []
  function := none
  number := 0
  transaction := []
  exception := none
  extra := [(text "message", .string (text "Security event: flood")), (text "count", .integer count)]

/-- A count of as many digits as can be written out is shown. -/
theorem countLine_shows :
    ∃ out, (countLine (Nat.pow 10 4300 - 1 : Nat)).render = .ok out ∧
      (countLine (Nat.pow 10 4300 - 1 : Nat)).Shows out := by
  obtain ⟨hcases, hshort⟩ := render_shows (countLine (Nat.pow 10 4300 - 1 : Nat))
  have hwritable := hshort (by decide +kernel) ⟨by decide +kernel, by decide +kernel, by decide +kernel⟩
  obtain ⟨-, hshown⟩ | ⟨hnot, -⟩ := hcases
  · exact hshown
  · exact absurd hwritable hnot

/-- A count of one digit more is not rendered, though the texts of the record have no surrogates and the calendar
    can show its time. -/
theorem long_count_not_rendered :
    (countLine (Nat.pow 10 4300)).IsProper ∧ Timestamp.IsShown (countLine (Nat.pow 10 4300)).seconds ∧
      (countLine (Nat.pow 10 4300)).render = .error .digits := by
  refine ⟨⟨isProper_text _, isProper_text _, ?_, ?_, ?_, ?_, ?_, ?_⟩, by decide, by decide +kernel⟩
  · exact List.forall_mem_nil _
  · intro t ht
    cases ht
  · exact List.forall_mem_nil _
  · intro e he
    cases he
  · exact List.forall_mem_cons.2 ⟨isProper_text _, List.forall_mem_singleton.2 (isProper_text _)⟩
  · exact List.forall_mem_cons.2 ⟨.string (isProper_text _), List.forall_mem_singleton.2 (.integer _)⟩

end Line

end CredentialStore.Log
