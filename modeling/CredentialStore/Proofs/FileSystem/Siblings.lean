import CredentialStore.Proofs.FileSystem.Entries
import CredentialStore.Proofs.Text.Octets
import CredentialStore.Store.Paths

namespace CredentialStore

namespace FileSystem

variable {fs fs' : FileSystem}

/-- Where a name leads from a directory: the empty name and one dot stay, two dots go up. None when the
    name is too long. -/
def turn (here : Location) (name : Bytes) : Option Location :=
  if name = [] ∨ name = [0x2E] then some here
  else if name = [0x2E, 0x2E] then some here.dropLast
  else if maximumName < name.length then none
  else some (here ++ [name])

theorem walk_cons_ok_iff {here there : Location} {name : Bytes} {rest : List Bytes} :
    fs.walk here (name :: rest) = .ok there ↔
      fs.entry? here = some .directory ∧ ∃ next, turn here name = some next ∧
        fs.walk next rest = .ok there := by
  rw [walk]
  cases hentry : fs.entry? here with
  | none => simp
  | some entry =>
    cases entry with
    | file id => simp
    | directory =>
      simp only [true_and, turn]
      split
      · simp
      · split
        · simp
        · split <;> simp

/-- A way through directories is the same where the directories are the same. -/
theorem walk_ok_of_directory_iff
    (hdirectory : ∀ there, fs'.entry? there = some .directory ↔ fs.entry? there = some .directory)
    {names : List Bytes} {here there : Location} (hwalk : fs.walk here names = .ok there) :
    fs'.walk here names = .ok there := by
  induction names generalizing here with
  | nil => exact hwalk
  | cons name rest ih =>
    obtain ⟨hhere, next, hturn, hrest⟩ := walk_cons_ok_iff.1 hwalk
    exact walk_cons_ok_iff.2 ⟨(hdirectory here).2 hhere, next, hturn, ih hrest⟩

theorem locate_eq_ok_iff {path : Text} {there : Location} :
    fs.locate path = .ok there ↔
      ∃ octets, path.toBytes? = some octets ∧ 0 ∉ octets ∧ octets ≠ [] ∧ octets.length < maximumPath ∧
        fs.walk [] (names octets) = .ok there := by
  rw [locate]
  cases hbytes : path.toBytes? with
  | none => simp
  | some octets =>
    simp only [Option.some.injEq, exists_eq_left']
    by_cases hzero : 0 ∈ octets
    · simp [hzero]
    · rw [if_neg hzero]
      by_cases hempty : octets = []
      · simp [hempty, Failure.numbered]
      · rw [if_neg (by simpa using hempty)]
        by_cases hlong : maximumPath ≤ octets.length
        · simp [hlong, Failure.numbered, Nat.not_lt.2 hlong]
        · rw [if_neg hlong]
          have hshort := Nat.lt_of_not_le hlong
          cases fs.walk [] (names octets) <;> simp [hzero, hempty, hshort, pure, Except.pure]

theorem locate_ok_of_directory_iff
    (hdirectory : ∀ there, fs'.entry? there = some .directory ↔ fs.entry? there = some .directory)
    {path : Text} {there : Location} (hlocate : fs.locate path = .ok there) :
    fs'.locate path = .ok there := by
  obtain ⟨octets, hbytes, hzero, hempty, hshort, hwalk⟩ := locate_eq_ok_iff.1 hlocate
  exact locate_eq_ok_iff.2
    ⟨octets, hbytes, hzero, hempty, hshort, walk_ok_of_directory_iff hdirectory hwalk⟩

theorem names_ne_nil (b : Bytes) : names b ≠ [] := by
  induction b with
  | nil => simp [names]
  | cons x rest ih =>
    by_cases hx : x = slash
    · simp [names, hx]
    · cases hrest : names rest <;> simp [names, hx, hrest]

theorem names_append_slash (a b : Bytes) : names (a ++ slash :: b) = names a ++ names b := by
  induction a with
  | nil => simp [names]
  | cons x rest ih =>
    by_cases hx : x = slash
    · simp [names, hx, ih]
    · simp only [List.cons_append, names, if_neg hx, ih]
      cases hrest : names rest with
      | nil => exact absurd hrest (names_ne_nil rest)
      | cons name others => rfl

theorem names_of_notMem {name : Bytes} (hslash : slash ∉ name) : names name = [name] := by
  induction name with
  | nil => rfl
  | cons x rest ih =>
    rw [List.mem_cons, not_or] at hslash
    simp [names, Ne.symm hslash.1, ih hslash.2]

/-- A name that can be given to a file. -/
structure IsFileName (name : Bytes) : Prop where
  ne_nil : name ≠ []
  slash_notMem : slash ∉ name
  zero_notMem : 0 ∉ name
  ne_dot : name ≠ [0x2E]
  ne_dots : name ≠ [0x2E, 0x2E]
  length_le : name.length ≤ maximumName

theorem IsFileName.turn_eq {name : Bytes} (hname : IsFileName name) (here : Location) :
    turn here name = some (here ++ [name]) := by
  simp [turn, hname.ne_nil, hname.ne_dot, hname.ne_dots, Nat.not_lt.2 hname.length_le]

/-- A way that ends in a file name leads to a directory and then takes that name. -/
theorem walk_append_singleton_ok_iff {name : Bytes} (hname : IsFileName name) {way : List Bytes}
    {here there : Location} :
    fs.walk here (way ++ [name]) = .ok there ↔
      ∃ directory, fs.walk here way = .ok directory ∧ fs.entry? directory = some .directory ∧
        there = directory ++ [name] := by
  induction way generalizing here with
  | nil =>
    rw [List.nil_append, walk_cons_ok_iff, hname.turn_eq]
    simp [walk, pure, Except.pure, eq_comm]
  | cons first rest ih =>
    rw [List.cons_append, walk_cons_ok_iff]
    constructor
    · rintro ⟨hhere, next, hturn, hwalk⟩
      obtain ⟨directory, hway, hdirectory, hthere⟩ := ih.1 hwalk
      exact ⟨directory, walk_cons_ok_iff.2 ⟨hhere, next, hturn, hway⟩, hdirectory, hthere⟩
    · rintro ⟨directory, hway, hdirectory, hthere⟩
      obtain ⟨hhere, next, hturn, hwalk⟩ := walk_cons_ok_iff.1 hway
      exact ⟨hhere, next, hturn, ih.2 ⟨directory, hwalk, hdirectory, hthere⟩⟩

end FileSystem

namespace StorePaths

open FileSystem

/-- The octets of the name of the primary file. -/
def primaryOctets : Bytes := [0x70, 0x61, 0x73, 0x73, 0x77, 0x64, 0x2E, 0x6D, 0x64, 0x35]

def backupOctets : Bytes := [0x70, 0x61, 0x73, 0x73, 0x77, 0x64, 0x2E, 0x6F, 0x6C, 0x64]

def stagingOctets : Bytes := [0x70, 0x61, 0x73, 0x73, 0x77, 0x64, 0x2E, 0x6E, 0x65, 0x77]

theorem toBytes?_primaryName : primaryName.toBytes? = some primaryOctets := rfl

theorem toBytes?_backupName : backupName.toBytes? = some backupOctets := rfl

theorem toBytes?_stagingName : stagingName.toBytes? = some stagingOctets := rfl

theorem isFileName_primaryOctets : IsFileName primaryOctets := by
  constructor <;> decide

theorem isFileName_backupOctets : IsFileName backupOctets := by
  constructor <;> decide

theorem isFileName_stagingOctets : IsFileName stagingOctets := by
  constructor <;> decide

/-- Where the primary file of a store in a directory lies. -/
def primaryAt (directory : Location) : Location := directory ++ [primaryOctets]

def backupAt (directory : Location) : Location := directory ++ [backupOctets]

def stagingAt (directory : Location) : Location := directory ++ [stagingOctets]

section Locations

variable (directory : Location)

@[simp] theorem primaryAt_ne_nil : primaryAt directory ≠ [] := by simp [primaryAt]

@[simp] theorem backupAt_ne_nil : backupAt directory ≠ [] := by simp [backupAt]

@[simp] theorem stagingAt_ne_nil : stagingAt directory ≠ [] := by simp [stagingAt]

@[simp] theorem dropLast_primaryAt : (primaryAt directory).dropLast = directory := by
  simp [primaryAt]

@[simp] theorem dropLast_backupAt : (backupAt directory).dropLast = directory := by simp [backupAt]

@[simp] theorem dropLast_stagingAt : (stagingAt directory).dropLast = directory := by
  simp [stagingAt]

@[simp] theorem primaryAt_ne_backupAt : primaryAt directory ≠ backupAt directory := by
  simp [primaryAt, backupAt, primaryOctets, backupOctets]

@[simp] theorem primaryAt_ne_stagingAt : primaryAt directory ≠ stagingAt directory := by
  simp [primaryAt, stagingAt, primaryOctets, stagingOctets]

@[simp] theorem backupAt_ne_stagingAt : backupAt directory ≠ stagingAt directory := by
  simp [backupAt, stagingAt, backupOctets, stagingOctets]

end Locations

theorem within_eq {directory : Text} (hdirectory : directory ≠ []) :
    ∃ before, ∀ name, within directory name = before ++ CodePoint.ofChar '/' :: name := by
  cases hlast : directory.getLast? with
  | none => exact absurd (List.getLast?_eq_none_iff.1 hlast) hdirectory
  | some last =>
    by_cases hslash : last = CodePoint.ofChar '/'
    · obtain ⟨before, hbefore⟩ := List.getLast?_eq_some_iff.1 hlast
      exact ⟨before, fun name => by simp [within, hslash, hbefore]⟩
    · exact ⟨directory, fun name => by simp [within, hlast, hslash]⟩

theorem toBytes?_within {directory name : Text} {octets all : Bytes}
    (hname : name.toBytes? = some octets) (hall : (within directory name).toBytes? = some all) :
    ∃ front way, all = front ++ octets ∧
      (∀ other o, other.toBytes? = some o → (within directory other).toBytes? = some (front ++ o)) ∧
      ∀ o, slash ∉ o → names (front ++ o) = way ++ [o] := by
  by_cases hnil : directory = []
  · subst hnil
    have heq : some octets = some all := hname.symm.trans hall
    exact ⟨[], [], (Option.some.inj heq).symm, fun other o ho => ho, fun o ho => names_of_notMem ho⟩
  · obtain ⟨before, hwithin⟩ := within_eq hnil
    have hslash : (CodePoint.ofChar '/').toBytes? = some [slash] := rfl
    rw [hwithin, Text.toBytes?_append] at hall
    obtain ⟨front, hfront, hall⟩ := Option.bind_eq_some_iff.1 hall
    refine ⟨front ++ [slash], names front, ?_, fun other o ho => ?_, fun o ho => ?_⟩
    · simp [Text.toBytes?, hslash, hname] at hall
      simp [← hall]
    · rw [hwithin, Text.toBytes?_append, hfront]
      simp [Text.toBytes?, hslash, ho]
    · rw [List.append_assoc, List.singleton_append, names_append_slash, names_of_notMem ho]

/-- Two file names of one length lead from a path of a directory into the same directory. -/
theorem locate_within {fs : FileSystem} {directory name : Text} {octets : Bytes}
    (hbytes : name.toBytes? = some octets) (hname : IsFileName octets) {there : Location}
    (hlocate : fs.locate (within directory name) = .ok there) :
    ∃ at_, fs.entry? at_ = some .directory ∧ there = at_ ++ [octets] ∧
      ∀ other o, other.toBytes? = some o → IsFileName o → o.length = octets.length →
        fs.locate (within directory other) = .ok (at_ ++ [o]) := by
  obtain ⟨all, hall, hzero, -, hshort, hwalk⟩ := locate_eq_ok_iff.1 hlocate
  obtain ⟨front, way, rfl, hothers, hnames⟩ := toBytes?_within hbytes hall
  rw [hnames octets hname.slash_notMem, walk_append_singleton_ok_iff hname] at hwalk
  obtain ⟨at_, hway, hat, rfl⟩ := hwalk
  refine ⟨at_, hat, rfl, fun other o hother ho hlength => ?_⟩
  refine locate_eq_ok_iff.2 ⟨front ++ o, hothers other o hother, ?_, ?_, ?_, ?_⟩
  · rw [List.mem_append, not_or] at hzero ⊢
    exact ⟨hzero.1, ho.zero_notMem⟩
  · simp [ho.ne_nil]
  · rw [List.length_append] at hshort ⊢
    omega
  · rw [hnames o ho.slash_notMem, walk_append_singleton_ok_iff ho]
    exact ⟨at_, hway, hat, rfl⟩

/-- The paths of a store lead into a directory. -/
structure LeadTo (paths : StorePaths) (fs : FileSystem) (directory : Location) : Prop where
  isDirectory : fs.entry? directory = some .directory
  primary : fs.locate paths.primary = .ok (primaryAt directory)
  backup : fs.locate paths.backup = .ok (backupAt directory)
  staging : fs.locate paths.staging = .ok (stagingAt directory)

/-- Where the path of one of the three names leads anywhere, all paths lead into one directory. -/
theorem leadTo_of_locate_within {fs : FileSystem} {root name : Text} {octets : Bytes} {there : Location}
    (hbytes : name.toBytes? = some octets) (hname : IsFileName octets)
    (hlength : octets.length = primaryOctets.length) (hlocate : fs.locate (within root name) = .ok there) :
    ∃ directory, (locate root).LeadTo fs directory ∧ there = directory ++ [octets] := by
  obtain ⟨directory, hdirectory, hthere, hothers⟩ := locate_within hbytes hname hlocate
  refine ⟨directory, ⟨hdirectory, ?_, ?_, ?_⟩, hthere⟩
  · exact hothers primaryName _ toBytes?_primaryName isFileName_primaryOctets hlength.symm
  · exact hothers backupName _ toBytes?_backupName isFileName_backupOctets hlength.symm
  · exact hothers stagingName _ toBytes?_stagingName isFileName_stagingOctets hlength.symm

theorem leadTo_of_locate_staging {fs : FileSystem} {root : Text} {there : Location}
    (hlocate : fs.locate (locate root).staging = .ok there) :
    ∃ directory, (locate root).LeadTo fs directory ∧ there = stagingAt directory :=
  leadTo_of_locate_within toBytes?_stagingName isFileName_stagingOctets rfl hlocate

theorem leadTo_of_locate_backup {fs : FileSystem} {root : Text} {there : Location}
    (hlocate : fs.locate (locate root).backup = .ok there) :
    ∃ directory, (locate root).LeadTo fs directory ∧ there = backupAt directory :=
  leadTo_of_locate_within toBytes?_backupName isFileName_backupOctets rfl hlocate

theorem LeadTo.of_directory_iff {paths : StorePaths} {fs fs' : FileSystem} {directory : Location}
    (hlead : paths.LeadTo fs directory)
    (hsame : ∀ there, fs'.entry? there = some .directory ↔ fs.entry? there = some .directory) :
    paths.LeadTo fs' directory where
  isDirectory := (hsame directory).2 hlead.isDirectory
  primary := locate_ok_of_directory_iff hsame hlead.primary
  backup := locate_ok_of_directory_iff hsame hlead.backup
  staging := locate_ok_of_directory_iff hsame hlead.staging

theorem LeadTo.unique {paths : StorePaths} {fs : FileSystem} {directory directory' : Location}
    (hlead : paths.LeadTo fs directory) (hlead' : paths.LeadTo fs directory') :
    directory = directory' := by
  have hprimary := hlead.primary.symm.trans hlead'.primary
  simpa [primaryAt] using hprimary

end StorePaths

end CredentialStore
