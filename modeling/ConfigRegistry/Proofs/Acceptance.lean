import ConfigRegistry.Proofs.Filing
import ConfigRegistry.Proofs.Trimming

set_option autoImplicit false

/-!
Which groups are accepted. Main statement: a group is accepted where its name and version and those of its entries are
well formed, no parameter and no label of theirs is blank, and no two entries have one name and version; a group that
is not is refused for its own name and version, or else for the first entry that is at fault.
-/
namespace ConfigRegistry.Catalog

open Text (trim isBlankText)

def Sized (limit : Nat) (text : String) : Prop := 1 ≤ text.length ∧ text.length ≤ limit

def Lettered (text : String) : Prop := ∀ c ∈ text.toList, c.isAlphanum = true ∨ c = '.' ∨ c = '_' ∨ c = '-'

structure Headed (name version : String) : Prop where
  sized : Sized 128 name ∧ Sized 64 version
  lettered : Lettered name ∧ Lettered version

structure Configuration.WellFormed (configuration : Configuration) : Prop where
  headed : Headed configuration.name configuration.version
  parameters : ∀ key value, configuration.parameters.get? key = some value → trim key ≠ ""

structure Entry.WellFormed (entry : Entry) : Prop where
  configuration : entry.configuration.WellFormed
  labels : ∀ key value, entry.labels.get? key = some value → trim key ≠ "" ∧ trim value ≠ ""

-- Entries none of which is at fault by itself or has the name and version of another.
structure Faultless (entries : List Entry) : Prop where
  formed : ∀ entry ∈ entries, entry.WellFormed
  apart : entries.Pairwise fun first second => first.pair ≠ second.pair

structure Group.WellFormed (group : Group) : Prop where
  headed : Headed group.name group.version
  entries : Faultless group.entries

inductive LengthFault (name version : String) : String → Prop where
  | name (long : ¬ Sized 128 name) (sized : Sized 64 version) : LengthFault name version "name: name is required"
  | version (sized : Sized 128 name) (long : ¬ Sized 64 version) :
      LengthFault name version "version: version is required"
  | both (long : ¬ Sized 128 name) (long' : ¬ Sized 64 version) :
      LengthFault name version "name: name is required\nversion: version is required"

def foulLetters (field : String) : String :=
  field ++ " can only contain alphanumeric characters, dots, hyphens, and underscores"

-- What is wrong with a name and a version. The lengths of both come before the letters of either.
inductive HeaderFault (name version : String) : String → Prop where
  | length {reason : String} (fault : LengthFault name version reason) : HeaderFault name version reason
  | name (sized : Sized 128 name ∧ Sized 64 version) (foul : ¬ Lettered name) :
      HeaderFault name version (foulLetters "name")
  | version (sized : Sized 128 name ∧ Sized 64 version) (lettered : Lettered name) (foul : ¬ Lettered version) :
      HeaderFault name version (foulLetters "version")

inductive ConfigurationFault (configuration : Configuration) : String → Prop where
  | header {reason : String} (fault : HeaderFault configuration.name configuration.version reason) :
      ConfigurationFault configuration reason
  | parameter (headed : Headed configuration.name configuration.version) {key value : String}
      (given : configuration.parameters.get? key = some value) (blank : trim key = "") :
      ConfigurationFault configuration "parameter keys cannot be empty"

inductive EntryFault (entry : Entry) : String → Prop where
  | configuration {reason : String} (fault : ConfigurationFault entry.configuration reason) : EntryFault entry reason
  | label (configuration : entry.configuration.WellFormed) {key value : String}
      (given : entry.labels.get? key = some value) (blank : trim key = "" ∨ trim value = "") :
      EntryFault entry "labels cannot have empty keys or values"

-- What is wrong with an entry behind others.
inductive PlaceFault (front : List Entry) (entry : Entry) : String → Prop where
  | entry {reason : String} (fault : EntryFault entry reason) : PlaceFault front entry reason
  | repeated (formed : entry.WellFormed) {other : Entry} (among : other ∈ front) (same : other.pair = entry.pair) :
      PlaceFault front entry ("configuration " ++ entry.configuration.name ++ "/" ++ entry.configuration.version ++
        " appears more than once")

inductive GroupFault (group : Group) : String → Prop where
  | header {reason : String} (fault : HeaderFault group.name group.version reason) : GroupFault group reason
  | entry (headed : Headed group.name group.version) {front back : List Entry} {entry : Entry}
      (entries : group.entries = front ++ entry :: back) (before : Faultless front) {reason : String}
      (fault : PlaceFault front entry reason) : GroupFault group reason

-- A check that passes what is as it should be, and refuses everything else for what is wrong with it.
structure Judges (check : Except ServiceFailure Unit) (formed : Prop) (fault : String → Prop) : Prop where
  passes : check = .ok () ↔ formed
  refuses : ∀ failure, check = .error failure ↔ ∃ reason, failure = .validationError reason ∧ fault reason

section Checks

variable {first second check : Except ServiceFailure Unit} {formed also : Prop} {fault later : String → Prop}
  {reason : String}

theorem judges_passed (sound : formed) (faultless : ∀ reason, ¬ fault reason) : Judges (.ok ()) formed fault :=
  ⟨by simp [sound], fun failure => by simp [faultless]⟩

theorem judges_refused (unsound : ¬ formed) (wrong : fault reason) (only : ∀ other, fault other → other = reason) :
    Judges (.error (.validationError reason)) formed fault := by
  have same (other : String) : fault other ↔ other = reason := ⟨only other, fun same => same ▸ wrong⟩
  exact ⟨by simp [unsound], fun failure => by simp [same, eq_comm]⟩

theorem judges_guard {holds : Prop} [Decidable holds] (same : holds ↔ formed) :
    Judges (if holds then .ok () else .error (.validationError reason)) formed
      fun other => ¬ formed ∧ other = reason := by
  by_cases sound : holds
  · rw [if_pos sound]
    exact judges_passed (same.mp sound) fun other wrong => wrong.1 (same.mp sound)
  · have unsound : ¬ formed := fun formed => sound (same.mpr formed)
    rw [if_neg sound]
    exact judges_refused unsound ⟨unsound, rfl⟩ fun other wrong => wrong.2

theorem judges_bar {wrong : Prop} [Decidable wrong] {found : Prop} (same : wrong ↔ found) :
    Judges (if wrong then .error (.validationError reason) else .ok ()) (¬ found)
      fun other => found ∧ other = reason := by
  by_cases fails : wrong
  · have bad : found := same.mp fails
    rw [if_pos fails]
    exact judges_refused (not_not_intro bad) ⟨bad, rfl⟩ fun other wrong => wrong.2
  · have fine : ¬ found := fun found => fails (same.mpr found)
    rw [if_neg fails]
    exact judges_passed fine fun other wrong => fine wrong.1

-- What comes later is looked at only where the first check has passed.
theorem judges_bind (judges : Judges first formed fault) (rest : formed → Judges second also later) :
    Judges (first >>= fun _ => second) (formed ∧ also) fun reason => fault reason ∨ formed ∧ later reason := by
  obtain ⟨passes, refuses⟩ := judges
  cases first with
  | ok value =>
      have sound : formed := passes.mp rfl
      have faultless (reason : String) : ¬ fault reason := fun wrong =>
        nomatch (refuses (.validationError reason)).mpr ⟨reason, rfl, wrong⟩
      change Judges second _ _
      obtain ⟨passes', refuses'⟩ := rest sound
      exact ⟨by simpa [sound] using passes', fun failure => by simpa [sound, faultless] using refuses' failure⟩
  | error failure =>
      have unsound : ¬ formed := fun sound => nomatch passes.mpr sound
      change Judges (.error failure) _ _
      exact ⟨by simp [unsound], fun other => by simpa [unsound] using refuses other⟩

theorem judges_congr (judges : Judges check formed fault) (same : formed ↔ also)
    (faults : ∀ reason, fault reason ↔ later reason) : Judges check also later := by
  refine ⟨judges.passes.trans same, fun failure => ?_⟩
  simp only [judges.refuses, faults]

end Checks

section Rules

variable {limit : Nat} {text : String}

theorem identifier_char_iff (c : Char) :
    isIdentifierChar c = true ↔ c.isAlphanum = true ∨ c = '.' ∨ c = '_' ∨ c = '-' := by
  have letters : c.isAlphanum =
      (decide ('A' ≤ c ∧ c ≤ 'Z') || 'a' ≤ c && c ≤ 'z' || '0' ≤ c && c ≤ '9') := rfl
  simp only [isIdentifierChar, letters, Bool.or_eq_true, Bool.and_eq_true, decide_eq_true_eq, or_assoc]

-- A text that is empty is refused for its length before its letters are looked at.
theorem identifier_iff (sized : Sized limit text) : isIdentifier text = true ↔ Lettered text := by
  have filled : text.isEmpty = false := by
    rw [Bool.eq_false_iff]
    intro empty
    rw [String.isEmpty_iff] at empty
    rw [empty] at sized
    exact absurd sized.1 (by decide)
  simp [isIdentifier, Lettered, filled, identifier_char_iff]

theorem blank_text_iff : isBlankText text = true ↔ trim text = "" := by
  rw [trim, String.ofList_eq_empty_iff, Text.trim_nil_iff, isBlankText, List.all_eq_true]
  rfl

theorem has_length_iff : hasLength limit text = true ↔ Sized limit text := by simp [hasLength, Sized]

theorem length_fault_only {name version reason : String} (fault : LengthFault name version reason) :
    ∀ other, LengthFault name version other → other = reason := by
  intro other fault'
  cases fault <;> cases fault' <;> first | rfl | contradiction

theorem lengths_judged (name version : String) :
    Judges (checkLengths name version) (Sized 128 name ∧ Sized 64 version) (LengthFault name version) := by
  have first : hasLength nameLimit name = true ↔ Sized 128 name := has_length_iff
  have second : hasLength versionLimit version = true ↔ Sized 64 version := has_length_iff
  rw [checkLengths]
  by_cases named : Sized 128 name <;> by_cases numbered : Sized 64 version
  · rw [first.mpr named, second.mpr numbered]
    exact judges_passed ⟨named, numbered⟩ fun reason fault => by cases fault <;> contradiction
  · rw [first.mpr named, Bool.eq_false_iff.mpr (mt second.mp numbered)]
    have fault : LengthFault name version _ := .version named numbered
    exact judges_refused (fun sized => numbered sized.2) fault (length_fault_only fault)
  · rw [Bool.eq_false_iff.mpr (mt first.mp named), second.mpr numbered]
    have fault : LengthFault name version _ := .name named numbered
    exact judges_refused (fun sized => named sized.1) fault (length_fault_only fault)
  · rw [Bool.eq_false_iff.mpr (mt first.mp named), Bool.eq_false_iff.mpr (mt second.mp numbered)]
    have fault : LengthFault name version _ := .both named numbered
    exact judges_refused (fun sized => named sized.1) fault (length_fault_only fault)

theorem letters_judged (field : String) (sized : Sized limit text) :
    Judges (checkIdentifier field text) (Lettered text) fun reason => ¬ Lettered text ∧ reason = foulLetters field :=
  judges_guard (identifier_iff sized)

theorem header_judged (name version : String) :
    Judges (checkHeader name version) (Headed name version) (HeaderFault name version) := by
  have letters (sized : Sized 128 name ∧ Sized 64 version) : Judges (checkPath name version) _ _ :=
    judges_bind (letters_judged "name" sized.1) fun _ => letters_judged "version" sized.2
  refine judges_congr (judges_bind (lengths_judged name version) letters) ?_ ?_
  · exact ⟨fun ⟨sized, lettered⟩ => ⟨sized, lettered⟩, fun ⟨sized, lettered⟩ => ⟨sized, lettered⟩⟩
  · intro reason
    constructor
    · rintro (fault | ⟨sized, ⟨foul, rfl⟩ | ⟨lettered, foul, rfl⟩⟩)
      · exact .length fault
      · exact .name sized foul
      · exact .version sized lettered foul
    · rintro (fault | ⟨sized, foul⟩ | ⟨sized, lettered, foul⟩)
      · exact .inl fault
      · exact .inr ⟨sized, .inl ⟨foul, rfl⟩⟩
      · exact .inr ⟨sized, .inr ⟨lettered, foul, rfl⟩⟩

-- The pairs of a map are looked at in some order, but whichever of them is blank the reason is the same.
theorem any_pair_iff {map : KeyMap String} {blank : String × String → Bool} :
    map.entries.any blank = true ↔ ∃ key value, map.get? key = some value ∧ blank (key, value) = true := by
  simp only [List.any_eq_true, Prod.exists, KeyMap.get_iff_mem]

theorem configuration_judged (configuration : Configuration) :
    Judges configuration.check configuration.WellFormed (ConfigurationFault configuration) := by
  have blank : (configuration.parameters.entries.any fun pair => isBlankText pair.1) = true ↔
      ∃ key value, configuration.parameters.get? key = some value ∧ trim key = "" := by
    rw [any_pair_iff]
    simp only [blank_text_iff]
  refine judges_congr (judges_bind (header_judged _ _) fun _ => judges_bar blank) ?_ ?_
  · constructor
    · rintro ⟨headed, filled⟩
      exact ⟨headed, fun key value given blank => filled ⟨key, value, given, blank⟩⟩
    · rintro ⟨headed, filled⟩
      exact ⟨headed, fun ⟨key, value, given, blank⟩ => filled key value given blank⟩
  · intro reason
    constructor
    · rintro (fault | ⟨headed, ⟨key, value, given, blank⟩, rfl⟩)
      · exact .header fault
      · exact .parameter headed given blank
    · rintro (fault | ⟨headed, given, blank⟩)
      · exact .inl fault
      · exact .inr ⟨headed, ⟨_, _, given, blank⟩, rfl⟩

theorem entry_judged (entry : Entry) : Judges entry.check entry.WellFormed (EntryFault entry) := by
  have blank : (entry.labels.entries.any fun pair => isBlankText pair.1 || isBlankText pair.2) = true ↔
      ∃ key value, entry.labels.get? key = some value ∧ (trim key = "" ∨ trim value = "") := by
    rw [any_pair_iff]
    simp only [Bool.or_eq_true, blank_text_iff]
  refine judges_congr (judges_bind (configuration_judged _) fun _ => judges_bar blank) ?_ ?_
  · constructor
    · rintro ⟨configuration, filled⟩
      exact ⟨configuration, fun key value given =>
        ⟨fun blank => filled ⟨key, value, given, .inl blank⟩, fun blank => filled ⟨key, value, given, .inr blank⟩⟩⟩
    · rintro ⟨configuration, filled⟩
      refine ⟨configuration, fun ⟨key, value, given, blank⟩ => ?_⟩
      exact blank.elim (filled key value given).1 (filled key value given).2
  · intro reason
    constructor
    · rintro (fault | ⟨configuration, ⟨key, value, given, blank⟩, rfl⟩)
      · exact .configuration fault
      · exact .label configuration given blank
    · rintro (fault | ⟨configuration, given, blank⟩)
      · exact .inl fault
      · exact .inr ⟨configuration, ⟨_, _, given, blank⟩, rfl⟩

end Rules

section Lists

variable {seen : List (String × String)} {entries front : List Entry} {entry : Entry} {failure : ServiceFailure}

def Entry.repeated (entry : Entry) : ServiceFailure :=
  .validationError ("configuration " ++ entry.configuration.name ++ "/" ++ entry.configuration.version ++
    " appears more than once")

theorem check_entries_cons (seen : List (String × String)) (entry : Entry) (entries : List Entry) :
    checkEntries seen (entry :: entries) = (entry.check >>= fun _ =>
      if entry.pair ∈ seen then .error entry.repeated else checkEntries (entry.pair :: seen) entries) := by
  rw [checkEntries]
  simp only [List.contains_iff_mem]
  rfl

theorem faultless_iff : checkEntries [] entries = .ok () ↔ Faultless entries := by
  rw [check_entries_iff]
  constructor
  · rintro ⟨passed, apart, -⟩
    exact ⟨fun entry among => (entry_judged entry).passes.mp (passed entry among), List.pairwise_map.mp apart⟩
  · rintro ⟨formed, apart⟩
    exact ⟨fun entry among => (entry_judged entry).passes.mpr (formed entry among), List.pairwise_map.mpr apart,
      by simp⟩

-- The entries before the one that is refused pass.
theorem check_entries_error : checkEntries seen entries = .error failure ↔
    ∃ front entry back, entries = front ++ entry :: back ∧ checkEntries seen front = .ok () ∧
      (entry.check = .error failure ∨
        entry.check = .ok () ∧ (entry.pair ∈ seen ∨ entry.pair ∈ front.map Entry.pair) ∧ entry.repeated = failure) := by
  induction entries generalizing seen with
  | nil => simp [checkEntries]
  | cons entry entries ih =>
    rw [check_entries_cons]
    constructor
    · intro fails
      cases checks : entry.check with
      | error other =>
          rw [checks] at fails
          obtain rfl : other = failure := by injection fails
          exact ⟨[], entry, entries, rfl, rfl, .inl checks⟩
      | ok value =>
          rw [checks] at fails
          change (if entry.pair ∈ seen then _ else _) = _ at fails
          by_cases known : entry.pair ∈ seen
          · rw [if_pos known] at fails
            injection fails with same
            exact ⟨[], entry, entries, rfl, rfl, .inr ⟨checks, .inl known, same⟩⟩
          · rw [if_neg known] at fails
            obtain ⟨front, bad, back, split, passed, fault⟩ := ih.mp fails
            refine ⟨entry :: front, bad, back, by rw [split]; rfl, ?_, fault.imp_right ?_⟩
            · rw [check_entries_cons, checks]
              exact (if_neg known).trans passed
            · rintro ⟨sound, among, same⟩
              refine ⟨sound, ?_, same⟩
              rw [List.mem_cons] at among
              rw [List.map_cons, List.mem_cons]
              tauto
    · rintro ⟨front, bad, back, split, passed, fault⟩
      cases front with
      | nil =>
          obtain ⟨rfl, rfl⟩ : entry = bad ∧ entries = back := by simpa using split
          rcases fault with checks | ⟨checks, among, same⟩
          · rw [checks]
            rfl
          · rw [checks]
            exact (if_pos (by simpa using among)).trans (congrArg Except.error same)
      | cons first front =>
          obtain ⟨rfl, rfl⟩ : entry = first ∧ entries = front ++ bad :: back := by simpa using split
          rw [check_entries_cons, unit_bind_ok] at passed
          obtain ⟨checks, passed⟩ := passed
          rw [checks]
          change (if entry.pair ∈ seen then _ else _) = _
          by_cases known : entry.pair ∈ seen
          · rw [if_pos known] at passed
            cases passed
          · rw [if_neg known] at passed ⊢
            refine ih.mpr ⟨front, bad, back, rfl, passed, fault.imp_right ?_⟩
            rintro ⟨sound, among, same⟩
            refine ⟨sound, ?_, same⟩
            rw [List.map_cons, List.mem_cons] at among
            rw [List.mem_cons]
            tauto

theorem entries_judged (entries : List Entry) : Judges (checkEntries [] entries) (Faultless entries) fun reason =>
    ∃ front entry back, entries = front ++ entry :: back ∧ Faultless front ∧ PlaceFault front entry reason := by
  refine ⟨faultless_iff, fun failure => ?_⟩
  rw [check_entries_error]
  constructor
  · rintro ⟨front, entry, back, split, before, fails | ⟨passed, among, rfl⟩⟩
    · obtain ⟨reason, rfl, fault⟩ := ((entry_judged entry).refuses failure).mp fails
      exact ⟨reason, rfl, front, entry, back, split, faultless_iff.mp before, .entry fault⟩
    · obtain ⟨other, member, same⟩ := List.mem_map.mp (among.resolve_left List.not_mem_nil)
      exact ⟨_, rfl, front, entry, back, split, faultless_iff.mp before,
        .repeated ((entry_judged entry).passes.mp passed) member same⟩
  · rintro ⟨reason, rfl, front, entry, back, split, before, fault⟩
    refine ⟨front, entry, back, split, faultless_iff.mpr before, ?_⟩
    cases fault with
    | entry fault => exact .inl (((entry_judged entry).refuses _).mpr ⟨reason, rfl, fault⟩)
    | repeated formed among same =>
        exact .inr ⟨(entry_judged entry).passes.mpr formed, .inr (List.mem_map.mpr ⟨_, among, same⟩), rfl⟩

end Lists

theorem group_validation (group : Group) : (group.check = .ok () ↔ group.WellFormed) ∧
    ∀ failure, group.check = .error failure ↔
      ∃ reason, failure = .validationError reason ∧ GroupFault group reason := by
  have judged : Judges group.check group.WellFormed (GroupFault group) := by
    refine judges_congr (judges_bind (header_judged _ _) fun _ => entries_judged group.entries) ?_ fun reason => ?_
    · exact ⟨fun ⟨headed, entries⟩ => ⟨headed, entries⟩, fun ⟨headed, entries⟩ => ⟨headed, entries⟩⟩
    · constructor
      · rintro (fault | ⟨headed, front, entry, back, split, before, fault⟩)
        · exact .header fault
        · exact .entry headed split before fault
      · rintro (fault | ⟨headed, split, before, fault⟩)
        · exact .inl fault
        · exact .inr ⟨headed, _, _, _, split, before, fault⟩
  exact ⟨judged.passes, judged.refuses⟩

end ConfigRegistry.Catalog
