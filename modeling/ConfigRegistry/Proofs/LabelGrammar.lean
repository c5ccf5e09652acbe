import ConfigRegistry.Catalog.LabelFilter
import ConfigRegistry.Proofs.Hosts
import ConfigRegistry.Proofs.ItemCodec
import ConfigRegistry.Proofs.Trimming

set_option autoImplicit false

/-!
The texts of label filters. Main statement: a text is read where each of its segments is blank or a key and a value
around a colon, the last segment of a key counts, and the first segment that is neither tells the error; the filters
that are read are those that the syntax has room for, and each is read back from every way to write it.
-/
namespace ConfigRegistry.Catalog

open Text (Blank Tight Trims blank_nil isBlank piece_plain tight_iff trimChars trim_dropped trim_dropped_last trim_iff
  trim_mark trim_nil_iff trims_trim)

namespace LabelFilter

-- The pieces of a text between its semicolons.
def segments (text : String) : List (List Char) := text.toList.splitOn ';'

-- Some text before the first colon and some after it.
def WellFormed (segment : List Char) : Prop :=
  ∃ before after, segment = before ++ ':' :: after ∧ ':' ∉ before ∧ ¬ Blank before ∧ ¬ Blank after

-- What a segment says of a key: the trimmed text before the first colon, and the trimmed text after it.
def Tells (segment : List Char) (key value : String) : Prop :=
  ∃ before after, segment = before ++ ':' :: after ∧ ':' ∉ before ∧ ¬ Blank before ∧ ¬ Blank after ∧
    Trims before key.toList ∧ Trims after value.toList

-- Why a segment is refused.
inductive Offends (segment : List Char) : ServiceFailure → Prop where
  | plain (absent : ':' ∉ segment) :
      Offends segment (.badRequest "invalid labels format, expected key:value;key2:value2")
  | hollow {before after : List Char} (split : segment = before ++ ':' :: after) (first : ':' ∉ before)
      (blank : Blank before ∨ Blank after) :
      Offends segment (.badRequest "invalid labels format, empty key or value")

-- The last of the segments that say anything of the key.
def LastTells (segments : List (List Char)) (key value : String) : Prop :=
  ∃ front segment back, segments = front ++ segment :: back ∧ Tells segment key value ∧
    ∀ other ∈ back, ∀ value, ¬ Tells other key value

-- The first of the segments that are neither blank nor well formed.
def FirstOffends (segments : List (List Char)) (failure : ServiceFailure) : Prop :=
  ∃ front segment back, segments = front ++ segment :: back ∧ (∀ other ∈ front, Blank other ∨ WellFormed other) ∧
    ¬ Blank segment ∧ Offends segment failure

-- A key and a value in which nothing is cut off or taken for a mark of the syntax.
structure Unmarked (key value : String) : Prop where
  tight : Tight key.toList ∧ Tight value.toList
  semicolons : ';' ∉ key.toList ∧ ';' ∉ value.toList
  colons : ':' ∉ key.toList

-- A key and a value that the syntax has room for.
structure Sayable (key value : String) : Prop extends Unmarked key value where
  filled : key ≠ "" ∧ value ≠ ""

-- Labels as segments in the given order, with white space around keys and values and with blank segments between.
inductive Written : List (String × String) → List (List Char) → Prop where
  | nil : Written [] []
  | blank {labels : List (String × String)} {segment : List Char} {rest : List (List Char)} (blank : Blank segment)
      (written : Written labels rest) : Written labels (segment :: rest)
  | label {labels : List (String × String)} {rest : List (List Char)} {key value : String}
      {front back before after : List Char} (around : Blank front ∧ Blank back ∧ Blank before ∧ Blank after)
      (written : Written labels rest) :
      Written ((key, value) :: labels)
        ((front ++ key.toList ++ back ++ ':' :: (before ++ value.toList ++ after)) :: rest)

section Segments

variable {segment before after : List Char} {key value : String} {failure : ServiceFailure}

theorem read_colon (first : ':' ∉ before) :
    readPair (trimChars (before ++ ':' :: after)) =
      if (trimChars before).isEmpty || (trimChars after).isEmpty then
        .error (.badRequest "invalid labels format, empty key or value")
      else .ok (String.ofList (trimChars before), String.ofList (trimChars after)) := by
  have absent : ∀ c ∈ before.dropWhile isBlank, decide (c ≠ ':') = true := by
    intro c among
    have inside : c ∈ before := (List.dropWhile_suffix isBlank).subset among
    exact decide_eq_true fun same => first (same ▸ inside)
  rw [trim_mark (by decide), readPair, if_pos (by simp)]
  simp only [List.takeWhile_append_of_pos absent, List.dropWhile_append_of_pos absent]
  simp [trim_dropped, trim_dropped_last]

theorem read_plain (absent : ':' ∉ segment) :
    readPair (trimChars segment) = .error (.badRequest "invalid labels format, expected key:value;key2:value2") := by
  obtain ⟨-, front, back, -, -, same⟩ := trims_trim segment
  refine if_neg fun colon => absent ?_
  have inside : ':' ∈ trimChars segment := List.contains_iff_mem.mp colon
  rw [same]
  simp [inside]

theorem tells_iff : Tells segment key value ↔ readPair (trimChars segment) = .ok (key, value) := by
  constructor
  · rintro ⟨before, after, rfl, first, filled, filled', keys, values⟩
    rw [read_colon first, if_neg (by simp [trim_nil_iff, filled, filled']), trim_iff.mpr keys, trim_iff.mpr values]
    simp
  · intro read
    by_cases colon : ':' ∈ segment
    · obtain ⟨before, after, rfl, first⟩ := List.eq_append_cons_of_mem colon
      rw [read_colon first] at read
      split at read
      · cases read
      · rename_i filled
        simp only [Bool.or_eq_true, List.isEmpty_iff, trim_nil_iff, not_or] at filled
        cases read
        exact ⟨before, after, rfl, first, filled.1, filled.2, by simpa using trims_trim before,
          by simpa using trims_trim after⟩
    · rw [read_plain colon] at read
      cases read

theorem offends_iff : Offends segment failure ↔ readPair (trimChars segment) = .error failure := by
  constructor
  · intro offends
    cases offends with
    | plain absent => exact read_plain absent
    | hollow split first blank =>
        rw [split, read_colon first, if_pos (by simpa [trim_nil_iff] using blank)]
  · intro read
    by_cases colon : ':' ∈ segment
    · obtain ⟨before, after, rfl, first⟩ := List.eq_append_cons_of_mem colon
      rw [read_colon first] at read
      split at read
      · rename_i blank
        simp only [Bool.or_eq_true, List.isEmpty_iff, trim_nil_iff] at blank
        cases read
        exact .hollow rfl first blank
      · cases read
    · rw [read_plain colon] at read
      cases read
      exact .plain colon

theorem well_formed_iff : WellFormed segment ↔ ∃ key value, Tells segment key value := by
  constructor
  · rintro ⟨before, after, rfl, first, filled, filled'⟩
    exact ⟨String.ofList (trimChars before), String.ofList (trimChars after), before, after, rfl, first, filled,
      filled', by simpa using trims_trim before, by simpa using trims_trim after⟩
  · rintro ⟨key, value, before, after, split, first, filled, filled', -⟩
    exact ⟨before, after, split, first, filled, filled'⟩

theorem well_formed_filled (formed : WellFormed segment) : ¬ Blank segment := by
  obtain ⟨before, after, rfl, -⟩ := formed
  exact fun blank => absurd (blank ':' (by simp)) (by decide)

end Segments

-- The trimmed segments that are not blank.
def pieces (segments : List (List Char)) : List (List Char) :=
  (segments.map trimChars).filter fun piece => !piece.isEmpty

section Texts

variable {filter result : LabelFilter} {segment : List Char} {rest segments : List (List Char)} {key value : String}
  {failure : ServiceFailure}

theorem parse_segments (text : String) : parse (some text) = readPairs .empty (pieces (LabelFilter.segments text)) := by
  rw [parse, Net.split_at_char_eq]
  rfl

theorem pieces_blank (blank : Blank segment) : pieces (segment :: rest) = pieces rest := by
  simp [pieces, trim_nil_iff.mpr blank]

theorem pieces_none (blank : ∀ segment ∈ segments, Blank segment) : pieces segments = [] := by
  induction segments with
  | nil => rfl
  | cons segment rest ih =>
      obtain ⟨first, others⟩ := List.forall_mem_cons.mp blank
      rw [pieces_blank first, ih others]

theorem pieces_filled (filled : ¬ Blank segment) : pieces (segment :: rest) = trimChars segment :: pieces rest := by
  rw [pieces, List.map_cons, List.filter_cons_of_pos (by simpa [trim_nil_iff] using filled)]
  rfl

theorem tells_filled (tells : Tells segment key value) : ¬ Blank segment :=
  well_formed_filled (well_formed_iff.mpr ⟨key, value, tells⟩)

theorem pieces_tell (tells : Tells segment key value) :
    readPairs filter (pieces (segment :: rest)) = readPairs (filter.insert key value) (pieces rest) := by
  rw [pieces_filled (tells_filled tells), readPairs, tells_iff.mp tells]
  rfl

theorem pieces_offend (filled : ¬ Blank segment) (offends : Offends segment failure) :
    readPairs filter (pieces (segment :: rest)) = .error failure := by
  rw [pieces_filled filled, readPairs, offends_iff.mp offends]
  rfl

theorem blank_silent (blank : Blank segment) : ¬ Tells segment key value := fun tells => tells_filled tells blank

theorem tells_unique {key' value' : String} (tells : Tells segment key value) (again : Tells segment key' value') :
    key = key' ∧ value = value' := by
  have same := (tells_iff.mp tells).symm.trans (tells_iff.mp again)
  simpa using same

theorem offends_silent (offends : Offends segment failure) : ¬ Tells segment key value := by
  intro tells
  have same := (offends_iff.mp offends).symm.trans (tells_iff.mp tells)
  cases same

theorem segment_cases (segment : List Char) :
    Blank segment ∨ (∃ key value, Tells segment key value) ∨ ¬ Blank segment ∧ ∃ failure, Offends segment failure := by
  by_cases blank : Blank segment
  · exact .inl blank
  · cases read : readPair (trimChars segment) with
    | ok label => exact .inr (.inl ⟨label.1, label.2, tells_iff.mpr read⟩)
    | error failure => exact .inr (.inr ⟨blank, failure, offends_iff.mpr read⟩)

theorem last_tells_cons : LastTells (segment :: rest) key value ↔
    LastTells rest key value ∨ Tells segment key value ∧ ∀ other ∈ rest, ∀ value, ¬ Tells other key value := by
  constructor
  · rintro ⟨front, last, back, split, tells, silent⟩
    cases front with
    | nil =>
        cases split
        exact .inr ⟨tells, silent⟩
    | cons _ front =>
        cases split
        exact .inl ⟨front, last, back, rfl, tells, silent⟩
  · rintro (⟨front, last, back, rfl, tells, silent⟩ | ⟨tells, silent⟩)
    · exact ⟨segment :: front, last, back, rfl, tells, silent⟩
    · exact ⟨[], segment, rest, rfl, tells, silent⟩

theorem last_told (told : ∃ segment ∈ segments, ∃ value, Tells segment key value) :
    ∃ value, LastTells segments key value := by
  induction segments with
  | nil => simp at told
  | cons first rest ih =>
      by_cases later : ∃ segment ∈ rest, ∃ value, Tells segment key value
      · obtain ⟨value, last⟩ := ih later
        exact ⟨value, last_tells_cons.mpr (.inl last)⟩
      · have silent : ∀ other ∈ rest, ∀ value, ¬ Tells other key value :=
          fun other among value tells => later ⟨other, among, value, tells⟩
        obtain ⟨segment, among, value, tells⟩ := told
        rcases List.mem_cons.mp among with rfl | among
        · exact ⟨value, last_tells_cons.mpr (.inr ⟨tells, silent⟩)⟩
        · exact absurd tells (silent segment among value)

theorem first_offends_cons : FirstOffends (segment :: rest) failure ↔
    ¬ Blank segment ∧ Offends segment failure ∨ (Blank segment ∨ WellFormed segment) ∧ FirstOffends rest failure := by
  constructor
  · rintro ⟨front, first, back, split, sound, filled, offends⟩
    cases front with
    | nil =>
        cases split
        exact .inl ⟨filled, offends⟩
    | cons _ front =>
        cases split
        exact .inr ⟨sound _ List.mem_cons_self, front, first, back, rfl,
          fun other among => sound other (List.mem_cons_of_mem _ among), filled, offends⟩
  · rintro (⟨filled, offends⟩ | ⟨sound, front, first, back, rfl, others, filled, offends⟩)
    · exact ⟨[], segment, rest, rfl, fun _ none => (nomatch none), filled, offends⟩
    · exact ⟨segment :: front, first, back, rfl, List.forall_mem_cons.mpr ⟨sound, others⟩, filled, offends⟩

-- What was read before stands for the keys that none of the segments to come tells.
theorem pairs_told (read : readPairs filter (pieces segments) = .ok result) :
    (∀ segment ∈ segments, ¬ Blank segment → WellFormed segment) ∧
      ∀ key value, result.get? key = some value ↔ LastTells segments key value ∨
        filter.get? key = some value ∧ ∀ segment ∈ segments, ∀ value, ¬ Tells segment key value := by
  induction segments generalizing filter with
  | nil =>
      cases read
      simp [LastTells]
  | cons segment rest ih =>
      rcases segment_cases segment with blank | ⟨key', value', tells⟩ | ⟨filled, failure, offends⟩
      · rw [pieces_blank blank] at read
        obtain ⟨formed, told⟩ := ih read
        refine ⟨List.forall_mem_cons.mpr ⟨fun filled => absurd blank filled, formed⟩, fun key value => ?_⟩
        rw [told, last_tells_cons, List.forall_mem_cons]
        simp [blank_silent blank]
      · rw [pieces_tell tells] at read
        obtain ⟨formed, told⟩ := ih read
        have sound := well_formed_iff.mpr ⟨key', value', tells⟩
        refine ⟨List.forall_mem_cons.mpr ⟨fun _ => sound, formed⟩, fun key value => ?_⟩
        rw [told, last_tells_cons, List.forall_mem_cons, KeyMap.get_insert]
        by_cases same : key' = key
        · subst same
          have heard : ¬ ∀ value, ¬ Tells segment key' value := fun silent => silent value' tells
          have only : Tells segment key' value ↔ value' = value :=
            ⟨fun again => (tells_unique tells again).2, fun equal => equal ▸ tells⟩
          simp [heard, only]
        · have silent (value : String) : ¬ Tells segment key value := fun again => same (tells_unique tells again).1
          simp [same, silent]
      · rw [pieces_offend filled offends] at read
        cases read

theorem pairs_read (formed : ∀ segment ∈ segments, ¬ Blank segment → WellFormed segment) :
    ∃ result, readPairs filter (pieces segments) = .ok result := by
  induction segments generalizing filter with
  | nil => exact ⟨filter, rfl⟩
  | cons segment rest ih =>
      obtain ⟨first, others⟩ := List.forall_mem_cons.mp formed
      by_cases blank : Blank segment
      · rw [pieces_blank blank]
        exact ih others
      · obtain ⟨key, value, tells⟩ := well_formed_iff.mp (first blank)
        rw [pieces_tell tells]
        exact ih others

theorem pairs_refused : readPairs filter (pieces segments) = .error failure ↔ FirstOffends segments failure := by
  induction segments generalizing filter with
  | nil =>
      refine ⟨fun refused => (nomatch refused), ?_⟩
      rintro ⟨front, segment, back, split, -⟩
      simp at split
  | cons segment rest ih =>
      rw [first_offends_cons]
      rcases segment_cases segment with blank | ⟨key, value, tells⟩ | ⟨filled, other, offends⟩
      · rw [pieces_blank blank, ih]
        simp [blank]
      · rw [pieces_tell tells, ih]
        have quiet : ¬ Offends segment failure := fun offends => offends_silent offends tells
        simp [quiet, well_formed_iff.mpr ⟨key, value, tells⟩]
      · rw [pieces_offend filled offends]
        have told : Offends segment failure ↔ other = failure := by
          rw [offends_iff, offends_iff.mp offends]
          simp
        have unsound : ¬ WellFormed segment := fun formed => by
          obtain ⟨key, value, tells⟩ := well_formed_iff.mp formed
          exact offends_silent offends tells
        simp [filled, told, unsound]

end Texts

section Labels

variable {filter : LabelFilter} {labels : List (String × String)} {segment front back before after : List Char}
  {rest written : List (List Char)} {key value text : String}

theorem segment_plain (among : segment ∈ segments text) : ';' ∉ segment := by
  rw [segments, ← Net.split_at_char_eq] at among
  exact piece_plain among

theorem trims_filled {chars : List Char} (trims : Trims chars key.toList) (filled : ¬ Blank chars) : key ≠ "" := by
  rintro rfl
  exact filled (trim_nil_iff.mp (trim_iff.mpr trims))

theorem trims_within {chars : List Char} {c : Char} (trims : Trims chars key.toList) (absent : c ∉ chars) :
    c ∉ key.toList := by
  obtain ⟨-, front, back, -, -, rfl⟩ := trims
  simp only [List.mem_append, not_or] at absent
  exact absent.1.2

theorem tells_sayable (tells : Tells segment key value) (plain : ';' ∉ segment) : Sayable key value := by
  obtain ⟨before, after, rfl, first, filled, filled', keys, values⟩ := tells
  simp only [List.mem_append, List.mem_cons, not_or] at plain
  exact
    { filled := ⟨trims_filled keys filled, trims_filled values filled'⟩
      tight := ⟨keys.tight, values.tight⟩
      semicolons := ⟨trims_within keys plain.1, trims_within values plain.2.2⟩
      colons := trims_within keys first }

theorem blank_absent {chars : List Char} {c : Char} (blank : Blank chars) (solid : isBlank c = false) : c ∉ chars :=
  fun among => by simp [blank c among] at solid

theorem label_tells (sayable : Sayable key value) (around : Blank front ∧ Blank back ∧ Blank before ∧ Blank after) :
    Tells (front ++ key.toList ++ back ++ ':' :: (before ++ value.toList ++ after)) key value := by
  obtain ⟨leads, trails, leads', trails'⟩ := around
  have trims {text : String} (tight : Tight text.toList) {front back : List Char} (leads : Blank front)
      (trails : Blank back) : Trims (front ++ text.toList ++ back) text.toList :=
    ⟨tight, front, back, leads, trails, rfl⟩
  have filled {text : String} (present : text ≠ "") {chars : List Char} (trims : Trims chars text.toList) :
      ¬ Blank chars := by
    intro blank
    have same := (trim_iff.mpr trims).symm.trans (trim_nil_iff.mpr blank)
    exact present (String.toList_eq_nil_iff.mp same)
  have keys := trims sayable.tight.1 leads trails
  have values := trims sayable.tight.2 leads' trails'
  refine ⟨_, _, rfl, ?_, filled sayable.filled.1 keys, filled sayable.filled.2 values, keys, values⟩
  have solid : isBlank ':' = false := by decide
  simp [blank_absent leads solid, blank_absent trails solid, sayable.colons]

theorem written_read (writes : Written labels written) (sayable : ∀ label ∈ labels, Sayable label.1 label.2) :
    readPairs filter (pieces written) = .ok (labels.foldl (fun map label => map.insert label.1 label.2) filter) := by
  induction writes generalizing filter with
  | nil => rfl
  | blank blank _ ih =>
      rw [pieces_blank blank]
      exact ih sayable
  | label around _ ih =>
      obtain ⟨first, others⟩ := List.forall_mem_cons.mp sayable
      rw [pieces_tell (label_tells first around)]
      exact ih others

theorem written_plain (writes : Written labels written) (sayable : ∀ label ∈ labels, Sayable label.1 label.2) :
    ∀ segment ∈ written, ';' ∉ segment := by
  have solid : isBlank ';' = false := by decide
  induction writes with
  | nil => exact fun _ none => nomatch none
  | blank blank _ ih => exact List.forall_mem_cons.mpr ⟨blank_absent blank solid, ih sayable⟩
  | label around _ ih =>
      obtain ⟨first, others⟩ := List.forall_mem_cons.mp sayable
      obtain ⟨leads, trails, leads', trails'⟩ := around
      refine List.forall_mem_cons.mpr ⟨?_, ih others⟩
      simp [blank_absent leads solid, blank_absent trails solid, blank_absent leads' solid, blank_absent trails' solid,
        first.semicolons]

theorem parse_joined (plain : ∀ segment ∈ written, ';' ∉ segment) :
    parse (some (String.ofList (List.intercalate [';'] written))) = readPairs .empty (pieces written) := by
  rw [parse_segments, segments, String.toList_ofList]
  cases written with
  | nil => rfl
  | cons segment rest => rw [List.splitOn_intercalate ';' plain (List.cons_ne_nil segment rest)]

theorem parse_written (writes : Written labels written) (same : labels.Perm filter.entries)
    (sayable : ∀ label ∈ filter.entries, Sayable label.1 label.2) :
    parse (some (String.ofList (List.intercalate [';'] written))) = .ok filter := by
  have among : ∀ label ∈ labels, Sayable label.1 label.2 := fun label listed => sayable label (same.mem_iff.mp listed)
  rw [parse_joined (written_plain writes among), written_read writes among]
  exact congrArg Except.ok (Json.insert_all_perm filter same)

-- Every list of labels can be written down.
theorem labels_written (labels : List (String × String)) : ∃ written, Written labels written := by
  induction labels with
  | nil => exact ⟨[], .nil⟩
  | cons label labels ih =>
      obtain ⟨key, value⟩ := label
      obtain ⟨written, writes⟩ := ih
      exact ⟨_, .label ⟨blank_nil, blank_nil, blank_nil, blank_nil⟩ writes⟩

theorem parsed_iff : (∃ text, parse (some text) = .ok filter) ↔ ∀ label ∈ filter.entries, Sayable label.1 label.2 := by
  constructor
  · rintro ⟨text, read⟩ label listed
    rw [parse_segments] at read
    have told := ((pairs_told read).2 label.1 label.2).mp (KeyMap.get_iff_mem.mpr listed)
    rcases told with ⟨front, segment, back, split, tells, -⟩ | ⟨none, -⟩
    · have among : segment ∈ segments text := by
        simp [split]
      exact tells_sayable tells (segment_plain among)
    · cases none
  · intro sayable
    obtain ⟨written, writes⟩ := labels_written filter.entries
    exact ⟨_, parse_written writes (.refl _) sayable⟩

end Labels

theorem label_grammar :
    (∀ text : String,
      ((∃ filter, parse (some text) = .ok filter) ↔
        ∀ segment ∈ segments text, ¬ Blank segment → WellFormed segment) ∧
      (∀ filter, parse (some text) = .ok filter →
        ∀ key value, filter.get? key = some value ↔ LastTells (segments text) key value) ∧
      ∀ failure, parse (some text) = .error failure ↔ FirstOffends (segments text) failure) ∧
    ∀ filter : LabelFilter,
      ((∃ text, parse (some text) = .ok filter) ↔ ∀ label ∈ filter.entries, Sayable label.1 label.2) ∧
      ((∀ label ∈ filter.entries, Sayable label.1 label.2) →
        ∀ labels written, labels.Perm filter.entries → Written labels written →
          parse (some (String.ofList (List.intercalate [';'] written))) = .ok filter) := by
  constructor
  · intro text
    rw [parse_segments]
    refine ⟨⟨fun ⟨filter, read⟩ => (pairs_told read).1, pairs_read⟩, ?_, fun failure => pairs_refused⟩
    intro filter read key value
    rw [(pairs_told read).2]
    simp
  · exact fun filter => ⟨parsed_iff, fun sayable labels written same writes => parse_written writes same sayable⟩

def spaced : LabelFilter := { entries := [("env", "prod"), ("region", "eu:1")], ascending := by decide }

theorem spaced_sayable : ∀ label ∈ spaced.entries, Sayable label.1 label.2 := by
  intro label listed
  simp only [spaced, List.mem_cons, List.not_mem_nil, or_false] at listed
  rcases listed with rfl | rfl <;>
    exact
      { filled := by decide
        tight := ⟨tight_iff.mpr (by decide), tight_iff.mpr (by decide)⟩
        semicolons := by decide
        colons := by decide }

-- One filter in another order with blanks around its labels, and a text refused for its second segment.
theorem label_grammar_of_spaced :
    parse (some " region : eu:1 ;; env:prod ") = .ok spaced ∧
      parse (some "env:prod;tier;a:") =
        .error (.badRequest "invalid labels format, expected key:value;key2:value2") := by
  have space : Blank [' '] := List.forall_mem_singleton.mpr (by decide)
  have gap : Blank [] := blank_nil
  constructor
  · have written : Written [("region", "eu:1"), ("env", "prod")] [" region : eu:1 ".toList, [], " env:prod ".toList] :=
      .label ⟨space, space, space, space⟩ (.blank gap (.label ⟨space, gap, gap, space⟩ .nil))
    have order : [("region", "eu:1"), ("env", "prod")].Perm spaced.entries := by decide
    have joined : String.ofList (List.intercalate [';'] [" region : eu:1 ".toList, [], " env:prod ".toList]) =
        " region : eu:1 ;; env:prod " := by decide
    rw [← joined]
    exact (label_grammar.2 spaced).2 spaced_sayable _ _ order written
  · have split : segments "env:prod;tier;a:" = ["env:prod".toList] ++ "tier".toList :: ["a:".toList] := by
      rw [segments, ← Net.split_at_char_eq]
      decide
    have env := label_tells (spaced_sayable ("env", "prod") (by decide)) ⟨gap, gap, gap, gap⟩
    have front : ∀ segment ∈ ["env:prod".toList], Blank segment ∨ WellFormed segment :=
      List.forall_mem_singleton.mpr (.inr (well_formed_iff.mpr ⟨"env", "prod", env⟩))
    have filled : ¬ Blank "tier".toList := fun blank => absurd (blank 't' (by decide)) (by decide)
    exact ((label_grammar.1 _).2.2 _).mpr ⟨_, _, _, split, front, filled, .plain (by decide)⟩

end LabelFilter
end ConfigRegistry.Catalog
