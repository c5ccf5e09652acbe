import Mathlib.Data.List.Basic
import Mathlib.Data.Nat.Init
import ConfigRegistry.Net.Address

set_option autoImplicit false

/-!
The texts of hosts. Main statement: a host is read back from its text, so different hosts have different texts.
-/
namespace ConfigRegistry.Net

open Text (splitAtChar hexDigits)

theorem split_at_char_eq (mark : Char) (chars : List Char) : splitAtChar mark chars = chars.splitOn mark := by
  induction chars with
  | nil => rw [splitAtChar, List.splitOn_nil]
  | cons c rest ih =>
      rw [splitAtChar, ih, List.splitOn_eq_splitOnP, List.splitOn_eq_splitOnP, List.splitOnP_cons_eq_if_modifyHead]
      cases split : rest.splitOnP (· == mark) with
      | nil => exact absurd split (List.splitOnP_ne_nil _ _)
      | cons piece pieces => by_cases same : c = mark <;> simp [same]

theorem split_plain {mark : Char} {chars : List Char} (plain : mark ∉ chars) : splitAtChar mark chars = [chars] := by
  have parts : ∀ piece ∈ [chars], mark ∉ piece := by
    simpa using plain
  rw [split_at_char_eq, ← List.splitOn_intercalate mark parts (by simp), List.intercalate_singleton]

section Digits

variable {base n : Nat} {c : Char}

theorem digit_of_mem (large : 1 < base) (among : c ∈ Nat.toDigits base n) : ∃ digit < base, c = digit.digitChar := by
  induction n using Nat.strong_induction_on with
  | _ n ih =>
      rw [Nat.toDigits_eq_if large] at among
      split at among
      · rename_i small
        exact ⟨n, small, List.mem_singleton.mp among⟩
      · rename_i big
        rcases List.mem_append.mp among with front | last
        · exact ih (n / base) (Nat.div_lt_self (by omega) large) front
        · exact ⟨n % base, Nat.mod_lt n (by omega), List.mem_singleton.mp last⟩

theorem digits_plain (large : 1 < base) (bound : base ≤ 16) (n : Nat) :
    ':' ∉ Nat.toDigits base n ∧ '.' ∉ Nat.toDigits base n := by
  have other : ∀ digit < 16, ':' ≠ digit.digitChar ∧ '.' ≠ digit.digitChar := by decide
  constructor <;> intro among
  · obtain ⟨digit, small, same⟩ := digit_of_mem large among
    exact (other digit (by omega)).1 same
  · obtain ⟨digit, small, same⟩ := digit_of_mem large among
    exact (other digit (by omega)).2 same

theorem octet_reads (octet : UInt8) : octet? (Nat.toDigits 10 octet.toNat) = some octet := by
  have reads : ∀ n < 256, octet? (Nat.toDigits 10 n) = some (UInt8.ofNat n) := by decide +kernel
  rw [reads octet.toNat octet.toNat_lt, UInt8.ofNat_toNat]

theorem hex_digits_fold (n : Nat) :
    (hexDigits n).foldlM (fun n c => (hexDigit? c).map (n * 16 + ·)) 0 = some n := by
  have reads : ∀ digit < 16, hexDigit? digit.digitChar = some digit := by decide
  induction n using Nat.strong_induction_on with
  | _ n ih =>
      rw [hexDigits, Nat.toDigits_eq_if (by decide)]
      split
      · rename_i small
        simp [reads n small]
      · rename_i big
        have front := ih (n / 16) (Nat.div_lt_self (by omega) (by decide))
        rw [hexDigits] at front
        rw [List.foldlM_append, front]
        simp [reads (n % 16) (Nat.mod_lt n (by decide))]
        omega

theorem group_reads (group : UInt16) : group? (hexDigits group.toNat) = some group := by
  have short : (hexDigits group.toNat).length ≤ 4 :=
    (Nat.length_toDigits_le_iff (by decide) (by decide)).mpr group.toNat_lt
  have filled : hexDigits group.toNat ≠ [] := Nat.toDigits_ne_nil
  rw [group?, if_neg (by simp [filled, short]), hex_digits_fold, Option.map_some, UInt16.ofNat_toNat]

end Digits

section Quads

variable (a b c d : UInt8)

theorem quad_text_list : (quadText a b c d).toList =
    List.intercalate ['.'] ([a, b, c, d].map fun octet => Nat.toDigits 10 octet.toNat) := by
  have shown (octet : UInt8) : (toString octet).toList = Nat.toDigits 10 octet.toNat := String.toList_ofList
  simp [quadText, List.intercalate, shown]

theorem quad_reads : quad? (quadText a b c d).toList = some (a, b, c, d) := by
  have split : splitAtChar '.' (quadText a b c d).toList =
      [a, b, c, d].map fun octet => Nat.toDigits 10 octet.toNat := by
    rw [split_at_char_eq, quad_text_list]
    apply List.splitOn_intercalate
    · intro piece listed
      obtain ⟨octet, -, rfl⟩ := List.mem_map.mp listed
      exact (digits_plain (by decide) (by decide) _).2
    · simp
  rw [quad?, split]
  simp [octet_reads]

theorem quad_plain : ':' ∉ (quadText a b c d).toList := by
  have plain (n : Nat) : ':' ∉ Nat.toDigits 10 n := (digits_plain (by decide) (by decide) n).1
  simp [quad_text_list, List.intercalate, plain]

theorem quad_dotted : (quadText a b c d).toList.contains '.' = true := by
  simp [quad_text_list, List.intercalate]

end Quads

section Gaps

variable {pieces : List (List Char)} {piece rest : List Char}

theorem split_gap_plain (plain : ':' ∉ piece) (rest : List Char) :
    splitGap (piece ++ rest) = (splitGap rest).map fun sides => (piece ++ sides.1, sides.2) := by
  induction piece with
  | nil => simp
  | cons c piece ih =>
      have other : c ≠ ':' := fun same => plain (same ▸ List.mem_cons_self)
      rw [List.cons_append, splitGap, ih fun among => plain (List.mem_cons_of_mem _ among), Option.map_map]
      · rfl
      · intro more colon
        exact absurd colon other

theorem split_gap_colon {c : Char} (other : c ≠ ':') :
    splitGap (':' :: c :: rest) = (splitGap (c :: rest)).map fun sides => (':' :: sides.1, sides.2) := by
  rw [splitGap]
  intro more _ same
  exact other (List.cons.inj same).1

theorem intercalate_cons {first second : List Char} :
    List.intercalate [':'] (first :: second :: pieces) = first ++ ':' :: List.intercalate [':'] (second :: pieces) := by
  simp [List.intercalate]

-- Pieces with something in them, and no colon, leave no gap between them.
theorem split_gap_pieces (filled : ∀ piece ∈ pieces, piece ≠ [] ∧ ':' ∉ piece) (rest : List Char)
    (begins : pieces = [] ∨ rest = [] ∨ ∃ more, rest = ':' :: ':' :: more) :
    splitGap (List.intercalate [':'] pieces ++ rest) =
      (splitGap rest).map fun sides => (List.intercalate [':'] pieces ++ sides.1, sides.2) := by
  induction pieces with
  | nil => simp
  | cons first pieces ih =>
      obtain ⟨⟨nonempty, plain⟩, others⟩ := List.forall_mem_cons.mp filled
      cases pieces with
      | nil =>
          rw [List.intercalate_singleton]
          exact split_gap_plain plain rest
      | cons second pieces =>
          have present : second ≠ [] := (others second (by simp)).1
          obtain ⟨c, more, same⟩ := List.exists_cons_of_ne_nil present
          have other : c ≠ ':' := by
            rintro rfl
            exact (others second (by simp)).2 (same ▸ List.mem_cons_self)
          have tail := ih others (begins.imp (fun none => nomatch none) id)
          have head : ∃ later, List.intercalate [':'] (second :: pieces) ++ rest = c :: later := by
            subst same
            cases pieces <;> exact ⟨_, rfl⟩
          obtain ⟨later, starts⟩ := head
          rw [intercalate_cons, List.append_assoc, split_gap_plain plain, List.cons_append, starts,
            split_gap_colon other, ← starts, tail]
          simp [Option.map_map, Function.comp_def]

end Gaps

section Groups

variable {groups : List UInt16}

def groupDigits (group : UInt16) : List Char := hexDigits group.toNat

theorem group_piece (group : UInt16) : groupDigits group ≠ [] ∧ ':' ∉ groupDigits group :=
  ⟨Nat.toDigits_ne_nil, (digits_plain (by decide) (by decide) group.toNat).1⟩

theorem group_dotless (group : UInt16) : '.' ∉ groupDigits group := (digits_plain (by decide) (by decide) group.toNat).2

theorem group_pieces (groups : List UInt16) : ∀ piece ∈ groups.map groupDigits, piece ≠ [] ∧ ':' ∉ piece := by
  intro piece listed
  obtain ⟨group, -, rfl⟩ := List.mem_map.mp listed
  exact group_piece group

theorem groups_read (groups : List UInt16) : groups? (groups.map groupDigits) = some groups := by
  induction groups with
  | nil => rfl
  | cons first groups ih =>
      have read : group? (groupDigits first) = some first := group_reads first
      cases groups with
      | nil =>
          rw [List.map_singleton, groups?, if_neg (by simpa using group_dotless first), read]
          rfl
      | cons second groups =>
          rw [List.map_cons] at ih
          rw [List.map_cons, List.map_cons, groups?, read, ih]
          · rfl
          · intro none
            exact nomatch none

theorem groups_text_list (groups : List UInt16) :
    (groupsText groups).toList = List.intercalate [':'] (groups.map groupDigits) := by
  have digits : groupDigits = fun group => hexDigits group.toNat := rfl
  simp [groupsText, digits, String.toList_intercalate, List.map_map, Function.comp_def]

theorem split_groups (nonempty : groups ≠ []) :
    splitAtChar ':' (groupsText groups).toList = groups.map groupDigits := by
  have plain : ∀ piece ∈ groups.map groupDigits, ':' ∉ piece := fun piece listed => (group_pieces groups piece listed).2
  rw [split_at_char_eq, groups_text_list]
  exact List.splitOn_intercalate ':' plain (by simpa using nonempty)

theorem side_reads (groups : List UInt16) : side? (groupsText groups).toList = some groups := by
  cases groups with
  | nil => rfl
  | cons first groups =>
      have nonempty : (groupsText (first :: groups)).toList.isEmpty = false := by
        have filled : groupDigits first ≠ [] := (group_piece first).1
        rw [groups_text_list]
        cases groups <;> simp [List.intercalate, filled]
      rw [side?, if_neg (by simp [nonempty]), split_groups (by simp), groups_read]

theorem take_zero_run {count : Nat} (within : count ≤ zeroRun groups) :
    groups.take count = List.replicate count 0 := by
  induction groups generalizing count with
  | nil =>
      obtain rfl : count = 0 := Nat.le_zero.mp within
      rfl
  | cons group groups ih =>
      cases count with
      | zero => rfl
      | succ count =>
          by_cases zero : group = 0
          · rw [zeroRun, List.takeWhile_cons_of_pos (by simpa using zero), List.length_cons] at within
            rw [List.take_succ_cons, ih (Nat.le_of_succ_le_succ within), zero, List.replicate_succ]
          · rw [zeroRun, List.takeWhile_cons_of_neg (by simpa using zero)] at within
            exact absurd within (Nat.not_succ_le_zero count)

theorem longest_zeros_run (groups : List UInt16) :
    (longestZeros groups).2 ≤ zeroRun (groups.drop (longestZeros groups).1) := by
  rw [longestZeros]
  apply List.foldlRecOn (motive := fun best : Nat × Nat => best.2 ≤ zeroRun (groups.drop best.1))
  · exact Nat.zero_le _
  · intro best run start _
    split
    · exact Nat.le_refl _
    · exact run

-- What is left out of the text is zeros, as many as there are.
theorem longest_zeros_split (groups : List UInt16) :
    groups.take (longestZeros groups).1 ++ List.replicate (longestZeros groups).2 0 ++
      groups.drop ((longestZeros groups).1 + (longestZeros groups).2) = groups := by
  have zeros := take_zero_run (longest_zeros_run groups)
  rw [← zeros, ← List.drop_drop, List.append_assoc, List.take_append_drop, List.take_append_drop]

end Groups

section Hosts

variable {groups head tail : List UInt16}

theorem groups_plain (groups : List UInt16) : '.' ∉ (groupsText groups).toList := by
  rw [groups_text_list]
  induction groups with
  | nil => simp [List.intercalate]
  | cons first groups ih =>
      have plain := group_dotless first
      cases groups with
      | nil => simpa [List.intercalate] using plain
      | cons second groups =>
          rw [List.map_cons, List.map_cons, intercalate_cons]
          rw [List.map_cons] at ih
          simp [plain, ih]

theorem split_gap_groups (head : List UInt16) (rest : List Char) :
    splitGap ((groupsText head).toList ++ ':' :: ':' :: rest) = some ((groupsText head).toList, rest) := by
  rw [groups_text_list, split_gap_pieces (group_pieces head) _ (.inr (.inr ⟨rest, rfl⟩)), splitGap]
  simp

theorem no_gap_groups (groups : List UInt16) : splitGap (groupsText groups).toList = none := by
  have plain := split_gap_pieces (group_pieces groups) [] (.inr (.inl rfl))
  rw [List.append_nil, ← groups_text_list] at plain
  rw [plain]
  rfl

theorem eight_to_list (groups : Vector UInt16 8) : eight? groups.toList = some groups :=
  dif_pos Vector.length_toList

theorem gap_text_reads {length : Nat} (long : 1 < length) (eight : head.length + length + tail.length = 8) :
    v6? (groupsText head ++ "::" ++ groupsText tail).toList = eight? (head ++ List.replicate length 0 ++ tail) := by
  have parts : (groupsText head ++ "::" ++ groupsText tail).toList =
      (groupsText head).toList ++ ':' :: ':' :: (groupsText tail).toList := by
    simp
  have left : 8 - head.length - tail.length = length := by omega
  rw [parts, v6?, split_gap_groups]
  simp only
  rw [if_neg (by simpa using groups_plain head), side_reads, side_reads]
  simp only [Option.bind_eq_bind, Option.bind_some]
  rw [if_pos (by omega), left]

theorem full_text_reads (nonempty : groups ≠ []) : v6? (groupsText groups).toList = eight? groups := by
  rw [v6?, no_gap_groups]
  simp only
  rw [split_groups nonempty, groups_read, Option.bind_some]

theorem pair_group_octets (group : UInt16) : pairGroup (group / 256).toUInt8 group.toUInt8 = group := by
  have bound := group.toNat_lt
  have whole : group.toNat / 256 % 256 * 256 + group.toNat % 256 = group.toNat := by omega
  apply UInt16.toNat_inj.mp
  simp [pairGroup, whole]

-- The one text of groups that ends in octets, behind the last colon.
theorem mapped_text_reads (a b c d : UInt8) :
    v6? ("::ffff:" ++ quadText a b c d).toList =
      eight? [0, 0, 0, 0, 0, 65535, pairGroup a b, pairGroup c d] := by
  have plain := quad_plain a b c d
  have dotted := quad_dotted a b c d
  have reads := quad_reads a b c d
  generalize quadText a b c d = quad at *
  have pieces : splitAtChar ':' ("ffff:".toList ++ quad.toList) = ["ffff".toList, quad.toList] := by
    have joined : "ffff:".toList ++ quad.toList = List.intercalate [':'] ["ffff".toList, quad.toList] := by
      simp [List.intercalate]
    rw [split_at_char_eq, joined]
    refine List.splitOn_intercalate ':' ?_ (by simp)
    rintro piece listed
    rcases List.mem_pair.mp listed with rfl | rfl
    · decide
    · exact plain
  have side : side? ("ffff:".toList ++ quad.toList) = some [65535, pairGroup a b, pairGroup c d] := by
    have word : group? "ffff".toList = some 65535 := by decide
    rw [side?, if_neg (by simp), pieces, groups?, word, groups?, if_pos dotted, reads]
    · simp
    · rintro ⟨⟩
  have parts : ("::ffff:" ++ quad).toList = ':' :: ':' :: ("ffff:".toList ++ quad.toList) := by
    simp
  rw [parts, v6?, splitGap]
  simp only
  rw [side]
  rfl

theorem v6_reads (groups : Vector UInt16 8) : v6? (Host.v6 groups).text.toList = some groups := by
  rw [← eight_to_list groups, Host.text]
  have eight : groups.toList.length = 8 := Vector.length_toList
  generalize groups.toList = groups at *
  by_cases mapped : ∃ x y, groups = [0, 0, 0, 0, 0, 65535, x, y]
  · obtain ⟨x, y, rfl⟩ := mapped
    rw [v6Text, mapped_text_reads, pair_group_octets, pair_group_octets]
  · have whole := longest_zeros_split groups
    have parts := congrArg List.length whole
    rw [v6Text]
    · simp only
      split
      · rename_i long
        rw [List.length_append, List.length_append, List.length_replicate] at parts
        rw [gap_text_reads long (parts.trans eight), whole]
      · refine full_text_reads ?_
        rintro rfl
        cases eight
    · rintro x y rfl
      exact mapped ⟨x, y, rfl⟩

-- Octets without groups are no text of groups.
theorem quad_no_groups (a b c d : UInt8) : v6? (quadText a b c d).toList = none := by
  have plain := quad_plain a b c d
  have gapless : splitGap (quadText a b c d).toList = none := by
    simpa [splitGap] using split_gap_plain plain []
  rw [v6?, gapless]
  simp only
  rw [split_plain plain, groups?, if_pos (quad_dotted a b c d), quad_reads]
  rfl

-- What a text says when it is read: groups if it can be read as such, else octets.
def hostOf? (text : String) : Option Host :=
  match v6? text.toList with
  | some groups => some (.v6 groups)
  | none => (quad? text.toList).map fun (a, b, c, d) => .v4 a b c d

theorem text_reads (host : Host) : hostOf? host.text = some host := by
  cases host with
  | v4 a b c d =>
      rw [hostOf?, Host.text, quad_no_groups, quad_reads]
      rfl
  | v6 groups => rw [hostOf?, v6_reads]

theorem text_injective {one other : Host} (same : one.text = other.text) : one = other :=
  Option.some.inj <| by rw [← text_reads one, ← text_reads other, same]

theorem text_not_unknown (host : Host) : host.text ≠ "unknown" := by
  intro same
  have reads := text_reads host
  have unread : hostOf? "unknown" = none := by decide
  rw [same, unread] at reads
  cases reads

end Hosts
end ConfigRegistry.Net
