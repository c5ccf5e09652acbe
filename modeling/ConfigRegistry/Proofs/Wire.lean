import ConfigRegistry.Proofs.Rendering
import ConfigRegistry.Store.Wire

set_option autoImplicit false

/-!
Commands and replies on a connection. Main statements: a command and a plain reply are read back from the bytes that
were written for them, whatever bytes are in them; and what is read does not hang on what comes later, so that a reply
that was cut off is no reply.
-/
namespace ConfigRegistry.Store.Wire

open Text (toBytes to_bytes_append ofBytes? of_bytes_to_bytes)

section Lines

variable {line : Bytes}

theorem line_read (plain : 13 ∉ line) (rest : Bytes) : line? (line ++ lineEnd ++ rest) = some (line, rest) := by
  induction line with
  | nil => rfl
  | cons byte line ih =>
      have other : byte ≠ 13 := fun same => plain (same ▸ List.mem_cons_self)
      rw [List.cons_append, List.cons_append, line?, if_neg fun ends => other ends.1,
        ih fun among => plain (List.mem_cons_of_mem _ among)]
      rfl

theorem text_line {text : String} (plain : 13 ∉ toBytes text) (rest : Bytes) :
    line? (lineOf text ++ rest) = some (toBytes text, rest) := line_read plain rest

end Lines

section Numbers

theorem digit_of_to_digits {n : Nat} {c : Char} (among : c ∈ Nat.toDigits 10 n) : c.isDigit = true :=
  Nat.isDigit_of_mem_toDigits (by decide) (by decide) among

theorem natural_read (n : Nat) : natural? (Nat.toDigits 10 n) = some n := by
  have digital : (Nat.toDigits 10 n).all Char.isDigit = true := List.all_eq_true.mpr fun _ => digit_of_to_digits
  rw [natural?, if_pos ⟨Nat.toDigits_ne_nil, digital⟩, Nat.ofDigitChars_ten_toDigits]

-- A negative number is written with a sign before its digits.
theorem number_letters (value : Int) : (toString value).toList =
    match value with
    | .ofNat n => Nat.toDigits 10 n
    | .negSucc n => '-' :: Nat.toDigits 10 (n + 1) := by
  cases value with
  | ofNat n =>
      change (toString n).toList = _
      rw [Nat.toString_eq_ofList_toDigits, String.toList_ofList]
  | negSucc n =>
      change ("-" ++ toString (n + 1)).toList = _
      rw [String.toList_append, Nat.toString_eq_ofList_toDigits, String.toList_ofList]
      simp

theorem number_read (value : Int) : number? (toBytes (toString value)) = some value := by
  rw [number?, of_bytes_to_bytes, Option.bind_some, number_letters]
  cases value with
  | ofNat n =>
      dsimp only
      split
      · rename_i digits same
        have sign := digit_of_to_digits (n := n) (same ▸ List.mem_cons_self)
        exact absurd sign (by decide)
      · rw [natural_read]
        rfl
  | negSucc n =>
      dsimp only
      change (natural? (Nat.toDigits 10 (n + 1))).map Int.negOfNat = _
      rw [natural_read]
      rfl

theorem number_plain (value : Int) : 13 ∉ toBytes (toString value) := by
  have letters : ∀ c ∈ (toString value).toList, c = '-' ∨ c.isDigit = true := by
    intro c among
    rw [number_letters] at among
    cases value with
    | ofNat n => exact .inr (digit_of_to_digits among)
    | negSucc n =>
        rcases List.mem_cons.mp among with sign | digit
        · exact .inl sign
        · exact .inr (digit_of_to_digits digit)
  have small : ∀ c ∈ (toString value).toList, 45 ≤ c.toNat ∧ c.toNat ≤ 57 := by
    intro c among
    rcases letters c among with rfl | digit
    · decide
    · obtain ⟨low, high⟩ := Json.digit_bounds digit
      omega
  rw [← String.ofList_toList (s := toString value), Json.ascii_bytes fun c among => by
    have bounds := small c among
    omega]
  intro among
  obtain ⟨c, present, same⟩ := List.mem_map.mp among
  have bounds := small c present
  have codes := congrArg UInt8.toNat same
  rw [UInt8.toNat_ofNat'] at codes
  change c.toNat % 256 = 13 at codes
  omega

end Numbers

section Commands

theorem marked_line {mark : Char} (small : mark.toNat ≤ 127) (text : String) :
    lineOf (String.singleton mark ++ text) = mark.toUInt8 :: lineOf text := by
  have ascii : ∀ c ∈ [mark], c.toNat ≤ 127 := by simpa using small
  have first : toBytes (String.singleton mark) = [mark.toUInt8] := Json.ascii_bytes ascii
  rw [lineOf, to_bytes_append, first]
  rfl

theorem counted_read (mark : Char) (small : mark.toNat ≤ 127) (value : Int) (rest : Bytes) :
    counted? mark (lineOf (String.singleton mark ++ toString value) ++ rest) = some (value, rest) := by
  rw [marked_line small, List.cons_append, counted?, if_pos List.head?_cons, List.tail_cons,
    text_line (number_plain value) rest]
  rw [Option.bind_some, number_read]
  rfl

theorem text_read (text rest : Bytes) : text? text.length (text ++ lineEnd ++ rest) = some (text, rest) := by
  have ends : (text ++ lineEnd ++ rest).drop text.length = lineEnd ++ rest := by
    rw [List.append_assoc, List.drop_left]
  have later : (text ++ lineEnd ++ rest).drop (text.length + 2) = rest := by
    rw [← List.drop_drop, ends]
    rfl
  rw [text?, if_pos (by rw [ends]; rfl), later, List.append_assoc, List.take_left]

theorem many_read {α : Type} {one : Bytes → Option (α × Bytes)} {write : α → Bytes} (items : List α)
    (reads : ∀ item ∈ items, ∀ rest, one (write item ++ rest) = some (item, rest)) (rest : Bytes) :
    many? one items.length (items.flatMap write ++ rest) = some (items, rest) := by
  induction items with
  | nil => rfl
  | cons item items ih =>
      rw [List.flatMap_cons, List.append_assoc, List.length_cons, many?, reads item List.mem_cons_self,
        Option.bind_some, ih fun other among => reads other (List.mem_cons_of_mem _ among)]
      rfl

def wordBytes (word : Bytes) : Bytes := lineOf ("$" ++ toString word.length) ++ word ++ lineEnd

theorem word_read (word rest : Bytes) : word? (wordBytes word ++ rest) = some (word, rest) := by
  rw [wordBytes, List.append_assoc, List.append_assoc, word?]
  have counts := counted_read '$' (by decide) word.length (word ++ (lineEnd ++ rest))
  rw [show "$" ++ toString word.length = String.singleton '$' ++ toString (word.length : Int) from rfl, counts,
    Option.bind_some, Int.toNat_natCast, ← List.append_assoc, text_read]

theorem command_read (words : List Bytes) : command? (Remote.wire words) = some (words, []) := by
  have written : Remote.wire words = lineOf ("*" ++ toString words.length) ++ (words.flatMap wordBytes ++ []) := by
    have line (text : String) : toBytes (text ++ "\r\n") = lineOf text := to_bytes_append text "\r\n"
    rw [Remote.wire, List.append_nil, line]
    exact congrArg _ (congrArg (words.flatMap ·) (funext fun word => by rw [line]; rfl))
  have counts := counted_read '*' (by decide) words.length (words.flatMap wordBytes ++ [])
  rw [written, command?,
    show "*" ++ toString words.length = String.singleton '*' ++ toString (words.length : Int) from rfl, counts,
    Option.bind_some, Int.toNat_natCast]
  exact many_read words (fun word _ => word_read word) []

end Commands

section Replies

-- A reply of one line or one text.
def Plain : Reply → Prop
  | .status text | .error text => 13 ∉ toBytes text
  | .array _ => False
  | _ => True

theorem reply_line (mark : Char) (small : mark.toNat ≤ 127) {text : String} (plain : 13 ∉ toBytes text) (depth : Nat)
    (rest : Bytes) : reply? (depth + 1) (lineOf (String.singleton mark ++ text) ++ rest) =
      content? (reply? depth) mark.toUInt8 (toBytes text) rest := by
  rw [marked_line small, List.cons_append, reply?, text_line plain]
  rfl

theorem reply_read {reply : Reply} (plain : Plain reply) (depth : Nat) (rest : Bytes) :
    reply? (depth + 1) (written reply ++ rest) = some (reply, rest) := by
  cases reply with
  | status text =>
      have read := reply_line '+' (by decide) plain depth rest
      rw [content?, if_pos rfl, of_bytes_to_bytes] at read
      exact read
  | error text =>
      have read := reply_line '-' (by decide) plain depth rest
      rw [content?, if_neg (by decide), if_pos rfl, of_bytes_to_bytes] at read
      exact read
  | integer value =>
      have read := reply_line ':' (by decide) (number_plain value) depth rest
      rw [content?, if_neg (by decide), if_neg (by decide), if_pos rfl, number_read] at read
      exact read
  | bulk value =>
      have read := reply_line '$' (by decide) (number_plain value.length) depth (value ++ lineEnd ++ rest)
      have unsigned : ¬ (value.length : Int) < 0 := by omega
      rw [content?, if_neg (by decide), if_neg (by decide), if_neg (by decide), if_pos rfl, number_read,
        Option.bind_some, if_neg unsigned, Int.toNat_natCast, text_read] at read
      rw [written, List.append_assoc, List.append_assoc, ← List.append_assoc value]
      exact read
  | nil =>
      have read := reply_line '$' (by decide) (number_plain (-1)) depth rest
      rw [content?, if_neg (by decide), if_neg (by decide), if_neg (by decide), if_pos rfl, number_read] at read
      exact read
  | array items => exact plain.elim

end Replies

-- What was read is read just so when more has come.
def Lasts {α : Type} (read : Bytes → Option (α × Bytes)) : Prop :=
  ∀ bytes found rest, read bytes = some (found, rest) → ∀ more, read (bytes ++ more) = some (found, rest ++ more)

section Later

variable {α β : Type} {one other : Bytes → Option (α × Bytes)}

theorem said_lasts (value : α) : Lasts fun bytes => some (value, bytes) := by
  intro bytes found rest read more
  cases read
  rfl

theorem given_lasts (f : α → β) (given : Option α) : Lasts fun bytes => given.map fun value => (f value, bytes) := by
  cases given with
  | none => exact fun _ _ _ read => nomatch read
  | some value => exact said_lasts (f value)

theorem map_lasts (f : α → β) (lasts : Lasts one) :
    Lasts fun bytes => (one bytes).map fun found => (f found.1, found.2) := by
  intro bytes found rest read more
  obtain ⟨⟨value, later⟩, goes, same⟩ := Option.map_eq_some_iff.mp read
  cases same
  change Option.map _ (one (bytes ++ more)) = _
  rw [lasts _ _ _ goes more]
  rfl

theorem bind_lasts {next : α → Bytes → Option (β × Bytes)} (lasts : Lasts one) (rest : ∀ value, Lasts (next value)) :
    Lasts fun bytes => (one bytes).bind fun found => next found.1 found.2 := by
  intro bytes found last read more
  obtain ⟨⟨value, later⟩, goes, follows⟩ := Option.bind_eq_some_iff.mp read
  change Option.bind (one (bytes ++ more)) _ = _
  rw [lasts _ _ _ goes more]
  exact rest value _ _ _ follows more

theorem either_lasts {p : Prop} [Decidable p] (first : Lasts one) (second : Lasts other) :
    Lasts fun bytes => if p then one bytes else other bytes := by
  by_cases holds : p
  · simpa only [if_pos holds] using first
  · simpa only [if_neg holds] using second

theorem none_lasts : Lasts fun _ => (none : Option (α × Bytes)) := fun _ _ _ read => nomatch read

theorem line_lasts : Lasts line? := by
  intro bytes
  induction bytes with
  | nil => exact fun _ _ read => nomatch read
  | cons byte bytes ih =>
      intro found rest read more
      rw [line?] at read
      rw [List.cons_append, line?]
      by_cases ends : byte = 13 ∧ bytes.head? = some 10
      · rw [if_pos ends] at read
        cases read
        obtain ⟨tail, rfl⟩ : ∃ tail, bytes = 10 :: tail := List.head?_eq_some_iff.mp ends.2
        rw [if_pos ⟨ends.1, rfl⟩]
        rfl
      · rw [if_neg ends] at read
        obtain ⟨⟨line, later⟩, goes, same⟩ := Option.map_eq_some_iff.mp read
        cases same
        have still : ¬ (byte = 13 ∧ (bytes ++ more).head? = some 10) := by
          cases bytes with
          | nil => exact nomatch goes
          | cons => exact ends
        rw [if_neg still, ih line later goes more]
        rfl

theorem text_lasts (length : Nat) : Lasts (text? length) := by
  intro bytes found rest read more
  rw [text?] at read
  split at read
  · rename_i ends
    cases read
    have long : length + 2 ≤ bytes.length := by
      have taken := congrArg List.length ends
      simp only [List.length_take, List.length_drop, lineEnd, List.length_cons, List.length_nil] at taken
      omega
    have front : ((bytes ++ more).drop length).take 2 = lineEnd := by
      have later : 2 ≤ (bytes.drop length).length := by
        rw [List.length_drop]
        omega
      rw [List.drop_append_of_le_length (by omega), List.take_append_of_le_length later, ends]
    rw [text?, if_pos front, List.take_append_of_le_length (by omega), List.drop_append_of_le_length long]
  · cases read

theorem many_lasts (lasts : Lasts one) (count : Nat) : Lasts (many? one count) := by
  induction count with
  | zero => exact said_lasts []
  | succ count ih => exact bind_lasts lasts fun first => map_lasts (first :: ·) ih

theorem content_lasts {item : Reader} (lasts : Lasts item) (mark : UInt8) (line : Bytes) :
    Lasts (content? item mark line) := by
  refine either_lasts ?_ (either_lasts ?_ (either_lasts ?_ (either_lasts ?_ (either_lasts ?_ none_lasts))))
  · exact given_lasts Reply.status (ofBytes? line)
  · exact given_lasts Reply.error (ofBytes? line)
  · exact given_lasts Reply.integer (number? line)
  · cases number? line with
    | none => exact none_lasts
    | some length => exact either_lasts (said_lasts Reply.nil) (map_lasts _ (text_lasts _))
  · cases number? line with
    | none => exact none_lasts
    | some count => exact either_lasts (said_lasts Reply.nil) (map_lasts _ (many_lasts lasts _))

theorem reply_lasts (depth : Nat) : Lasts (reply? depth) := by
  induction depth with
  | zero => exact none_lasts
  | succ depth ih =>
      intro bytes found rest read more
      cases bytes with
      | nil => exact nomatch read
      | cons mark bytes => exact bind_lasts line_lasts (content_lasts ih mark) bytes found rest read more

-- Of a reply that was read to its end no part is a reply.
theorem part_unread {depth : Nat} {whole part : Bytes} {reply : Reply} (read : reply? depth whole = some (reply, []))
    (begins : part <+: whole) (short : part ≠ whole) : reply? depth part = none := by
  obtain ⟨more, rfl⟩ := begins
  cases early : reply? depth part with
  | none => rfl
  | some found =>
      have later := reply_lasts depth _ _ _ early more
      rw [read, Option.some.injEq, Prod.mk.injEq] at later
      have nothing : more = [] := (List.append_eq_nil_iff.mp later.2.symm).2
      exact absurd (by rw [nothing, List.append_nil]) short

end Later

-- A reader that gives plain replies back as they were written and waits for what is missing of them.
structure Faithful (read : Reader) : Prop where
  whole : ∀ reply, Plain reply → ∀ rest, read (written reply ++ rest) = some (reply, rest)
  broken : ∀ reply, Plain reply → ∀ part, part <+: written reply → part ≠ written reply → read part = none

theorem reply_faithful (depth : Nat) : Faithful (reply? (depth + 1)) where
  whole _ plain rest := reply_read plain depth rest
  broken reply plain part begins short := by
    have read := reply_read plain depth []
    rw [List.append_nil] at read
    exact part_unread read begins short

end ConfigRegistry.Store.Wire
