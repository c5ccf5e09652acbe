import Mathlib.Data.List.Basic
import Mathlib.Data.List.TakeWhile
import Mathlib.Tactic.Conv
import ConfigRegistry.Text.Blank

set_option autoImplicit false

/-!
Cutting white space from both ends of a text. Main statement: what is cut is all the white space at either end and
nothing else.
-/
namespace ConfigRegistry.Text

def Blank (chars : List Char) : Prop := ∀ c ∈ chars, isBlank c = true

-- No white space at either end.
def Tight (chars : List Char) : Prop := ∀ c, chars.head? = some c ∨ chars.getLast? = some c → isBlank c = false

-- What is left of a text without the white space at its ends.
structure Trims (chars core : List Char) : Prop where
  tight : Tight core
  padded : ∃ front back, Blank front ∧ Blank back ∧ chars = front ++ core ++ back

section Trimming

variable {chars core front back before after : List Char} {mark : Char}

theorem blank_nil : Blank [] := fun _ none => nomatch none

theorem blank_append (first : Blank front) (second : Blank back) : Blank (front ++ back) := fun c among =>
  (List.mem_append.mp among).elim (first c) (second c)

theorem blank_reverse (blank : Blank chars) : Blank chars.reverse := fun c among => blank c (List.mem_reverse.mp among)

theorem take_blank (chars : List Char) : Blank (chars.takeWhile isBlank) := fun _ among => List.mem_takeWhile_imp among

theorem drop_blank (blank : Blank front) : (front ++ chars).dropWhile isBlank = chars.dropWhile isBlank :=
  List.dropWhile_append_of_pos blank

theorem drop_mark (solid : isBlank mark = false) :
    (before ++ mark :: after).dropWhile isBlank = before.dropWhile isBlank ++ mark :: after := by
  induction before with
  | nil => exact List.dropWhile_cons_of_neg (by simp [solid])
  | cons c rest ih =>
      by_cases blank : isBlank c = true
      · simp only [List.cons_append, List.dropWhile_cons_of_pos blank]
        exact ih
      · simp only [List.cons_append, List.dropWhile_cons_of_neg blank]

theorem drop_head {c : Char} (head : (chars.dropWhile isBlank).head? = some c) : isBlank c = false := by
  have stops := List.head?_dropWhile_not isBlank chars
  rw [head] at stops
  exact stops

theorem trim_of_trims (trims : Trims chars core) : trimChars chars = core := by
  obtain ⟨tight, front, back, leads, trails, rfl⟩ := trims
  cases core with
  | nil =>
      have none : (front ++ [] ++ back).dropWhile isBlank = [] :=
        List.dropWhile_eq_nil_iff.mpr (blank_append (blank_append leads blank_nil) trails)
      rw [trimChars, trimWhere, none]
      rfl
  | cons c rest =>
      have starts : (front ++ c :: rest ++ back).dropWhile isBlank = c :: rest ++ back := by
        rw [List.append_assoc, drop_blank leads, List.cons_append]
        exact List.dropWhile_cons_of_neg (by simp [tight c (.inl rfl)])
      obtain ⟨init, last, ends⟩ : ∃ init last, c :: rest = init ++ [last] :=
        ⟨_, _, (List.dropLast_append_getLast (List.cons_ne_nil c rest)).symm⟩
      have solid : isBlank last = false := tight last (.inr (by rw [ends]; simp))
      have stops : (c :: rest ++ back).reverse.dropWhile isBlank = (c :: rest).reverse := by
        rw [List.reverse_append, drop_blank (blank_reverse trails), ends, List.reverse_append]
        exact List.dropWhile_cons_of_neg (by simp [solid])
      rw [trimChars, trimWhere, starts, stops, List.reverse_reverse]

theorem trims_trim (chars : List Char) : Trims chars (trimChars chars) := by
  let rest := chars.dropWhile isBlank
  let tail := rest.reverse.dropWhile isBlank
  let back := (rest.reverse.takeWhile isBlank).reverse
  have ends : tail.reverse ++ back = rest := by
    rw [← List.reverse_append, List.takeWhile_append_dropWhile, List.reverse_reverse]
  refine ⟨?_, chars.takeWhile isBlank, back, take_blank chars, blank_reverse (take_blank _), ?_⟩
  · rintro c (head | last)
    · have starts : (chars.dropWhile isBlank).head? = some c := by
        change rest.head? = some c
        rw [← ends, List.head?_append, show tail.reverse.head? = some c from head]
        rfl
      exact drop_head starts
    · have stops : (rest.reverse.dropWhile isBlank).head? = some c := by
        simpa [trimChars, trimWhere] using last
      exact drop_head stops
  · change chars = _ ++ tail.reverse ++ back
    rw [List.append_assoc, ends, List.takeWhile_append_dropWhile]

theorem trim_iff : trimChars chars = core ↔ Trims chars core :=
  ⟨fun same => same ▸ trims_trim chars, trim_of_trims⟩

theorem trim_padded (leads : Blank front) (trails : Blank back) :
    trimChars (front ++ chars ++ back) = trimChars chars := by
  obtain ⟨tight, front', back', leads', trails', same⟩ := trims_trim chars
  have wider : front ++ chars ++ back = (front ++ front') ++ trimChars chars ++ (back' ++ back) := by
    conv_lhs => rw [same]
    simp
  exact trim_of_trims ⟨tight, _, _, blank_append leads leads', blank_append trails' trails, wider⟩

theorem trim_nil_iff : trimChars chars = [] ↔ Blank chars := by
  rw [trim_iff]
  constructor
  · rintro ⟨-, front, back, leads, trails, rfl⟩
    exact blank_append (blank_append leads blank_nil) trails
  · intro blank
    exact ⟨fun c ends => by simp at ends, chars, [], blank, blank_nil, by simp⟩

theorem tight_iff : Tight chars ↔ trimChars chars = chars := by
  rw [trim_iff]
  exact ⟨fun tight => ⟨tight, [], [], blank_nil, blank_nil, by simp⟩, Trims.tight⟩

theorem trim_mark (solid : isBlank mark = false) :
    trimChars (before ++ mark :: after) =
      before.dropWhile isBlank ++ mark :: (after.reverse.dropWhile isBlank).reverse := by
  rw [trimChars, trimWhere, drop_mark solid, List.reverse_append, List.reverse_cons, List.append_assoc,
    List.singleton_append, drop_mark solid]
  simp

theorem trim_dropped (chars : List Char) : trimChars (chars.dropWhile isBlank) = trimChars chars := by
  calc trimChars (chars.dropWhile isBlank)
      = trimChars (chars.takeWhile isBlank ++ chars.dropWhile isBlank ++ []) :=
        (trim_padded (take_blank chars) blank_nil).symm
    _ = trimChars chars := by rw [List.append_nil, List.takeWhile_append_dropWhile]

theorem trim_dropped_last (chars : List Char) :
    trimChars (chars.reverse.dropWhile isBlank).reverse = trimChars chars := by
  calc trimChars (chars.reverse.dropWhile isBlank).reverse
      = trimChars ([] ++ (chars.reverse.dropWhile isBlank).reverse ++ (chars.reverse.takeWhile isBlank).reverse) :=
        (trim_padded blank_nil (blank_reverse (take_blank _))).symm
    _ = trimChars chars := by
        rw [List.nil_append, ← List.reverse_append, List.takeWhile_append_dropWhile, List.reverse_reverse]

theorem piece_plain {piece : List Char} (among : piece ∈ splitAtChar mark chars) : mark ∉ piece := by
  induction chars generalizing piece with
  | nil =>
      cases List.mem_singleton.mp among
      exact List.not_mem_nil
  | cons c rest ih =>
      rw [splitAtChar] at among
      split at among
      · cases List.mem_singleton.mp among
        exact List.not_mem_nil
      · rename_i first others split
        rw [split] at ih
        split at among
        · rcases List.mem_cons.mp among with rfl | later
          · exact List.not_mem_nil
          · exact ih later
        · rename_i differs
          rcases List.mem_cons.mp among with rfl | later
          · exact fun inside => (List.mem_cons.mp inside).elim (fun same => differs same.symm) (ih List.mem_cons_self)
          · exact ih (List.mem_cons_of_mem _ later)

end Trimming
end ConfigRegistry.Text
