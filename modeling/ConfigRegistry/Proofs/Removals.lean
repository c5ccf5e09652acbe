import ConfigRegistry.Proofs.Attending
import ConfigRegistry.Proofs.Hosts

set_option autoImplicit false

/-!
Removing entries by their ids. Main statement: what is removed from a group are the entries with the given id, and
the others stay as they are; where the clients give no id to two entries of one group this is one entry. Nothing
keeps them from it: of two entries with one id both are removed.
-/
namespace ConfigRegistry.Library

open Catalog
open Dedup (Desk)
open Http (Request Response)
open Service
open Session (Machine idText padLeft)
open Store (Memory)
open Throttle (Gate Amount)

section Ids

theorem padded_fold (width n : Nat) :
    (padLeft width (Text.hexDigits n)).foldlM (fun n c => (Net.hexDigit? c).map (n * 16 + ·)) 0 = some n := by
  have zeros (count : Nat) :
      (List.replicate count '0').foldlM (fun n c => (Net.hexDigit? c).map (n * 16 + ·)) 0 = some 0 := by
    induction count with
    | zero => rfl
    | succ count ih =>
        have zero : Net.hexDigit? '0' = some 0 := by decide
        rw [List.replicate_succ, List.foldlM_cons, zero]
        exact ih
  rw [padLeft, List.foldlM_append, zeros]
  exact Net.hex_digits_fold n

theorem id_text_injective {m n : Nat} (same : idText m = idText n) : m = n := by
  unfold idText at same
  have digits : padLeft 12 (Text.hexDigits m) = padLeft 12 (Text.hexDigits n) :=
    List.append_cancel_left (String.ofList_injective same)
  have read := padded_fold 12 m
  rw [digits, padded_fold] at read
  exact (Option.some.inj read).symm

-- An id that will not be given any more.
def Past (count : Nat) (id : String) : Prop := ∀ n, count < n → id ≠ idText n

variable {count later : Nat} {id : String} {entry : Entry} {entries : List Entry}

theorem past_later (past : Past count id) (grows : count ≤ later) : Past later id :=
  fun n after => past n (by omega)

theorem past_given {n : Nat} (given : n ≤ count) : Past count (idText n) := by
  intro m after same
  have equal := id_text_injective same
  omega

theorem past_short (short : id.length < 24) : Past count id := by
  intro n _ same
  rw [same] at short
  unfold idText at short
  rw [String.length_ofList, List.length_append] at short
  have front : "c0f19e57-0000-4000-8000-".toList.length = 24 := by decide
  omega

-- The ids that the client gives.
def brought (entries : List Entry) : List String := (entries.map Entry.id).filter fun id => id != ""

theorem number_id_run (id : String) (count : Nat) :
    (numberId id).run count = if id = "" then (idText (count + 1), count + 1) else (id, count) := by
  rw [numberId]
  by_cases blank : id = ""
  · rw [if_pos blank, if_pos blank]
    rfl
  · rw [if_neg blank, if_neg blank]
    rfl

theorem number_id_grows (id : String) (count : Nat) : count ≤ ((numberId id).run count).2 := by
  rw [number_id_run]
  split
  · exact Nat.le_succ count
  · exact Nat.le_refl count

theorem number_entry_id (entry : Entry) (count : Nat) :
    ((numberEntry entry).run count).1.id = ((numberId entry.id).run count).1 := rfl

theorem number_entry_grows (entry : Entry) (count : Nat) :
    ((numberId entry.id).run count).2 ≤ ((numberEntry entry).run count).2 :=
  number_id_grows entry.configuration.id _

-- An entry keeps the id that it brings, or it gets one that was not given before.
theorem number_entry_cases (entry : Entry) (count : Nat) :
    (entry.id ≠ "" ∧ ((numberEntry entry).run count).1.id = entry.id ∧ count ≤ ((numberEntry entry).run count).2) ∨
      (entry.id = "" ∧ ((numberEntry entry).run count).1.id = idText (count + 1) ∧
        count + 1 ≤ ((numberEntry entry).run count).2) := by
  have grows := number_entry_grows entry count
  rw [number_entry_id, number_id_run] at *
  by_cases blank : entry.id = ""
  · rw [if_pos blank] at *
    exact .inr ⟨blank, rfl, grows⟩
  · rw [if_neg blank] at *
    exact .inl ⟨blank, rfl, grows⟩

theorem number_entries_cons (entry : Entry) (entries : List Entry) (count : Nat) :
    ((entry :: entries).mapM numberEntry).run count =
      let first := (numberEntry entry).run count
      let rest := (entries.mapM numberEntry).run first.2
      (first.1 :: rest.1, rest.2) := by
  rw [List.mapM_cons]
  rfl

-- The ids of numbered entries, where no brought one is brought twice or still to be given.
theorem number_entries_ids (entries : List Entry) (count : Nat) (distinct : (brought entries).Nodup)
    (past : ∀ id ∈ brought entries, Past count id) :
    let given := (entries.mapM numberEntry).run count
    count ≤ given.2 ∧ (given.1.map Entry.id).Nodup ∧
      ∀ id ∈ given.1.map Entry.id, id ∈ brought entries ∨ ∃ n, count < n ∧ n ≤ given.2 ∧ id = idText n := by
  induction entries generalizing count with
  | nil => exact ⟨Nat.le_refl count, .nil, fun _ among => nomatch among⟩
  | cons entry entries ih =>
      rw [number_entries_cons]
      dsimp only
      rcases number_entry_cases entry count with ⟨brings, keeps, grows⟩ | ⟨blank, gets, grows⟩
      · have more : brought (entry :: entries) = entry.id :: brought entries :=
          List.filter_cons_of_pos (by simpa using brings)
        rw [more] at distinct past ⊢
        obtain ⟨unlike, distinct⟩ := List.nodup_cons.mp distinct
        obtain ⟨later, apart, sources⟩ := ih ((numberEntry entry).run count).2 distinct fun id among =>
          past_later (past id (List.mem_cons_of_mem _ among)) grows
        refine ⟨by omega, List.nodup_cons.mpr ⟨?_, apart⟩, ?_⟩
        · rw [keeps]
          intro among
          rcases sources _ among with same | ⟨n, after, -, same⟩
          · exact unlike same
          · exact past entry.id List.mem_cons_self n (by omega) same
        · intro id among
          rcases List.mem_cons.mp among with rfl | among
          · exact .inl (keeps ▸ List.mem_cons_self)
          · rcases sources id among with same | ⟨n, after, bound, same⟩
            · exact .inl (List.mem_cons_of_mem _ same)
            · exact .inr ⟨n, by omega, bound, same⟩
      · have more : brought (entry :: entries) = brought entries := List.filter_cons_of_neg (by simpa using blank)
        rw [more] at distinct past ⊢
        obtain ⟨later, apart, sources⟩ := ih ((numberEntry entry).run count).2 distinct fun id among =>
          past_later (past id among) (by omega)
        refine ⟨by omega, List.nodup_cons.mpr ⟨?_, apart⟩, ?_⟩
        · rw [gets]
          intro among
          rcases sources _ among with same | ⟨n, after, -, same⟩
          · exact past _ same (count + 1) (Nat.lt_succ_self count) rfl
          · have equal := id_text_injective same
            omega
        · intro id among
          rcases List.mem_cons.mp among with rfl | among
          · exact .inr ⟨count + 1, Nat.lt_succ_self count, by omega, gets⟩
          · rcases sources id among with same | ⟨n, after, bound, same⟩
            · exact .inl same
            · exact .inr ⟨n, by omega, bound, same⟩

-- No two entries have one id, and none has one that is still to be given.
def Tidy (count : Nat) (entries : List Entry) : Prop :=
  (entries.map Entry.id).Nodup ∧ ∀ id ∈ entries.map Entry.id, Past count id

theorem tidy_later (tidy : Tidy count entries) (grows : count ≤ later) : Tidy later entries :=
  ⟨tidy.1, fun id among => past_later (tidy.2 id among) grows⟩

theorem tidy_filter (tidy : Tidy count entries) (keep : Entry → Bool) : Tidy count (entries.filter keep) := by
  have fewer : (entries.filter keep).map Entry.id |>.Sublist (entries.map Entry.id) := List.filter_sublist.map _
  exact ⟨tidy.1.sublist fewer, fun id among => tidy.2 id (fewer.subset among)⟩

theorem tidy_numbered (distinct : (brought entries).Nodup) (past : ∀ id ∈ brought entries, Past count id) :
    Tidy ((entries.mapM numberEntry).run count).2 ((entries.mapM numberEntry).run count).1 := by
  obtain ⟨grows, apart, sources⟩ := number_entries_ids entries count distinct past
  refine ⟨apart, fun id among => ?_⟩
  rcases sources id among with brings | ⟨n, -, bound, rfl⟩
  · exact past_later (past id brings) grows
  · exact past_given bound

theorem tidy_append (tidy : Tidy count entries)
    (fresh : entry.id ≠ "" → Past count entry.id ∧ entry.id ∉ entries.map Entry.id) :
    Tidy ((numberEntry entry).run count).2 (entries ++ [((numberEntry entry).run count).1]) := by
  have growing : count ≤ ((numberEntry entry).run count).2 ∧
      ((numberEntry entry).run count).1.id ∉ entries.map Entry.id ∧
      Past ((numberEntry entry).run count).2 ((numberEntry entry).run count).1.id := by
    rcases number_entry_cases entry count with ⟨brings, keeps, grows⟩ | ⟨blank, gets, grows⟩
    · rw [keeps]
      exact ⟨grows, (fresh brings).2, past_later (fresh brings).1 grows⟩
    · rw [gets]
      exact ⟨by omega, fun among => tidy.2 _ among (count + 1) (Nat.lt_succ_self count) rfl, past_given grows⟩
  obtain ⟨grows, unlike, past'⟩ := growing
  rw [Tidy, List.map_append, List.map_singleton]
  constructor
  · exact List.nodup_append.mpr ⟨tidy.1, List.nodup_singleton _, fun id old other new same =>
      unlike (by rwa [← List.mem_singleton.mp new, ← same])⟩
  · intro id among
    rcases List.mem_append.mp among with old | new
    · exact past_later (tidy.2 id old) grows
    · cases List.mem_singleton.mp new
      exact past'

end Ids

section Groups

variable {library : Library}

def Distinct (library : Library) : Prop :=
  ∀ name version (group : Group), library.items.lookup ⟨.group, name, version⟩ = some group →
    Tidy library.ids group.entries

-- An order that brings no id twice, and none that its group has already or that is still to be given.
def Fair (library : Library) : Order → Prop
  | .create .group group =>
      (brought (Group.entries group)).Nodup ∧ ∀ id ∈ brought (Group.entries group), Past library.ids id
  | .add name version entry => entry.id ≠ "" →
      Past library.ids entry.id ∧ ∀ group : Group, library.items.lookup ⟨.group, name, version⟩ = some group →
        entry.id ∉ group.entries.map Entry.id
  | _ => True

def Considerate : Library → List Request → Prop
  | _, [] => True
  | library, request :: rest =>
      (∀ order, Order.ofRequest request = .ok order → Fair library order) ∧
        Considerate (library.attend request).2 rest

theorem distinct_put (distinct : Distinct library) {ids : Nat} (grows : library.ids ≤ ids) (name version : String)
    {group : Group} (tidy : Tidy ids group.entries) :
    Distinct { library.put ⟨.group, name, version⟩ group with ids } := by
  intro name' version' other found
  by_cases same : (⟨.group, name, version⟩ : Place) = ⟨.group, name', version'⟩
  · cases same
    have here : some group = some other := (Finmap.lookup_insert library.items).symm.trans found
    cases here
    exact tidy
  · have there := (put_elsewhere library group same).symm.trans found
    exact tidy_later (distinct name' version' other there) grows

theorem distinct_ids (distinct : Distinct library) {ids : Nat} (grows : library.ids ≤ ids) :
    Distinct { library with ids } :=
  fun name version group found => tidy_later (distinct name version group found) grows

theorem distinct_elsewhere (distinct : Distinct library) {other : Library} (grows : library.ids ≤ other.ids)
    (same : ∀ name version group, other.items.lookup ⟨.group, name, version⟩ = some group →
      library.items.lookup ⟨.group, name, version⟩ = some group) : Distinct other :=
  fun name version group found => tidy_later (distinct name version group (same name version group found)) grows

theorem in_group_distinct {name version : String} {act : Group → Response × Library} (distinct : Distinct library)
    (keeps : ∀ group, library.items.lookup ⟨.group, name, version⟩ = some group → Distinct (act group).2) :
    Distinct (library.inGroup name version act).2 := by
  rw [inGroup]
  cases found : library.items.lookup ⟨.group, name, version⟩ with
  | none => exact distinct
  | some group => exact keeps group found

theorem create_distinct (distinct : Distinct library) {kind : Kind} {item : Item kind}
    (fair : Fair library (.create kind item)) : Distinct (library.carryOut (.create kind item)).2 := by
  cases kind with
  | configuration =>
      have grows : library.ids ≤ (item.numbered.run library.ids).2 := number_id_grows "" library.ids
      simp only [carryOut]
      split
      · exact distinct_ids distinct grows
      · apply distinct_elsewhere distinct grows
        intro name version group found
        have apart : (⟨.configuration, item.name, item.version⟩ : Place) ≠ ⟨.group, name, version⟩ := by
          intro same
          cases congrArg Place.kind same
        exact (put_elsewhere library (item.numbered.run library.ids).1 apart).symm.trans found
  | group =>
      obtain ⟨apart, past⟩ := fair
      let middle := ((numberId (Group.id item)).run library.ids).2
      have first : library.ids ≤ middle := number_id_grows _ _
      have still : ∀ id ∈ brought (Group.entries item), Past middle id :=
        fun id among => past_later (past id among) first
      have grows : library.ids ≤ (item.numbered.run library.ids).2 :=
        first.trans (number_entries_ids (Group.entries item) middle apart still).1
      have tidy : Tidy (item.numbered.run library.ids).2 (Group.entries (item.numbered.run library.ids).1) :=
        tidy_numbered apart still
      simp only [carryOut]
      split
      · exact distinct_ids distinct grows
      · exact distinct_put distinct grows _ _ tidy

theorem carry_out_distinct (distinct : Distinct library) {order : Order} (fair : Fair library order) :
    Distinct (library.carryOut order).2 := by
  cases order with
  | create kind item => exact create_distinct distinct fair
  | fetch place =>
      simp only [carryOut]
      split <;> exact distinct
  | delete place =>
      simp only [carryOut]
      split
      · exact distinct
      · apply distinct_elsewhere distinct
        · exact Nat.le_refl _
        intro name version group found
        by_cases same : (⟨.group, name, version⟩ : Place) = place
        · subst same
          rw [Finmap.lookup_erase] at found
          cases found
        · rwa [Finmap.lookup_erase_ne same] at found
  | add name version entry =>
      apply in_group_distinct distinct
      intro group found
      dsimp only
      split
      · exact distinct
      · have fresh : entry.id ≠ "" → Past library.ids entry.id ∧ entry.id ∉ group.entries.map Entry.id := by
          intro brings
          obtain ⟨past, unlike⟩ := fair brings
          exact ⟨past, unlike group found⟩
        have grows : library.ids ≤ ((numberEntry entry).run library.ids).2 :=
          (number_id_grows entry.id library.ids).trans (number_entry_grows entry library.ids)
        exact distinct_put distinct grows name version (tidy_append (distinct name version group found) fresh)
  | remove name version entryId =>
      apply in_group_distinct distinct
      intro group found
      dsimp only
      split
      · exact distinct_put distinct (Nat.le_refl _) name version (tidy_filter (distinct name version group found) _)
      · exact distinct
  | list name version filter => exact in_group_distinct distinct fun _ _ => distinct
  | discard name version filter =>
      apply in_group_distinct distinct
      intro group found
      exact distinct_put distinct (Nat.le_refl _) name version (tidy_filter (distinct name version group found) _)

theorem attend_distinct (distinct : Distinct library) {request : Request}
    (fair : ∀ order, Order.ofRequest request = .ok order → Fair library order) :
    Distinct (library.attend request).2 := by
  rw [attend, answer]
  cases asked : Order.ofRequest request with
  | error response => exact distinct
  | ok order => exact carry_out_distinct distinct (fair order asked)

theorem attend_all_distinct (distinct : Distinct library) {requests : List Request}
    (considerate : Considerate library requests) : Distinct (library.attendAll requests).2 := by
  induction requests generalizing library with
  | nil => exact distinct
  | cons request rest ih =>
      obtain ⟨fair, later⟩ := considerate
      exact ih (attend_distinct distinct fair) later

theorem empty_distinct : Distinct empty := by
  intro name version group found
  rw [empty, Finmap.lookup_empty] at found
  cases found

end Groups

section Removals

variable {α : Type} [Amount α] {library : Library} {machine : Machine}

-- A library is held by one memory.
theorem holds_unique {memory other : Memory} (holds : Holds memory library) (holds' : Holds other library) :
    memory = other := by
  have stored (key : String) : (∃ place : Place, place.key = key) → memory.get? key = other.get? key := by
    rintro ⟨place, rfl⟩
    rw [holds.stored, holds'.stored]
  apply KeyMap.eq_of_get
  intro key
  cases here : memory.get? key with
  | some bytes => rw [← here, stored key (holds.only key bytes here)]
  | none =>
      cases there : other.get? key with
      | none => rfl
      | some bytes => rw [← here, ← there, stored key (holds'.only key bytes there)]

theorem stored_group (stands : Stands machine library) {name version : String} {group : Group}
    (lies : machine.memory.get? (Kind.group.key name version) = some group.encode) :
    library.items.lookup ⟨.group, name, version⟩ = some group := by
  have stored : machine.memory.get? (Kind.group.key name version) = _ :=
    stands.reflects.holds.stored ⟨.group, name, version⟩
  rw [lies] at stored
  cases found : library.items.lookup ⟨.group, name, version⟩ with
  | none =>
      rw [found] at stored
      cases stored
  | some other =>
      rw [found, Option.map_some, Option.some.injEq] at stored
      exact congrArg some (@encode_injective .group group other stored).symm

-- What a removal answers, and what it leaves in the store.
theorem removal_served (desk : Desk) (stands : Stands machine library) {visit : Visit α} (welcome : visit.Welcome)
    {name version entryId : String} (asked : Order.ofRequest visit.request = .ok (.remove name version entryId))
    {group : Group} (lies : machine.memory.get? (Kind.group.key name version) = some group.encode) :
    ((visit.serve desk machine).1, (visit.serve desk machine).2.memory) =
      if group.hasEntry entryId then
        (told (.json 200 (group.remove entryId).encode),
          machine.memory.insert (Kind.group.key name version) (group.remove entryId).encode)
      else (told (ServiceFailure.notFound (Service.inGroup entryId name version)).response, machine.memory) := by
  have found := stored_group stands lies
  obtain ⟨answered, after⟩ := serve_attends desk welcome stands
  have attended : library.attend visit.request = library.carryOut (.remove name version entryId) := by
    rw [attend, asked, answer_whole _ (change_whole asked rfl), respond]
  rw [attended, carryOut, Library.inGroup, found] at answered after
  dsimp only at answered after
  by_cases present : group.hasEntry entryId = true
  · have present' : (group.entries.any fun entry => entry.id == entryId) = true := present
    rw [if_pos present'] at answered after
    rw [if_pos present, answered]
    obtain ⟨path, names, versions⟩ := stands.reflects.holds.filed ⟨.group, name, version⟩ group found
    have kept := holds_put stands.reflects.holds ⟨.group, name, version⟩ path (group.remove entryId) names versions
    exact congrArg (Prod.mk _) (holds_unique after.reflects.holds kept)
  · have absent' : ¬ (group.entries.any fun entry => entry.id == entryId) = true := present
    rw [if_neg absent'] at answered after
    rw [if_neg present, answered]
    exact congrArg (Prod.mk _) (holds_unique after.reflects.holds stands.reflects.holds)

theorem remove_one {group : Group} (distinct : (group.entries.map Entry.id).Nodup) {front back : List Entry}
    {entry : Entry} (entries : group.entries = front ++ entry :: back) :
    group.remove entry.id = { group with entries := front ++ back } := by
  rw [entries, List.map_append, List.map_cons, List.nodup_append, List.nodup_cons] at distinct
  obtain ⟨-, ⟨behind, -⟩, before⟩ := distinct
  have keep : ∀ other ∈ front ++ back, (other.id != entry.id) = true := by
    intro other among
    rw [bne_iff_ne]
    intro same
    rcases List.mem_append.mp among with first | last
    · exact before _ (List.mem_map_of_mem first) _ List.mem_cons_self same
    · exact behind (same ▸ List.mem_map_of_mem last)
  have keeps := List.filter_eq_self.mpr keep
  rw [Group.remove, entries, ← keeps]
  simp

theorem removal_by_entry_id (desk : Desk) (visits : List (Visit α)) (welcome : ∀ visit ∈ visits, visit.Welcome) :
    let machine := (serveAll desk {} visits).2
    ∀ (name version : String) (group : Group),
      machine.memory.get? (Kind.group.key name version) = some group.encode →
      (∀ (visit : Visit α) (entryId : String), visit.Welcome →
        Order.ofRequest visit.request = .ok (.remove name version entryId) →
        ((visit.serve desk machine).1, (visit.serve desk machine).2.memory) =
          if group.hasEntry entryId then
            (told (.json 200 (group.remove entryId).encode),
              machine.memory.insert (Kind.group.key name version) (group.remove entryId).encode)
          else (told (ServiceFailure.notFound (Service.inGroup entryId name version)).response, machine.memory)) ∧
      (Considerate empty (visits.map Visit.request) → (group.entries.map Entry.id).Nodup ∧
        ∀ (front : List Entry) (entry : Entry) (back : List Entry), group.entries = front ++ entry :: back →
          group.remove entry.id = { group with entries := front ++ back }) := by
  intro machine name version group lies
  obtain ⟨-, stands⟩ := serve_all_attends desk welcome empty_stands
  constructor
  · intro visit entryId invited asked
    exact removal_served desk stands invited asked lies
  · intro considerate
    have distinct := (attend_all_distinct empty_distinct considerate name version group (stored_group stands lies)).1
    exact ⟨distinct, fun _ _ _ entries => remove_one distinct entries⟩

end Removals

section Pairs

-- A group of two entries with the given ids.
def pairOf (first second : String) : Group where
  id := "g"
  name := "web"
  version := "1"
  entries :=
    [{ id := first, configuration := { id := "c1", name := "app", version := "1" } },
      { id := second, configuration := { id := "c2", name := "db", version := "1" } }]

def posting (target : String) (body : Bytes) : Visit Rat where
  gate := { rate := 1, burst := 1 }
  clock := ⟨0, 0, 0⟩
  request :=
    { method := "POST", target := Text.toBytes target, contentType := some (Text.toBytes "application/json"), body }

def submitting (group : Group) : Visit Rat := posting "/groups" group.encode

def removing (entryId : String) : Visit Rat :=
  posting "/groups/web/versions/1/remove-config" (Text.toBytes ("\x7b\"configId\":\"" ++ entryId ++ "\"\x7d"))

theorem posting_welcome {target : String} (body : Bytes)
    (items : Route.find? (Http.Target.parse (Text.toBytes target)).segments ≠ some .health) :
    (posting target body).Welcome := by
  refine ⟨rfl, items, fun _ _ _ => ?_⟩
  change (Gate.enter ({ rate := 1, burst := 1 } : Gate Rat) unknownIdentity 0).1 = true
  decide +kernel

variable {group : Group}

theorem submitting_welcome (group : Group) : (submitting group).Welcome := posting_welcome _ (by decide)

theorem removing_welcome (entryId : String) : (removing entryId).Welcome := posting_welcome _ (by decide)

theorem submitting_asks (read : readBody Group.decoder (submitting group).request = .ok group)
    (sound : group.check = .ok ()) :
    Order.ofRequest (submitting group).request = .ok (.create .group group) := by
  change Order.creation .group (submitting group).request = _
  rw [Order.creation]
  change (Order.refused (readBody Group.decoder (submitting group).request) >>= _) = _
  rw [read]
  change (Order.refused group.check >>= _) = _
  rw [sound]
  rfl

-- A group whose ids are all there is stored as it was sent.
theorem submitted_lies (desk : Desk) {item : Item .group}
    (asked : Order.ofRequest (submitting item).request = .ok (.create .group item))
    (named : item.numbered.run 0 = (item, 0)) :
    (serveAll desk {} [submitting item]).2.memory.get? (Place.key ⟨.group, item.name, item.version⟩) =
      some item.encode := by
  have welcome : ∀ visit ∈ [submitting item], visit.Welcome := by
    simpa using submitting_welcome item
  obtain ⟨-, stands⟩ := serve_all_attends desk welcome empty_stands
  have created : (empty.attend (submitting item).request).2.items.lookup ⟨.group, item.name, item.version⟩ =
      some item := by
    rw [attend, asked, answer_whole _ (by simp [submitting, posting]), respond, carryOut]
    simp only [empty, Finmap.lookup_empty, named]
    exact Finmap.lookup_insert _
  exact holds_found stands.reflects.holds created

-- Of two entries with one id both are removed.
theorem shared_id_removes_both :
    let desk : Desk := { scope := "idempotency" }
    let machine := (serveAll desk {} [submitting (pairOf "e" "e")]).2
    let emptied : Group := { pairOf "e" "e" with entries := [] }
    (submitting (pairOf "e" "e")).Welcome ∧ (removing "e").Welcome ∧
      machine.memory.get? "groups/web/1" = some (pairOf "e" "e").encode ∧
      ¬ ((pairOf "e" "e").entries.map Entry.id).Nodup ∧
      ((removing "e").serve desk machine).1 = told (.json 200 emptied.encode) := by
  intro desk machine emptied
  have asked : Order.ofRequest (submitting (pairOf "e" "e")).request = .ok (.create .group (pairOf "e" "e")) :=
    submitting_asks (by decide +kernel) (by decide +kernel)
  have lies : machine.memory.get? "groups/web/1" = some (pairOf "e" "e").encode := submitted_lies desk asked rfl
  have welcome : ∀ visit ∈ [submitting (pairOf "e" "e")], visit.Welcome := by
    simpa using submitting_welcome _
  obtain ⟨-, stands⟩ := serve_all_attends desk welcome empty_stands
  have served := removal_served desk stands (removing_welcome "e") rfl lies
  refine ⟨submitting_welcome _, removing_welcome "e", lies, by decide, ?_⟩
  exact congrArg Prod.fst served

-- Of two entries with different ids one is removed.
theorem removal_by_entry_id_of_two :
    let desk : Desk := { scope := "idempotency" }
    let machine := (serveAll desk {} [submitting (pairOf "e" "f")]).2
    let shorter : Group := { pairOf "e" "f" with entries := (pairOf "e" "f").entries.drop 1 }
    ((pairOf "e" "f").entries.map Entry.id).Nodup ∧
      ((removing "e").serve desk machine).1 = told (.json 200 shorter.encode) ∧
      ((removing "e").serve desk machine).2.memory = machine.memory.insert "groups/web/1" shorter.encode := by
  intro desk machine shorter
  have asked : Order.ofRequest (submitting (pairOf "e" "f")).request = .ok (.create .group (pairOf "e" "f")) :=
    submitting_asks (by decide +kernel) (by decide +kernel)
  have lies : machine.memory.get? "groups/web/1" = some (pairOf "e" "f").encode := submitted_lies desk asked rfl
  have welcome : ∀ visit ∈ [submitting (pairOf "e" "f")], visit.Welcome := by
    simpa using submitting_welcome _
  have considerate : Considerate empty [(submitting (pairOf "e" "f")).request] := by
    refine ⟨fun order same => ?_, trivial⟩
    rw [asked] at same
    cases same
    have short : ∀ id ∈ brought (pairOf "e" "f").entries, id.length < 24 := by decide
    exact ⟨by decide, fun id among => past_short (short id among)⟩
  obtain ⟨removes, tidy⟩ := removal_by_entry_id desk _ welcome "web" "1" (pairOf "e" "f") lies
  have served := removes (removing "e") "e" (removing_welcome "e") rfl
  exact ⟨(tidy considerate).1, congrArg Prod.fst served, congrArg Prod.snd served⟩

end Pairs
end ConfigRegistry.Library
